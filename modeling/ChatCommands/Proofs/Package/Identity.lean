import ChatCommands.Proofs.Definition.Serial
import ChatCommands.Proofs.Package.Changes
import ChatCommands.Proofs.Registry.Selection

/-!
# Identity of the commands of loaded modules

Among all commands that loaded modules hold, at every depth, no two share a serial number, whatever
has been loaded and wherever loading has failed.

## Main definitions

* `FileTree.IsWritten` : files whose terms hold commands only as they are written.
* `Loader.commands` : the commands of the loaded modules.
* `Loader.IsIdentified` : they have serial numbers that are in use, each of its own.

## Main results

* `Loader.IsIdentified.of_change`, `Loader.IsIdentified.of_changes` : loading keeps this.
* `Loader.IsIdentified.isIdentified_valuesOf` : it holds of each module.
-/

namespace ChatCommands

/-- All terms of the files hold commands only as they are written. -/
def FileTree.IsWritten (tree : FileTree) : Prop :=
  ∀ t, tree.Writes t → t.IsWritten

theorem LoadedModule.mem_values {m : LoadedModule} {v : Value} :
    v ∈ m.values ↔ ∃ name, (name, some v) ∈ m.bindings := by
  simp [values]

theorem LoadedModule.mem_values_of_lookup {m : LoadedModule} {name : String} {v : Value}
    (h : m.bindings.lookup name = some (some v)) : v ∈ m.values := by
  obtain ⟨front, back, hsplit, -⟩ := List.lookup_eq_some_iff.mp h
  exact mem_values.mpr ⟨name, by rw [hsplit]; simp⟩

/-- Setting a variable brings in its value only. -/
theorem LoadedModule.mem_values_put {m : LoadedModule} {name : String} {v : Option Value}
    {w : Value} (h : w ∈ (m.put name v).values) : w ∈ m.values ∨ v = some w := by
  obtain ⟨key, hkey⟩ := mem_values.mp h
  simp only [put] at hkey
  split at hkey
  · obtain ⟨e, he, heq⟩ := List.mem_map.mp hkey
    split at heq
    · cases heq
      exact .inr rfl
    · subst heq
      exact .inl (mem_values.mpr ⟨key, he⟩)
  · rcases List.mem_append.mp hkey with hkey | hkey
    · exact .inl (mem_values.mpr ⟨key, hkey⟩)
    · cases List.mem_singleton.mp hkey
      exact .inr rfl

namespace Loader

/-- The commands that the variables of loaded modules hold, at every depth. -/
def commands (l : Loader) : Set Command :=
  {c | ∃ e ∈ l.modules, ∃ v ∈ e.2.values, c ∈ nodes v}

/-- The commands of the loaded modules have serial numbers that are in use, each of its own. -/
def IsIdentified (l : Loader) : Prop :=
  IsNumbered l.commands l.serial

theorem mem_modules_of_module? {l : Loader} {name : String} {m : LoadedModule}
    (h : l.module? name = some m) : (name, m) ∈ l.modules := by
  obtain ⟨front, back, hsplit, -⟩ := List.lookup_eq_some_iff.mp h
  rw [hsplit]
  simp

/-- The values of a loaded module hold commands of the loaded modules. -/
theorem isFrom_commands {l : Loader} {name : String} {m : LoadedModule}
    (h : l.module? name = some m) {v : Value} (hv : v ∈ m.values) : v.IsFrom l.commands :=
  fun _ hc => ⟨(name, m), mem_modules_of_module? h, v, hv, hc⟩

theorem isFrom_scope (l : Loader) : l.scope.IsFrom l.commands := by
  intro moduleName name v hv
  obtain ⟨m, hm, hvalue⟩ := Option.bind_eq_some_iff.mp hv
  exact isFrom_commands hm (LoadedModule.mem_values_of_lookup (Option.join_eq_some_iff.mp hvalue))

theorem commands_put (l : Loader) (name : String) (m : LoadedModule) {known : Set Command}
    (hl : l.commands ⊆ known) (hm : ∀ v ∈ m.values, v.IsFrom known) :
    (l.put name m).commands ⊆ known := by
  rintro c ⟨e, he, v, hv, hc⟩
  rcases List.mem_append.mp he with he | he
  · exact hl ⟨e, List.mem_of_mem_filter he, v, hv, hc⟩
  · cases List.mem_singleton.mp he
    exact hm v hv c hc

theorem commands_erase (l : Loader) (name : String) : (l.erase name).commands ⊆ l.commands := by
  rintro c ⟨e, he, v, hv, hc⟩
  exact ⟨e, List.mem_of_mem_filter he, v, hv, hc⟩

theorem commands_bind (l : Loader) (moduleName name : String) {v : Option Value}
    {known : Set Command} (hl : l.commands ⊆ known) (hv : ∀ w, v = some w → w.IsFrom known) :
    (l.bind moduleName name v).commands ⊆ known := by
  unfold bind
  split
  · rename_i m hm
    refine commands_put l moduleName _ hl fun w hw => ?_
    rcases LoadedModule.mem_values_put hw with hw | hw
    · exact (isFrom_commands hm hw).mono hl
    · exact hv w hw
  · exact hl

theorem serial_bind (l : Loader) (moduleName name : String) (v : Option Value) :
    (l.bind moduleName name v).serial = l.serial := by
  unfold bind
  split <;> rfl

/-- A single change keeps the commands numbered. -/
theorem IsIdentified.of_change {tree : FileTree} (htree : tree.IsWritten) {l l' : Loader}
    (h : l.IsIdentified) (hchange : Change tree l l') : l'.IsIdentified := by
  unfold IsIdentified at h ⊢
  cases hchange with
  | opened name directory => exact h.mono (commands_put l name _ subset_rfl nofun)
  | closed name => exact h.mono (commands_erase l name)
  | marked moduleName name =>
    rw [serial_bind]
    exact h.mono (commands_bind l moduleName name subset_rfl nofun)
  | copied moduleName name hother hv =>
    rw [serial_bind]
    refine h.mono (commands_bind l moduleName name subset_rfl fun w hw => ?_)
    subst hw
    exact isFrom_commands hother (LoadedModule.mem_values_of_lookup hv)
  | built moduleName name ht hv =>
    rw [serial_bind]
    obtain ⟨known, hsub, hknown, hfrom⟩ :=
      Term.keeps_build l.scope _ (htree _ ht) h l.isFrom_scope _ _ hv
    refine hknown.mono (commands_bind _ moduleName name hsub fun w hw => ?_)
    cases hw
    exact hfrom

/-- Loading keeps the commands numbered. -/
theorem IsIdentified.of_changes {tree : FileTree} (htree : tree.IsWritten) {l l' : Loader}
    (h : l.IsIdentified) (hchanges : Changes tree l l') : l'.IsIdentified := by
  induction hchanges with
  | refl => exact h
  | tail _ hchange ih => exact ih.of_change htree hchange

theorem isIdentified_empty : empty.IsIdentified where
  lt := by rintro c ⟨e, he, -⟩; cases he
  unique := by rintro c ⟨e, he, -⟩; cases he

/-- The values of the variables of a module, none when it is not loaded. -/
def valuesOf (l : Loader) (name : String) : List Value :=
  ((l.module? name).map LoadedModule.values).getD []

/-- No two commands of a module share a serial number. -/
theorem IsIdentified.isIdentified_valuesOf {l : Loader} (h : l.IsIdentified) (name : String) :
    ChatCommands.IsIdentified (nodesOf (boundCommands (l.valuesOf name))) := by
  have hmem {c : Command} (hc : c ∈ nodesOf (boundCommands (l.valuesOf name))) :
      c ∈ l.commands := by
    obtain ⟨d, hd, hcd⟩ := mem_nodesOf.mp hc
    have hvalue := mem_boundCommands.mp hd
    cases hm : l.module? name with
    | none =>
      rw [valuesOf, hm] at hvalue
      exact absurd hvalue List.not_mem_nil
    | some m =>
      rw [valuesOf, hm] at hvalue
      exact isFrom_commands hm hvalue c hcd
  exact fun c hc d hd => h.unique c (hmem hc) d (hmem hd)

end Loader

end ChatCommands
