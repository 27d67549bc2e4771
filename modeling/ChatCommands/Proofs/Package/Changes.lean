import ChatCommands.Package.Walk
import Mathlib.Logic.Relation

/-!
# What loading changes

However deep modules load one another and wherever loading them ends, the loader goes through
single *changes*: a module is opened without variables or taken out, and a variable is bound to a
module, to what another variable holds, or to the value that a term of some file builds.  What every
change keeps is therefore kept by loading, by listing a package and by importing its modules.

## Main definitions

* `FileTree.Writes` : a term of a file.
* `Loader.Change`, `Loader.Changes` : a change, and changes one after another.

## Main results

* `Loader.changes_load` : loading a module only makes such changes.
* `changes_importModule`, `changes_modulesOf` : so do importing a module and listing a package.
-/

namespace ChatCommands

namespace FileTree

/-- The source of a file. -/
def HasSource (tree : FileTree) (source : ModuleSource) : Prop :=
  ∃ f ∈ tree.files, f.2 = source

/-- A term that a file binds a variable to. -/
def Writes (tree : FileTree) (t : Term) : Prop :=
  ∃ source, tree.HasSource source ∧ ∃ name, (name, Binding.term t) ∈ source.bindings

variable {tree : FileTree} {directory : Path} {name : String}

theorem hasSource_of_moduleFile? {file : String} {source : ModuleSource}
    (h : tree.moduleFile? directory name = some (file, source)) : tree.HasSource source := by
  obtain ⟨candidate, -, hfile⟩ := List.exists_of_findSome?_eq_some h
  obtain ⟨found, hfound, heq⟩ := Option.map_eq_some_iff.mp hfile
  cases heq
  obtain ⟨front, back, hfiles, -⟩ := List.lookup_eq_some_iff.mp hfound
  exact ⟨(directory ++ [file], source), by rw [hfiles]; simp, rfl⟩

/-- The source that a location has is that of a file. -/
theorem hasSource_of_locate {location : Location} (h : tree.locate directory name = some location) :
    (∀ source, location = .file source → tree.HasSource source) ∧
      ∀ path source, location = .package path source → tree.HasSource source := by
  unfold locate at h
  split at h
  · cases h
  · dsimp only at h
    split at h
    · rename_i file source hfile
      cases h
      split
      · exact ⟨nofun, fun _ _ heq => by cases heq; exact hasSource_of_moduleFile? hfile⟩
      · exact ⟨nofun, nofun⟩
    · split at h
      · rename_i file source hfile
        cases h
        split
        · exact ⟨fun _ heq => by cases heq; exact hasSource_of_moduleFile? hfile, nofun⟩
        · exact ⟨nofun, nofun⟩
      · split at h
        · cases h
          exact ⟨nofun, nofun⟩
        · cases h

end FileTree

namespace Loader

/-- A single change of the loaded modules. -/
inductive Change (tree : FileTree) (l : Loader) : Loader → Prop
  | opened (name : String) (directory : Option Path) : Change tree l (l.put name ⟨[], directory⟩)
  | closed (name : String) : Change tree l (l.erase name)
  | marked (moduleName name : String) : Change tree l (l.bind moduleName name none)
  | copied (moduleName name : String) {other : String} {m : LoadedModule} {variableName : String}
      {v : Option Value} (hother : l.module? other = some m)
      (hv : m.bindings.lookup variableName = some v) : Change tree l (l.bind moduleName name v)
  | built (moduleName name : String) {t : Term} {v : Value} {serial : Nat} (ht : tree.Writes t)
      (hv : (t.build l.scope).run l.serial = .ok (v, serial)) :
      Change tree l ({ l with serial := serial }.bind moduleName name (some v))

/-- Changes one after another. -/
def Changes (tree : FileTree) : Loader → Loader → Prop :=
  Relation.ReflTransGen (Change tree)

variable {tree : FileTree}

theorem Changes.refl (l : Loader) : Changes tree l l :=
  Relation.ReflTransGen.refl

theorem Changes.of_change {l l' : Loader} (h : Change tree l l') : Changes tree l l' :=
  Relation.ReflTransGen.single h

theorem Changes.trans {l l' l'' : Loader} (h : Changes tree l l') (h' : Changes tree l' l'') :
    Changes tree l l'' :=
  Relation.ReflTransGen.trans h h'

/-- The changes up to what an operation leaves behind. -/
theorem Changes.of_eq {α : Type} {l l' : Loader} {x : Loader × α} {r : α}
    (h : Changes tree l x.1) (hx : x = (l', r)) : Changes tree l l' := by
  rw [hx] at h
  exact h

theorem changes_bindTerm (l : Loader) (moduleName name : String) {t : Term} (ht : tree.Writes t) :
    Changes tree l (l.bindTerm moduleName name t).1 := by
  unfold bindTerm
  split
  · rename_i hv
    exact .of_change (.built moduleName name ht hv)
  · exact .refl l

section Nested

variable {loadOther : Loader → String → Loading Unit}
  (hother : ∀ l name, Changes tree l (loadOther l name).1)

include hother

theorem changes_bindForeign (l : Loader) (moduleName name fromModule variableName : String) :
    Changes tree l (bindForeign loadOther l moduleName name fromModule variableName).1 := by
  unfold bindForeign
  split
  · exact .refl l
  · rename_i source hsource
    split
    · rename_i v hv
      exact .of_change (.copied moduleName name hsource hv)
    · split
      · exact .refl l
      · have hloaded := hother l (fromModule ++ "." ++ variableName)
        split
        · rename_i l' hl
          exact (hloaded.of_eq hl).trans (.of_change (.marked moduleName name))
        · rename_i l' e hl
          exact hloaded.of_eq hl

theorem changes_runBindings (moduleName : String) (l : Loader)
    (bindings : List (String × Binding))
    (hbindings : ∀ name t, (name, Binding.term t) ∈ bindings → tree.Writes t) :
    Changes tree l (runBindings loadOther moduleName l bindings).1 := by
  induction bindings generalizing l with
  | nil => exact .refl l
  | cons binding rest ih =>
    have hrest (l : Loader) : Changes tree l (runBindings loadOther moduleName l rest).1 :=
      ih l fun name t ht => hbindings name t (List.mem_cons_of_mem _ ht)
    obtain ⟨name, t | ⟨fromModule, variableName⟩⟩ := binding
    · have hterm := changes_bindTerm l moduleName name (hbindings name t List.mem_cons_self)
      unfold runBindings
      split
      · rename_i l' hl
        exact (hterm.of_eq hl).trans (hrest l')
      · rename_i l' e hl
        exact hterm.of_eq hl
    · have hloaded := hother l fromModule
      unfold runBindings
      split
      · rename_i l' e hl
        exact hloaded.of_eq hl
      · rename_i l' hl
        have hforeign := changes_bindForeign hother l' moduleName name fromModule variableName
        split
        · rename_i l'' hl'
          exact (hloaded.of_eq hl).trans ((hforeign.of_eq hl').trans (hrest l''))
        · rename_i l'' e hl'
          exact (hloaded.of_eq hl).trans (hforeign.of_eq hl')

theorem changes_runSource (name : String) (l : Loader) {source : ModuleSource}
    (hsource : tree.HasSource source) :
    Changes tree l (runSource loadOther name l source).1 := by
  have hbindings := changes_runBindings hother name l source.bindings
    fun variableName t ht => ⟨source, hsource, variableName, ht⟩
  unfold runSource
  split
  · exact .of_change (.closed name)
  · split
    · rename_i l' hl
      exact hbindings.of_eq hl
    · rename_i l' e hl
      exact (hbindings.of_eq hl).trans (.of_change (.closed name))

theorem changes_loadLocation (name : String) (l : Loader) {directory : Path} {step : String}
    {location : Location} (hlocation : tree.locate directory step = some location) :
    Changes tree l (loadLocation loadOther name l location).1 := by
  obtain ⟨hfile, hpackage⟩ := FileTree.hasSource_of_locate hlocation
  cases location with
  | file source =>
    exact (Changes.of_change (.opened name none)).trans
      (changes_runSource hother name _ (hfile source rfl))
  | package directory source =>
    exact (Changes.of_change (.opened name (some directory))).trans
      (changes_runSource hother name _ (hpackage directory source rfl))
  | bare directory => exact .of_change (.opened name (some directory))
  | unloadable => exact .refl l

theorem changes_loadStep (l : Loader) (package : Option String) (step : String) :
    Changes tree l (loadStep tree loadOther l package step).1 := by
  unfold loadStep
  dsimp only
  split
  · exact .refl l
  · split
    · exact .refl l
    · rename_i location hlocation
      obtain ⟨directory, -, hlocation⟩ := Option.bind_eq_some_iff.mp hlocation
      split
      · rename_i l' e hl
        exact (changes_loadLocation hother _ l hlocation).of_eq hl
      · rename_i l' hl
        have hloaded := (changes_loadLocation hother _ l hlocation).of_eq hl
        cases package with
        | none => exact hloaded
        | some p => exact hloaded.trans (.of_change (.marked p step))

theorem changes_loadSteps (package : Option String) (l : Loader) (steps : List String) :
    Changes tree l (loadSteps tree loadOther package l steps).1 := by
  induction steps generalizing package l with
  | nil => exact .refl l
  | cons step rest ih =>
    have hstep := changes_loadStep hother l package step
    unfold loadSteps
    split
    · rename_i l' e hl
      exact hstep.of_eq hl
    · rename_i l' hl
      exact (hstep.of_eq hl).trans (ih _ l')

end Nested

theorem changes_loadWithin (fuel : Nat) (l : Loader) (name : String) :
    Changes tree l (loadWithin tree fuel l name).1 := by
  induction fuel generalizing l name with
  | zero => exact .refl l
  | succ fuel ih => exact changes_loadSteps ih none l (Text.dotted name)

variable (tree)

/-- Loading a module makes changes, whether or not it ends with an error. -/
theorem changes_load (l : Loader) (name : String) : Changes tree l (l.load tree name).1 :=
  changes_loadWithin tree.bound l name

end Loader

open Loader

variable (tree : FileTree)

theorem changes_walk (fuel : Nat) (l : Loader) (package : String)
    (listed : List (String × Bool)) : Changes tree l (walk tree fuel l package listed).1 := by
  induction fuel generalizing l package listed with
  | zero =>
    cases listed <;> exact .refl l
  | succ fuel ih =>
    cases listed with
    | nil => exact .refl l
    | cons m rest =>
      obtain ⟨name, isPackage⟩ := m
      have hloaded := changes_load tree l (memberName package name)
      unfold walk
      dsimp only
      generalize hinner : (if isPackage = true then _ else _) = inner
      have hchanged : Changes tree l inner.1 := by
        subst hinner
        split
        · split
          · rename_i l' hl
            split
            · exact (hloaded.of_eq hl).trans (ih l' _ _)
            · exact hloaded.of_eq hl
          · rename_i l' e hl
            split <;> exact hloaded.of_eq hl
        · exact .refl l
      split
      · exact hchanged
      · rename_i l' names
        have hrest := ih l' package rest
        split
        · rename_i l'' others hl
          exact hchanged.trans (hrest.of_eq hl)
        · rename_i l'' e hl
          exact hchanged.trans (hrest.of_eq hl)

theorem changes_importModule (l : Loader) (name : String) :
    Changes tree l (importModule tree l name).1 := by
  have hloaded := changes_load tree l name
  unfold importModule
  split
  · exact .refl l
  · split
    · rename_i l' hl
      exact hloaded.of_eq hl
    · rename_i l' e hl
      exact hloaded.of_eq hl

theorem changes_members (l : Loader) (package : String) (directory : Path) (recursive : Bool) :
    Changes tree l (members tree l package directory recursive).1 := by
  have hwalked := changes_walk tree tree.bound l package (tree.listed directory)
  unfold members
  split
  · split
    · rename_i l' names hl
      exact hwalked.of_eq hl
    · rename_i l' e hl
      exact hwalked.of_eq hl
  · exact .refl l

/-- Listing a package makes changes, whether or not it ends with an error. -/
theorem changes_modulesOf (l : Loader) (package : Value) (recursive : Bool) :
    Changes tree l (modulesOf tree l package recursive).1 := by
  unfold modulesOf
  split
  · rename_i name
    have himported := changes_importModule tree l name
    split
    · rename_i l' e hl
      exact himported.of_eq hl
    · rename_i l' hl
      split
      · exact himported.of_eq hl
      · rename_i directory hdirectory
        have hmembers := changes_members tree l' name directory recursive
        split
        · rename_i l'' names hl'
          exact (himported.of_eq hl).trans (hmembers.of_eq hl')
        · rename_i l'' e hl'
          exact (himported.of_eq hl).trans (hmembers.of_eq hl')
  · exact .refl l

end ChatCommands
