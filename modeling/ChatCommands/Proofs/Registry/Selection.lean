import ChatCommands.Proofs.Registry.Walk
import Mathlib.Data.List.Induction
import Mathlib.Data.Set.Finite.Lemmas

/-!
# The roots of a module

The roots of a module are its commands that are not below another of its commands.  The walk finds
exactly these when it ends, and when it does not, one of them is malformed: what the walk cannot go
through lies below some root, and no well-formed tree has it.

## Main definitions

* `boundCommands` : the commands that the variables of a module hold.
* `IsRootAmong` : a root of a module.
* `IsFlawed` : a module with a malformed root.

## Main results

* `rootsOf_eq_ok_iff`, `mem_rootsOf_iff` : when the roots of a module are found, and which.
* `exists_isRootAmong` : every command of a module is a root or below one.
* `isFlawed_of_not_areWalkable` : a module with a command that is not walkable is flawed.
-/

namespace ChatCommands

/-- The commands among some values. -/
def boundCommands (values : List Value) : List Command :=
  values.filterMap Value.command?

theorem mem_boundCommands {values : List Value} {c : Command} :
    c ∈ boundCommands values ↔ .command c ∈ values := by
  rw [boundCommands, List.mem_filterMap]
  constructor
  · rintro ⟨v, hv, hc⟩
    rwa [Value.eq_command_of_command? hc] at hv
  · exact fun h => ⟨.command c, h, rfl⟩

/-! ### Found commands -/

/-- One more variable brings a command only if its serial number is new. -/
theorem foundCommands_concat (values : List Value) (v : Value) :
    (foundCommands (values ++ [v]) = foundCommands values ∧
        ∀ c, v = .command c → ∃ d ∈ foundCommands values, d.serial = c.serial) ∨
      ∃ c, v = .command c ∧ (∀ d ∈ foundCommands values, d.serial ≠ c.serial) ∧
        foundCommands (values ++ [v]) = foundCommands values ++ [c] := by
  rw [foundCommands, List.foldl_append, ← foundCommands]
  cases v with
  | command c =>
    rw [List.foldl_cons, List.foldl_nil]
    dsimp only
    split
    · rename_i hseen
      simp only [List.any_eq_true, decide_eq_true_eq] at hseen
      refine .inl ⟨rfl, fun e he => ?_⟩
      cases he
      exact hseen
    · rename_i hunseen
      simp only [List.any_eq_true, decide_eq_true_eq] at hunseen
      exact .inr ⟨c, rfl, fun d hd hserial => hunseen ⟨d, hd, hserial⟩, rfl⟩
  | _ => exact .inl ⟨rfl, nofun⟩

theorem mem_foundCommands_concat (values : List Value) (v : Value) (c : Command) :
    c ∈ foundCommands (values ++ [v]) ↔ c ∈ foundCommands values ∨
      v = .command c ∧ ∀ d ∈ foundCommands values, d.serial ≠ c.serial := by
  rcases foundCommands_concat values v with ⟨heq, hold⟩ | ⟨e, rfl, hnew, heq⟩
  · rw [heq]
    refine ⟨.inl, fun h => h.elim id ?_⟩
    rintro ⟨hv, hnew⟩
    obtain ⟨d, hd, hserial⟩ := hold c hv
    exact absurd hserial (hnew d hd)
  · rw [heq, List.mem_append, List.mem_singleton]
    refine or_congr_right ⟨?_, ?_⟩
    · rintro rfl
      exact ⟨rfl, hnew⟩
    · rintro ⟨hv, -⟩
      cases hv
      rfl

theorem mem_boundCommands_of_mem_foundCommands {values : List Value} {c : Command}
    (h : c ∈ foundCommands values) : c ∈ boundCommands values := by
  rw [mem_boundCommands]
  induction values using List.reverseRecOn with
  | nil => exact absurd h List.not_mem_nil
  | append_singleton values v ih =>
    rcases (mem_foundCommands_concat values v c).mp h with h | ⟨rfl, -⟩
    · exact List.mem_append_left _ (ih h)
    · exact List.mem_append_right _ List.mem_cons_self

theorem exists_mem_foundCommands {values : List Value} {c : Command}
    (h : c ∈ boundCommands values) : ∃ d ∈ foundCommands values, d.serial = c.serial := by
  rw [mem_boundCommands] at h
  induction values using List.reverseRecOn with
  | nil => exact absurd h List.not_mem_nil
  | append_singleton values v ih =>
    by_cases hold : ∃ d ∈ foundCommands values, d.serial = c.serial
    · obtain ⟨d, hd, hserial⟩ := hold
      exact ⟨d, (mem_foundCommands_concat values v d).mpr (.inl hd), hserial⟩
    · rcases List.mem_append.mp h with h | h
      · exact absurd (ih h) hold
      · refine ⟨c, (mem_foundCommands_concat values v c).mpr (.inr ⟨?_, ?_⟩), rfl⟩
        · exact (List.mem_singleton.mp h).symm
        · exact fun d hd hserial => hold ⟨d, hd, hserial⟩

section Module

variable {values : List Value} {roots : List Command} {c : Command}

theorem IsIdentified.mono {cs ds : List Command} (h : IsIdentified ds) (hsub : cs ⊆ ds) :
    IsIdentified cs :=
  fun c hc d hd => h c (hsub hc) d (hsub hd)

theorem nodesOf_mono {cs ds : List Command} (hsub : cs ⊆ ds) : nodesOf cs ⊆ nodesOf ds := by
  intro d hd
  obtain ⟨c, hc, hdc⟩ := mem_nodesOf.mp hd
  exact mem_nodesOf.mpr ⟨c, hsub hc, hdc⟩

theorem mem_foundCommands_iff (h : IsIdentified (nodesOf (boundCommands values))) :
    c ∈ foundCommands values ↔ c ∈ boundCommands values := by
  refine ⟨mem_boundCommands_of_mem_foundCommands, fun hc => ?_⟩
  obtain ⟨d, hd, hserial⟩ := exists_mem_foundCommands hc
  have hdbound := mem_nodesOf_of_mem (mem_boundCommands_of_mem_foundCommands hd)
  exact h d hdbound c (mem_nodesOf_of_mem hc) hserial ▸ hd

theorem isIdentified_foundCommands (h : IsIdentified (nodesOf (boundCommands values))) :
    IsIdentified (nodesOf (foundCommands values)) :=
  h.mono (nodesOf_mono fun _ => mem_boundCommands_of_mem_foundCommands)

/-! ### Roots -/

/-- A command of a module that is not below any of its commands. -/
structure IsRootAmong (values : List Value) (c : Command) : Prop where
  bound : c ∈ boundCommands values
  free : ∀ d ∈ boundCommands values, ∀ e ∈ nodes d.subcommands, e.serial ≠ c.serial

/-- Whether all commands of a module are walkable, at every depth. -/
def AreWalkable (values : List Value) : Prop :=
  ∀ c ∈ nodesOf (boundCommands values), IsWalkable c

theorem rootsOf_eq (values : List Value) :
    rootsOf values = (below (foundCommands values)).map fun nested =>
      (foundCommands values).filter fun c => !nested.contains c.serial := by
  simp only [rootsOf]
  cases below (foundCommands values) <;> rfl

theorem exists_below_of_rootsOf (hroots : rootsOf values = .ok roots) :
    ∃ nested, below (foundCommands values) = .ok nested ∧
      roots = (foundCommands values).filter fun c => !nested.contains c.serial := by
  rw [rootsOf_eq] at hroots
  cases hbelow : below (foundCommands values) with
  | error m =>
    rw [hbelow] at hroots
    cases hroots
  | ok nested =>
    rw [hbelow] at hroots
    cases hroots
    exact ⟨nested, rfl, rfl⟩

theorem rootsOf_nil : rootsOf [] = .ok [] := by
  simp [rootsOf_eq, foundCommands, below, belowFrom, Except.map]

/-- The roots of a module are found exactly when its commands are walkable. -/
theorem rootsOf_eq_ok_iff (h : IsIdentified (nodesOf (boundCommands values))) :
    (∃ roots, rootsOf values = .ok roots) ↔ AreWalkable values := by
  have hnodes : ∀ d, d ∈ nodesOf (foundCommands values) ↔ d ∈ nodesOf (boundCommands values) := by
    simp only [mem_nodesOf, mem_foundCommands_iff h, implies_true]
  have hbelow := below_eq_ok_iff (isIdentified_foundCommands h)
  simp only [hnodes] at hbelow
  rw [AreWalkable, ← hbelow, rootsOf_eq]
  cases below (foundCommands values) <;> simp [Except.map]

/-- When the roots of a module cannot be found, the walk has failed. -/
theorem isAboutWalking_of_rootsOf_error {m : Misuse} (h : rootsOf values = .error m) :
    m.IsAboutWalking := by
  rw [rootsOf_eq] at h
  cases hbelow : below (foundCommands values) with
  | ok nested =>
    rw [hbelow] at h
    cases h
  | error e =>
    rw [hbelow] at h
    cases h
    exact isAboutWalking_of_belowFrom_error _ _ hbelow

/-- The roots that are found are those of the module. -/
theorem mem_rootsOf_iff (h : IsIdentified (nodesOf (boundCommands values)))
    (hroots : rootsOf values = .ok roots) : c ∈ roots ↔ IsRootAmong values c := by
  obtain ⟨nested, hbelow, rfl⟩ := exists_below_of_rootsOf hroots
  have hnested := mem_below_iff (isIdentified_foundCommands h) hbelow c.serial
  simp only [mem_foundCommands_iff h] at hnested
  rw [List.mem_filter, mem_foundCommands_iff h, Bool.not_eq_true', List.contains_eq_mem,
    decide_eq_false_iff_not, hnested]
  constructor
  · rintro ⟨hbound, hfree⟩
    exact ⟨hbound, fun d hd e he hserial => hfree ⟨d, hd, e, he, hserial⟩⟩
  · rintro ⟨hbound, hfree⟩
    exact ⟨hbound, fun ⟨d, hd, e, he, hserial⟩ => hfree d hd e he hserial⟩

/-- Every command of a module is a root of it, or below one. -/
theorem exists_isRootAmong (h : IsIdentified (nodesOf (boundCommands values)))
    (hc : c ∈ boundCommands values) :
    ∃ root, IsRootAmong values root ∧ c ∈ nodes (.command root) := by
  -- Among the commands that have it as a node, one with the most nodes is not below another.
  obtain ⟨root, ⟨hroot, hcroot⟩, hmost⟩ := Set.exists_max_image
    {d | d ∈ boundCommands values ∧ c ∈ nodes (.command d)} (fun d => (nodes (.command d)).length)
    ((List.finite_toSet (boundCommands values)).subset fun _ hd => hd.1)
    ⟨c, hc, mem_nodes_self c⟩
  refine ⟨root, ⟨hroot, fun d hd e he hserial => ?_⟩, hcroot⟩
  have hbelow : root ∈ nodes d.subcommands :=
    h e (mem_nodesOf_below (mem_nodesOf_of_mem hd) he) root (mem_nodesOf_of_mem hroot) hserial ▸ he
  have hle := hmost d ⟨hd, mem_nodes_trans (mem_nodes_command_of_mem hbelow) hcroot⟩
  exact absurd hle (Nat.not_le_of_lt (length_nodes_lt hbelow))

/-- A well-formed tree can be gone through at every depth. -/
theorem isWalkable_of_isValid {table : Converters} {d : Command}
    (h : isValid table (.command c) = true) (hd : d ∈ nodes (.command c)) : IsWalkable d := by
  rcases (isWellFormed_of_mem_nodes h d hd).subcommands with hnull | ⟨items, hitems, hvalid⟩
  · exact .inl (by rw [Value.eq_null_of_isNull hnull]; rfl)
  · have helements : d.subcommands.elements? = some items := by rw [hitems, Value.elements?]
    exact .inr (holdsCommands_of_valid helements (areValid_iff.mp hvalid))

/-- A module with a malformed root. -/
def IsFlawed (table : Converters) (values : List Value) : Prop :=
  ∃ c, IsRootAmong values c ∧ isValid table (.command c) = false

/-- What cannot be gone through is part of a malformed root. -/
theorem isFlawed_of_not_areWalkable {table : Converters}
    (h : IsIdentified (nodesOf (boundCommands values))) (hnot : ¬ AreWalkable values) :
    IsFlawed table values := by
  obtain ⟨d, hd, hdnot⟩ : ∃ d ∈ nodesOf (boundCommands values), ¬ IsWalkable d := by
    simpa only [AreWalkable, not_forall, exists_prop] using hnot
  obtain ⟨c, hc, hdc⟩ := mem_nodesOf.mp hd
  obtain ⟨root, hroot, hcroot⟩ := exists_isRootAmong h hc
  refine ⟨root, hroot, eq_false_of_ne_true fun hvalid => hdnot ?_⟩
  exact isWalkable_of_isValid hvalid (mem_nodes_trans hcroot hdc)

end Module

end ChatCommands
