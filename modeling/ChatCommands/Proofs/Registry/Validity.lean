import ChatCommands.Command.Valid

/-!
# Well-formedness and the table of strategies

A tree is well formed relative to a table, which decides whether a type tag is registered.  Tags
are only ever added, or get another strategy; so what was well formed once stays well formed.

## Main definitions

* `Converters.IsWithin` : every tag of a table is a tag of another.

## Main results

* `Converters.isWithin_register` : registering a strategy keeps every tag.
* `isValid_mono` : a tree stays well formed when tags are added.
-/

namespace ChatCommands

namespace Converters

/-- Every tag of a table is a tag of another. -/
def IsWithin (table other : Converters) : Prop :=
  ∀ tag, table.has tag = true → other.has tag = true

theorem IsWithin.refl (table : Converters) : table.IsWithin table :=
  fun _ h => h

/-- Setting the strategy of a tag registers this tag and keeps the others. -/
theorem has_put (tag : String) (strategy : Strategy) (table : Converters) (other : String) :
    (put tag strategy table).has other = (other == tag || table.has other) := by
  induction table with
  | nil =>
    simp only [put, has, List.lookup_cons, List.lookup_nil]
    cases other == tag <;> rfl
  | cons e rest ih =>
    obtain ⟨key, old⟩ := e
    unfold has at ih
    by_cases hkey : key = tag
    · subst hkey
      simp only [put, if_true, has, List.lookup_cons]
      cases other == key <;> rfl
    · simp only [put, if_neg hkey, has, List.lookup_cons]
      cases other == key
      · exact ih
      · exact (Bool.or_true _).symm

theorem isWithin_put (tag : String) (strategy : Strategy) (table : Converters) :
    table.IsWithin (put tag strategy table) := by
  intro other h
  rw [has_put, h, Bool.or_true]

/-- Registering a strategy keeps every tag, whether or not it succeeds. -/
theorem isWithin_register (table : Converters) (tag : Value) (strategy : Option Strategy) :
    table.IsWithin (table.register tag strategy).1 := by
  unfold register
  split
  · exact .refl table
  · exact .refl table
  · exact isWithin_put _ _ table

end Converters

section Mono

variable {table other : Converters}

theorem isTag_mono (h : table.IsWithin other) {v : Value} (hv : isTag table v = true) :
    isTag other v = true := by
  cases v with
  | text s => exact h s hv
  | _ => cases hv

theorem isValidArgument_mono (h : table.IsWithin other) {v : Value}
    (hv : isValidArgument table v = true) : isValidArgument other v = true := by
  cases v with
  | argument a =>
    rw [isValidArgument, Bool.and_eq_true, List.all_eq_true] at hv ⊢
    exact ⟨hv.1, fun tag htag => isTag_mono h (hv.2 tag htag)⟩
  | _ => cases hv

theorem areValidArguments_mono (h : table.IsWithin other) {v : Value}
    (hv : areValidArguments table v = true) : areValidArguments other v = true := by
  cases v with
  | null => rfl
  | tuple items =>
    rw [areValidArguments, List.all_eq_true] at hv ⊢
    exact fun a ha => isValidArgument_mono h (hv a ha)
  | _ => cases hv

mutual

/-- A tree stays well formed when tags are added. -/
theorem isValid_mono (h : table.IsWithin other) : ∀ {v : Value}, isValid table v = true →
    isValid other v = true
  | .command ⟨serial, name, shortcut, required, channel, guardian, children, definitions, handler⟩,
      hv => by
    -- The check of the subcommands depends on their kind.
    cases children <;> simp only [isValid, Bool.and_eq_true, Bool.false_eq_true, and_false] at hv
    case null => simpa only [isValid, Bool.and_eq_true] using
      ⟨⟨hv.1.1, areValidArguments_mono h hv.1.2⟩, hv.2⟩
    case tuple items => simpa only [isValid, Bool.and_eq_true] using
      ⟨⟨hv.1.1, areValidArguments_mono h hv.1.2⟩, areValid_mono h hv.2⟩

theorem areValid_mono (h : table.IsWithin other) : ∀ {items : List Value},
    areValid table items = true → areValid other items = true
  | [], _ => rfl
  | v :: rest, hitems => by
    rw [areValid, Bool.and_eq_true] at hitems ⊢
    exact ⟨isValid_mono h hitems.1, areValid_mono h hitems.2⟩

end

end Mono

end ChatCommands
