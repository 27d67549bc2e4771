import ChatCommands.Command.Valid

/-!
# Values of a kind

The checks of well-formed definitions ask fields for their kind.  These facts say what a field is
that passed the check of its kind.

## Main definitions

* `Value.IsBitField` : an integer that is a field of permissions.
-/

namespace ChatCommands.Value

theorem eq_null_of_isNull {v : Value} (h : v.isNull = true) : v = .null := by
  cases v <;> first | rfl | exact absurd h Bool.false_ne_true

theorem eq_text_of_isText {v : Value} (h : v.isText = true) : ∃ s, v = .text s := by
  cases v <;> first | exact ⟨_, rfl⟩ | exact absurd h Bool.false_ne_true

theorem eq_callable_of_isCallable {v : Value} (h : v.isCallable = true) : ∃ c, v = .callable c := by
  cases v <;> first | exact ⟨_, rfl⟩ | exact absurd h Bool.false_ne_true

/-- A field that may be null and is not satisfies its condition. -/
theorem of_isNullOr {condition : Value → Bool} {v : Value} (h : v.isNullOr condition = true)
    (hnull : ¬ v.isNull = true) : condition v = true := by
  rw [isNullOr, Bool.or_eq_true] at h
  exact h.resolve_left hnull

/-- A field of permissions that is not negative. -/
structure IsBitField (v : Value) : Prop where
  isField : v.isField = true
  nonneg : ∀ n, v.integer? = some n → 0 ≤ n

end ChatCommands.Value
