import ChatCommands.Proofs.Permission.Key

/-!
# Sizes of fields

A field can be named if it has no bit with a name, or if its part without names can be written.
With a field that can be named every part of it can be, and so can all fields below a power of two,
which are closed under unions.  What a value stands for can be named.

## Main definitions

* `Permission.IsNarrow` : a field whose value can be written, whatever bits it has.

## Main results

* `Permission.isNameable_of_covers` : a part of a field that can be named can be named.
* `Permission.IsNarrow.isNameable` : a narrow field can be named.
* `Permission.isNameable_of_resolve` : what a value stands for can be named.
-/

namespace ChatCommands.Permission

variable {field other : Nat}

/-! ### Fields that can be named -/

theorem named_succ : named + 1 = 2 ^ keys.length := rfl

theorem isNameable_iff :
    isNameable field = true ↔
      field % 2 ^ keys.length = 0 ∨ Digits.isWritable (unnamed field) = true := by
  have hzero : unnamed field = 0 → Digits.isWritable (unnamed field) = true := fun h => by
    rw [h, isWritable_iff]
    exact Nat.pow_pos (by decide)
  rw [isNameable, named_succ, Bool.or_eq_true, Bool.or_eq_true, decide_eq_true_eq,
    decide_eq_true_eq, or_assoc, or_iff_right_of_imp hzero]

theorem unnamed_eq (field : Nat) : unnamed field = 2 ^ keys.length * (field / 2 ^ keys.length) := by
  rw [unnamed, named_succ]
  exact Nat.sub_eq_of_eq_add (Nat.div_add_mod field _).symm

theorem ofBits_of_isNameable (h : isNameable field = true) : ofBits field = .ok field := by
  rw [ofBits, if_pos h]

theorem ofBits_of_not_isNameable (h : ¬ isNameable field = true) :
    ofBits field = .error .unwritable := by
  rw [ofBits, if_neg h]

theorem ofBits_eq_ok_iff {result : Nat} :
    ofBits field = .ok result ↔ isNameable field = true ∧ field = result := by
  rw [ofBits]
  split <;> simp_all

/-- A part of a field that can be named can be named. -/
theorem isNameable_of_covers
    (hcovers : ∀ bit, field.testBit bit = true → other.testBit bit = true)
    (h : isNameable other = true) : isNameable field = true := by
  have hpart : field = other &&& field := Nat.eq_of_testBit_eq fun bit => by
    rw [Nat.testBit_and]
    cases hbit : field.testBit bit with
    | false => rw [Bool.and_false]
    | true => rw [hcovers bit hbit, Bool.and_true]
  rw [isNameable_iff, unnamed_eq] at h ⊢
  refine h.imp (fun hmod => ?_) (isWritable_of_le (Nat.mul_le_mul_left _ ?_))
  · rw [hpart, Nat.and_mod_two_pow, hmod, Nat.zero_and]
  · rw [hpart, Nat.and_div_two_pow]
    exact Nat.and_le_left

theorem isNameable_left (h : isNameable (field ||| other) = true) : isNameable field = true :=
  isNameable_of_covers (fun bit hbit => by rw [Nat.testBit_or, hbit, Bool.true_or]) h

theorem isNameable_right (h : isNameable (field ||| other) = true) : isNameable other = true :=
  isNameable_of_covers (fun bit hbit => by rw [Nat.testBit_or, hbit, Bool.or_true]) h

/-! ### Narrow fields -/

/-- A field whose value can be written, whatever bits it has. -/
def IsNarrow (field : Nat) : Prop :=
  field < 2 ^ (writableBits - 1)

namespace IsNarrow

theorem or (h : IsNarrow field) (h' : IsNarrow other) : IsNarrow (field ||| other) :=
  Nat.or_lt_two_pow h h'

theorem isNameable (h : IsNarrow field) : isNameable field = true := by
  have hwritable : Digits.isWritable (2 ^ (writableBits - 1)) = true :=
    isWritable_two_pow_iff.mpr (by decide)
  have hle : unnamed field ≤ 2 ^ (writableBits - 1) :=
    Nat.le_trans (Nat.sub_le _ _) (Nat.le_of_lt h)
  exact isNameable_iff.mpr (.inr (isWritable_of_le hle hwritable))

theorem ofBits (h : IsNarrow field) : ofBits field = .ok field :=
  ofBits_of_isNameable h.isNameable

theorem lt_writableBits {bit : Nat} (h : IsNarrow field) (hbit : field.testBit bit = true) :
    bit < writableBits := by
  have hpow : 2 ^ bit < 2 ^ (writableBits - 1) :=
    Nat.lt_of_le_of_lt (Nat.ge_two_pow_of_testBit hbit) h
  exact Nat.lt_of_lt_pred ((Nat.pow_lt_pow_iff_right Nat.one_lt_two).mp hpow)

end IsNarrow

/-- A field of named bits alone is narrow. -/
theorem isNarrow_of_lt (h : field < 2 ^ keys.length) : IsNarrow field :=
  Nat.lt_of_lt_of_le h (Nat.pow_le_pow_right Nat.two_pos (by decide))

theorem isNarrow_zero : IsNarrow 0 :=
  isNarrow_of_lt (Nat.two_pow_pos _)

theorem isNameable_zero : isNameable 0 = true :=
  isNarrow_zero.isNameable

/-! ### Fields of several values -/

section Several

variable {v : Value} {vs : List Value} {combined field : Nat} {e : Refusal}

theorem resolveAll_cons_of_error (h : resolve v = .error e) (combined : Nat) (rest : List Value) :
    resolveAll combined (v :: rest) = .error e := by
  rw [resolveAll, h]
  rfl

theorem resolveAll_cons_of_ok (h : resolve v = .ok field) (combined : Nat) (rest : List Value) :
    resolveAll combined (v :: rest) =
      ofBits (combined ||| field) >>= fun union => resolveAll union rest := by
  rw [resolveAll, h]
  rfl

theorem isNameable_of_resolveAll (hcombined : isNameable combined = true)
    (h : resolveAll combined vs = .ok field) : isNameable field = true := by
  induction vs generalizing combined with
  | nil =>
    rw [resolveAll] at h
    cases h
    exact hcombined
  | cons v rest ih =>
    cases hv : resolve v with
    | error e =>
      rw [resolveAll_cons_of_error hv] at h
      cases h
    | ok n =>
      rw [resolveAll_cons_of_ok hv] at h
      by_cases hunion : isNameable (combined ||| n) = true
      · rw [ofBits_of_isNameable hunion] at h
        exact ih hunion h
      · rw [ofBits_of_not_isNameable hunion] at h
        cases h

end Several

/-! ### What values stand for -/

section Nameable

variable {field : Nat}

theorem isNameable_of_ofNumber {v : Value} (h : ofNumber v = .ok field) :
    isNameable field = true := by
  rw [ofNumber.eq_def] at h
  split at h
  · cases h
  · split at h
    · rw [ofField] at h
      split at h
      · cases h
      · obtain ⟨hnamed, rfl⟩ := ofBits_eq_ok_iff.mp h
        exact hnamed
    · cases h

theorem lt_of_ofKey {key : String} (h : ofKey key = .ok field) : field < 2 ^ keys.length := by
  rw [ofKey] at h
  split at h
  · rename_i bit hbit
    cases h
    obtain ⟨hlt, -⟩ := List.findIdx?_eq_some_iff_getElem.mp hbit
    exact Nat.pow_lt_pow_right Nat.one_lt_two hlt
  · cases h

theorem lt_of_ofKeys {names : List String} (h : ofKeys names = .ok field) :
    field < 2 ^ keys.length := by
  induction names generalizing field with
  | nil =>
    cases h
    exact Nat.two_pow_pos _
  | cons key rest ih =>
    rw [ofKeys] at h
    cases hkey : ofKey key with
    | error e =>
      rw [hkey] at h
      cases h
    | ok n =>
      cases hrest : ofKeys rest with
      | error e =>
        rw [hkey, hrest] at h
        cases h
      | ok others =>
        rw [hkey, hrest] at h
        cases h
        exact Nat.or_lt_two_pow (lt_of_ofKey hkey) (ih hrest)

theorem lt_of_bytes (bs : List UInt8) :
    bs.foldl (fun field b => field ||| b.toNat) 0 < 2 ^ keys.length := by
  have hstep (start : Nat) (hstart : start < 2 ^ keys.length) :
      bs.foldl (fun field b => field ||| b.toNat) start < 2 ^ keys.length := by
    induction bs generalizing start with
    | nil => exact hstart
    | cons b rest ih =>
      refine ih _ (Nat.or_lt_two_pow hstart (Nat.lt_of_lt_of_le b.toNat_lt ?_))
      exact Nat.pow_le_pow_right Nat.two_pos (by decide)
  exact hstep 0 (Nat.two_pow_pos _)

/-- What a value stands for can be named. -/
theorem isNameable_of_resolve {v : Value} (h : resolve v = .ok field) :
    isNameable field = true := by
  cases v with
  | text key =>
    rw [resolve] at h
    exact (isNarrow_of_lt (lt_of_ofKey h)).isNameable
  | list items | tuple items | set _ items | stream _ items =>
    rw [resolve] at h
    exact isNameable_of_resolveAll isNameable_zero h
  | map _ entries =>
    rw [resolve] at h
    exact (isNarrow_of_lt (lt_of_ofKeys h)).isNameable
  | bytes bs =>
    rw [resolve] at h
    cases h
    exact (isNarrow_of_lt (lt_of_bytes bs)).isNameable
  | _ =>
    simp only [resolve] at h
    exact isNameable_of_ofNumber h

end Nameable

end ChatCommands.Permission
