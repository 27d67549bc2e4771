import ChatCommands.Permission.Requirement
import Mathlib.Data.List.Sort
import Mathlib.Data.Nat.Factorization.Basic
import Mathlib.Tactic.Ring

/-!
# Bits taken off one after another

The lowest bit of a field is the only one that the field shares with its negative.  Taking it off
leaves the other bits as they are, so that the bits of a field are taken off in increasing order and
each exactly once.

## Main definitions

* `Permission.IsLowest` : a bit below which a field has no other.

## Main results

* `Permission.exists_isLowest` : what a field shares with its negative is its lowest bit.
* `Permission.peeled_eq` : the bits that are taken off are those of the field, in increasing order.
* `Permission.testBit_lacking` : the bits of what a holder lacks.
-/

namespace ChatCommands.Permission

variable {field bit : Nat}

/-! ### The bits of a field -/

theorem mem_bitsOf : bit ∈ bitsOf field ↔ field.testBit bit = true := by
  have hle (h : field.testBit bit = true) : bit < field.log2 + 1 := by
    have hpow : 2 ^ bit ≤ field := Nat.ge_two_pow_of_testBit h
    have hne : field ≠ 0 := by
      have := Nat.two_pow_pos bit
      omega
    exact Nat.lt_succ_of_le ((Nat.le_log2 hne).mpr hpow)
  rw [bitsOf, List.mem_filter, List.mem_range]
  exact ⟨And.right, fun h => ⟨hle h, h⟩⟩

theorem pairwise_bitsOf (field : Nat) : (bitsOf field).Pairwise (· < ·) :=
  List.pairwise_lt_range.filter _

theorem bitsOf_zero : bitsOf 0 = [] :=
  List.eq_nil_iff_forall_not_mem.mpr fun bit h => by
    rw [mem_bitsOf, Nat.zero_testBit] at h
    cases h

/-! ### Masks -/

theorem testBit_cleared (field other bit : Nat) :
    (cleared field other).testBit bit = (field.testBit bit && !other.testBit bit) := by
  rw [cleared, Nat.testBit_xor, Nat.testBit_and]
  cases field.testBit bit <;> cases other.testBit bit <;> rfl

/-- A holder lacks the bits that are required and not held. -/
theorem testBit_lacking (held required bit : Nat) :
    (lacking held required).testBit bit = (required.testBit bit && !held.testBit bit) :=
  testBit_cleared required held bit

/-! ### The lowest bit -/

/-- A field has a bit and no lower one. -/
structure IsLowest (field bit : Nat) : Prop where
  has : field.testBit bit = true
  le : ∀ other, field.testBit other = true → bit ≤ other

/-- A field that is not zero is an odd multiple of a power of two. -/
theorem exists_odd_mul (h : field ≠ 0) : ∃ bit rest, field = 2 ^ (bit + 1) * rest + 2 ^ bit := by
  obtain ⟨bit, m, ⟨rest, rfl⟩, rfl⟩ := Nat.exists_eq_two_pow_mul_odd h
  exact ⟨bit, rest, by ring⟩

theorem testBit_odd_mul (bit rest other : Nat) :
    (2 ^ (bit + 1) * rest + 2 ^ bit).testBit other =
      if other < bit + 1 then decide (bit = other) else rest.testBit (other - (bit + 1)) := by
  rw [Nat.testBit_two_pow_mul_add _ (Nat.pow_lt_pow_right (by decide) bit.lt_succ_self),
    Nat.testBit_two_pow]

theorem testBit_odd_mul_sub_one (bit rest other : Nat) :
    (2 ^ (bit + 1) * rest + 2 ^ bit - 1).testBit other =
      if other < bit + 1 then decide (other < bit) else rest.testBit (other - (bit + 1)) := by
  have hlt : 2 ^ bit - 1 < 2 ^ (bit + 1) :=
    (Nat.sub_le _ _).trans_lt (Nat.pow_lt_pow_right (by decide) bit.lt_succ_self)
  rw [Nat.add_sub_assoc Nat.one_le_two_pow, Nat.testBit_two_pow_mul_add _ hlt,
    Nat.testBit_two_pow_sub_one]

theorem lowestBit_of_ne_zero (h : field ≠ 0) : lowestBit field = cleared field (field - 1) := by
  obtain ⟨n, rfl⟩ := Nat.exists_eq_succ_of_ne_zero h
  rfl

/-- What a field shares with its negative is its lowest bit. -/
theorem exists_isLowest (h : field ≠ 0) : ∃ bit, IsLowest field bit ∧ lowestBit field = 2 ^ bit := by
  obtain ⟨bit, rest, rfl⟩ := exists_odd_mul h
  refine ⟨bit, ⟨?_, fun other hother => ?_⟩, Nat.eq_of_testBit_eq fun other => ?_⟩
  · rw [testBit_odd_mul, if_pos bit.lt_succ_self]
    exact decide_eq_true rfl
  · rw [testBit_odd_mul] at hother
    split at hother
    · exact (of_decide_eq_true hother).le
    · omega
  · rw [lowestBit_of_ne_zero h, testBit_cleared, testBit_odd_mul, testBit_odd_mul_sub_one,
      Nat.testBit_two_pow]
    split
    · by_cases hbit : bit = other <;> simp [hbit]
    · rw [Bool.and_not_self, eq_comm, decide_eq_false_iff_not]
      omega

/-- Without its lowest bit a field has the bits that it had, but for that one. -/
theorem bitsOf_eq_cons (h : IsLowest field bit) :
    bitsOf field = bit :: bitsOf (field ^^^ 2 ^ bit) := by
  have hrest (other : Nat) :
      other ∈ bitsOf (field ^^^ 2 ^ bit) ↔ field.testBit other = true ∧ other ≠ bit := by
    rw [mem_bitsOf, Nat.testBit_xor, Nat.testBit_two_pow]
    by_cases hother : bit = other
    · subst hother
      simp [h.has]
    · simp [hother, Ne.symm hother]
  refine (pairwise_bitsOf field).eq_of_mem_iff
    (List.pairwise_cons.mpr ⟨fun other hother => ?_, pairwise_bitsOf _⟩) fun other => ?_
  · obtain ⟨hhas, hne⟩ := (hrest other).mp hother
    exact lt_of_le_of_ne (h.le other hhas) hne.symm
  · rw [List.mem_cons, hrest, mem_bitsOf]
    by_cases hother : other = bit
    · subst hother
      simp [h.has]
    · simp [hother]

/-! ### All bits -/

/-- The bits that are taken off a field are its bits in increasing order. -/
theorem peeled_eq (field : Nat) : peeled field = (bitsOf field).map (2 ^ ·) := by
  induction field using peeled.induct with
  | case1 => rw [peeled, if_pos rfl, bitsOf_zero, List.map_nil]
  | case2 field hne ih =>
    obtain ⟨bit, hlowest, heq⟩ := exists_isLowest hne
    rw [heq] at ih
    rw [peeled, if_neg hne, heq, ih, bitsOf_eq_cons hlowest, List.map_cons]

end ChatCommands.Permission
