import ChatCommands.Decimal.Shortest
import ChatCommands.Proofs.Decimal.Rank

/-!
# The rank that a decimal reads as

A decimal reads as the rank nearest to its value, also when its exponent is so large or so small
that no power is formed.  Hence decimals of equal value read as the same rank, and so trailing
zeros do not matter: the shortest decimal of a finite rank reads as that rank.

## Main results

* `Decimal.ofDecimal_eq` : a decimal literal gives its sign and the rank of its decimal.
* `Decimal.rank_eq_roundRank` : the rank of a decimal is the one nearest to its value.
* `Decimal.rank_mul_pow` : trailing zeros of the units go to the exponent.
* `Decimal.rank_shortest` : the shortest decimal of a finite rank reads as the rank.
-/

namespace ChatCommands

namespace Decimal

open Binary64

theorem shifted_of_nonneg (num den : Nat) {power : Int} (h : 0 ≤ power) :
    shifted num den power = (num * 10 ^ power.toNat, den) :=
  if_pos h

theorem shifted_of_neg (num den : Nat) {power : Int} (h : power < 0) :
    shifted num den power = (num, den * 10 ^ (-power).toNat) :=
  if_neg (not_le.2 h)

/-! ### Exponents that are settled at once -/

theorem eight_pow_le_ten_pow (n : Nat) : 2 ^ (3 * n) ≤ 10 ^ n := by
  rw [Nat.pow_mul]
  exact Nat.pow_le_pow_left (by omega) n

/-- A decimal whose exponent is above `400` passes every finite number. -/
theorem roundRank_of_large_exponent {digits : Nat} {exponent : Int} (hdigits : digits ≠ 0)
    (h : 400 < exponent) : roundRank (digits * 10 ^ exponent.toNat) 1 = infinityRank := by
  refine roundRank_of_large Nat.one_pos ?_
  have hexponent : 1024 ≤ 3 * exponent.toNat := by omega
  have hten := (Nat.pow_le_pow_right Nat.two_pos hexponent).trans (eight_pow_le_ten_pow _)
  rw [Nat.one_mul]
  exact hten.trans (Nat.le_mul_of_pos_left _ (Nat.pos_of_ne_zero hdigits))

/-- A decimal whose leading digit is far below `10 ^ -400` is nearer to zero than to the least
positive number. -/
theorem roundRank_of_small_exponent {digits : Nat} {exponent : Int}
    (h : exponent + (digits.log2 / 3 : Nat) < -400) :
    roundRank digits (10 ^ (-exponent).toNat) = 0 := by
  refine roundRank_of_small ?_
  have hexponent : digits.log2 + 1 + 1 + 1074 ≤ 3 * (-exponent).toNat := by omega
  calc 2 * (digits * unit) = digits * 2 * unit := by ring
    _ < 2 ^ (digits.log2 + 1) * 2 * unit :=
        Nat.mul_lt_mul_of_pos_right
          (Nat.mul_lt_mul_of_pos_right Nat.lt_log2_self Nat.two_pos) unit_pos
    _ = 2 ^ (digits.log2 + 1 + 1 + 1074) := by rw [← Nat.pow_succ, two_pow_mul_unit]
    _ ≤ 2 ^ (3 * (-exponent).toNat) := Nat.pow_le_pow_right Nat.two_pos hexponent
    _ ≤ 10 ^ (-exponent).toNat := eight_pow_le_ten_pow _

/-! ### The rank of a decimal -/

theorem ofDecimal_eq_shifted (negative : Bool) (digits : Nat) (exponent : Int) :
    ofDecimal negative digits exponent =
      .number negative (roundRank (shifted digits 1 exponent).1 (shifted digits 1 exponent).2) := by
  by_cases hdigits : digits = 0
  · subst hdigits
    have hzero : (shifted 0 1 exponent).1 = 0 := by
      unfold shifted
      split <;> simp
    rw [hzero, roundRank_zero]
    rfl
  · rw [ofDecimal, if_neg hdigits]
    by_cases hlarge : 400 < exponent
    · rw [if_pos hlarge, shifted_of_nonneg _ _ (by omega),
        roundRank_of_large_exponent hdigits hlarge]
      rfl
    · rw [if_neg hlarge]
      by_cases hsmall : exponent + (digits.log2 / 3 : Nat) < -400
      · rw [if_pos hsmall, shifted_of_neg _ _ (by omega), Nat.one_mul,
          roundRank_of_small_exponent hsmall]
      · rw [if_neg hsmall]
        by_cases hexponent : 0 ≤ exponent
        · rw [if_pos hexponent, shifted_of_nonneg _ _ hexponent]
          rfl
        · rw [if_neg hexponent, shifted_of_neg _ _ (not_le.1 hexponent), Nat.one_mul]
          rfl

theorem rank_eq_shifted (d : Decimal) :
    d.rank = roundRank (shifted d.units 1 d.exponent).1 (shifted d.units 1 d.exponent).2 := by
  rw [rank, ofDecimal_eq_shifted]

theorem ofDecimal_eq (negative : Bool) (digits : Nat) (exponent : Int) :
    ofDecimal negative digits exponent = .number negative (rank ⟨digits, exponent⟩) := by
  rw [rank_eq_shifted, ofDecimal_eq_shifted]

theorem rank_le (d : Decimal) : d.rank ≤ infinityRank := by
  rw [rank_eq_shifted]
  exact roundRank_le _ _

/-- The rank of a decimal is the one nearest to its value, over any power of ten that makes it a
quotient of natural numbers. -/
theorem rank_eq_roundRank (d : Decimal) (n : Nat) (h : 0 ≤ n + d.exponent) :
    d.rank = roundRank (d.units * 10 ^ (n + d.exponent).toNat) (10 ^ n) := by
  have hten (k : Nat) : 0 < 10 ^ k := Nat.pow_pos (by omega)
  rw [rank_eq_shifted]
  by_cases hexponent : 0 ≤ d.exponent
  · rw [shifted_of_nonneg _ _ hexponent]
    refine roundRank_congr Nat.one_pos (hten n) ?_
    have hsum : (n + d.exponent).toNat = d.exponent.toNat + n := by omega
    rw [hsum, Nat.pow_add, Nat.mul_one, Nat.mul_assoc]
  · rw [shifted_of_neg _ _ (not_le.1 hexponent), Nat.one_mul]
    refine roundRank_congr (hten _) (hten n) ?_
    have hsum : n = (n + d.exponent).toNat + (-d.exponent).toNat := by omega
    conv_lhs => rw [hsum]
    rw [Nat.pow_add, Nat.mul_assoc]

theorem rank_mul_pow (units k : Nat) (exponent : Int) :
    rank ⟨units * 10 ^ k, exponent⟩ = rank ⟨units, exponent + k⟩ := by
  have hleft := rank_eq_roundRank ⟨units * 10 ^ k, exponent⟩ (-exponent).toNat (by simp only; omega)
  have hright := rank_eq_roundRank ⟨units, exponent + k⟩ (-exponent).toNat (by simp only; omega)
  simp only at hleft hright
  have hsum : ((-exponent).toNat + (exponent + k)).toNat =
      k + ((-exponent).toNat + exponent).toNat := by omega
  rw [hleft, hright, hsum, Nat.pow_add, Nat.mul_assoc]

/-! ### The shortest decimal -/

theorem rank_trimmed (fuel : Nat) (d : Decimal) : (trimmed fuel d).rank = d.rank := by
  induction fuel generalizing d with
  | zero => rfl
  | succ fuel ih =>
    rw [trimmed]
    split
    case isTrue h =>
      have hunits : d.units / 10 * 10 ^ 1 = d.units := by omega
      rw [ih, ← Int.natCast_one, ← rank_mul_pow, hunits]
    case isFalse => rfl

theorem ten_pow_eq (n : Nat) : 10 ^ n = 5 ^ n * 2 ^ n :=
  Nat.mul_pow 5 2 n

theorem rank_exact {r : Nat} (h : r < infinityRank) : (exact r).rank = r := by
  have hten : 0 < 10 ^ 1074 := Nat.pow_pos (by omega)
  have hvalue : (exact r).units * 10 ^ 0 * unit = (ratio r).1 * 10 ^ 1074 := by
    have hunits : (exact r).units = (ratio r).1 * 5 ^ 1074 := rfl
    rw [hunits, ten_pow_eq 1074, ← unit_eq, Nat.pow_zero, Nat.mul_one, Nat.mul_assoc]
  have hexponent : ((1074 : Nat) + (exact r).exponent : Int) = 0 := by
    simp [exact]
  rw [rank_eq_roundRank (exact r) 1074 hexponent.ge, hexponent]
  exact (roundRank_congr hten unit_pos hvalue).trans (roundRank_ratio h)

theorem rank_shortest {r : Nat} (h : r < infinityRank) : (shortest r).rank = r := by
  rw [shortest, rank_trimmed]
  generalize hfound : List.findSome? _ _ = found
  cases found with
  | none => exact rank_exact h
  | some d =>
    obtain ⟨places, -, hgrid⟩ := List.exists_of_findSome?_eq_some hfound
    simpa using List.find?_some hgrid

end Decimal

end ChatCommands
