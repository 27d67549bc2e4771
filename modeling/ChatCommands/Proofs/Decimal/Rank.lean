import Mathlib.Tactic.Linarith
import Mathlib.Tactic.Ring
import ChatCommands.Decimal.Binary64

/-!
# The rank nearest to a quotient

A finite rank stands for an integer significand at a binary scale.  The larger rank has the larger
value, and the rank nearest to a quotient depends on the quotient alone, not on how it is written:
the shift that is used for rounding is the only one at which the quotient has at most 53 binary
digits without there being a smaller one that leaves it so.

## Main definitions

* `Binary64.unit` : the units in one; every finite value is a number of units.
* `Binary64.IsShift` : what the shift of a quotient is.
* `Binary64.shiftOf` : the shift that `Binary64.roundRank` rounds at.

## Main results

* `Binary64.ratio_strictMono` : larger ranks have larger values.
* `Binary64.roundRank_eq_of_isShift` : rounding at the shift of the quotient.
* `Binary64.roundRank_congr` : equal quotients round to the same rank.
* `Binary64.roundRank_ratio` : the value of a finite rank rounds to the rank.
* `Binary64.roundRank_of_large`, `Binary64.roundRank_of_small` : what rounds to infinity and to
  zero.
-/

namespace ChatCommands

/-! ### Rounding to a natural number -/

theorem roundDiv_mul_right (num den : Nat) {k : Nat} (hk : 0 < k) :
    roundDiv (num * k) (den * k) = roundDiv num den := by
  have hrest : 2 * (num % den * k) = 2 * (num % den) * k := by rw [Nat.mul_assoc]
  simp only [roundDiv, Nat.mul_div_mul_right _ _ hk, Nat.mul_mod_mul_right, hrest,
    Nat.mul_lt_mul_right hk]

theorem roundDiv_mul_self (n : Nat) {den : Nat} (hden : 0 < den) :
    roundDiv (n * den) den = n := by
  simp [roundDiv, Nat.mul_div_cancel n hden, hden]

theorem div_le_roundDiv (num den : Nat) : num / den ≤ roundDiv num den := by
  unfold roundDiv
  grind

theorem roundDiv_eq_zero {num den : Nat} (h : 2 * num < den) : roundDiv num den = 0 := by
  have hlt : num < den := by omega
  simp [roundDiv, Nat.div_eq_of_lt hlt, Nat.mod_eq_of_lt hlt, h]

namespace Binary64

/-! ### The value of a rank -/

theorem scale_mul_add_significand (rank : Nat) :
    scale rank * 2 ^ 52 + significand rank = rank := by
  simp only [scale, significand, Nat.pow_eq]
  split <;> omega

theorem significand_lt (rank : Nat) : significand rank < 2 ^ 53 := by
  simp only [significand, Nat.pow_eq]
  split <;> omega

theorem scale_eq_zero_or_le_significand (rank : Nat) :
    scale rank = 0 ∨ 2 ^ 52 ≤ significand rank := by
  simp only [scale, significand, Nat.pow_eq]
  split <;> omega

/-- The number of units in one: a finite value is a whole number of times `2 ^ -1074`. -/
def unit : Nat := Nat.pow 2 1074

theorem unit_eq : unit = 2 ^ 1074 :=
  rfl

theorem unit_pos : 0 < unit :=
  Nat.two_pow_pos 1074

theorem two_pow_mul_unit (k : Nat) : 2 ^ k * unit = 2 ^ (k + 1074) := by
  rw [unit_eq, Nat.pow_add]

theorem ratio_fst (rank : Nat) : (ratio rank).1 = significand rank * 2 ^ scale rank :=
  rfl

theorem ratio_strictMono : StrictMono fun rank => (ratio rank).1 := by
  intro r t h
  have hr := scale_mul_add_significand r
  have ht := scale_mul_add_significand t
  have hlt := significand_lt r
  change significand r * 2 ^ scale r < significand t * 2 ^ scale t
  rcases lt_trichotomy (scale r) (scale t) with hscale | hscale | hscale
  · have hnormal := (scale_eq_zero_or_le_significand t).resolve_left (by omega)
    calc significand r * 2 ^ scale r
        < 2 ^ 53 * 2 ^ scale r := Nat.mul_lt_mul_of_pos_right hlt (Nat.two_pow_pos _)
      _ = 2 ^ 52 * 2 ^ (scale r + 1) := by ring
      _ ≤ 2 ^ 52 * 2 ^ scale t :=
          Nat.mul_le_mul_left _ (Nat.pow_le_pow_right (by omega) hscale)
      _ ≤ significand t * 2 ^ scale t := Nat.mul_le_mul_right _ hnormal
  · rw [hscale] at hr ⊢
    exact Nat.mul_lt_mul_of_pos_right (by omega) (Nat.two_pow_pos _)
  · have hnormal := (scale_eq_zero_or_le_significand r).resolve_left (by omega)
    have := significand_lt t
    omega

/-! ### The shift of a quotient -/

/-- The quotient has at most 53 binary digits above the shift, and as many when the shift is not
the least one. -/
structure IsShift (num den shift : Nat) : Prop where
  lt : num * unit < den * 2 ^ (shift + 53)
  le : shift = 0 ∨ den * 2 ^ (shift + 52) ≤ num * unit

theorem IsShift.unique {num den s t : Nat} (hs : IsShift num den s) (ht : IsShift num den t) :
    s = t := by
  -- A smaller shift leaves fewer digits than a larger one asks for.
  have not_lt : ∀ {s t}, IsShift num den s → IsShift num den t → ¬ s < t := by
    intro s t hs ht h
    have hle := ht.le.resolve_left (by omega)
    have hpow : den * 2 ^ (s + 53) ≤ den * 2 ^ (t + 52) :=
      Nat.mul_le_mul_left _ (Nat.pow_le_pow_right (by omega) (by omega))
    exact absurd (hs.lt.trans_le (hpow.trans hle)) (lt_irrefl _)
  have := not_lt hs ht
  have := not_lt ht hs
  omega

theorem IsShift.mul_right {num den s k : Nat} (hk : 0 < k) (hs : IsShift num den s) :
    IsShift (num * k) (den * k) s := by
  have hswap (a b : Nat) : a * k * b = a * b * k := Nat.mul_right_comm a k b
  refine ⟨?_, hs.le.imp_right fun h => ?_⟩
  · rw [hswap, hswap]
    exact Nat.mul_lt_mul_of_pos_right hs.lt hk
  · rw [hswap, hswap]
    exact Nat.mul_le_mul_right k h

/-- The shift that `roundRank` rounds at. -/
def shiftOf (num den : Nat) : Nat :=
  let guess := num.log2 + 1074 - den.log2 - 53
  if 2 ^ 53 * den * 2 ^ guess ≤ num * unit then guess + 1 else guess

theorem isShift_shiftOf {num den : Nat} (hnum : 0 < num) (hden : 0 < den) :
    IsShift num den (shiftOf num den) := by
  have hnum_le : 2 ^ (num.log2 + 1074) ≤ num * unit := by
    rw [← two_pow_mul_unit]
    exact Nat.mul_le_mul_right _ (Nat.log2_self_le hnum.ne')
  have hnum_lt : num * unit < 2 ^ (num.log2 + 1 + 1074) := by
    rw [← two_pow_mul_unit]
    exact Nat.mul_lt_mul_of_pos_right Nat.lt_log2_self unit_pos
  have hden_le (k : Nat) : 2 ^ (den.log2 + k) ≤ den * 2 ^ k := by
    rw [Nat.pow_add]
    exact Nat.mul_le_mul_right _ (Nat.log2_self_le hden.ne')
  have hden_lt (k : Nat) : den * 2 ^ k < 2 ^ (den.log2 + 1 + k) := by
    rw [Nat.pow_add]
    exact Nat.mul_lt_mul_of_pos_right Nat.lt_log2_self (Nat.two_pow_pos _)
  simp only [shiftOf]
  generalize hguess : num.log2 + 1074 - den.log2 - 53 = guess
  have hbig : 2 ^ 53 * den * 2 ^ guess = den * 2 ^ (guess + 53) := by ring
  rw [hbig]
  split
  case isTrue h =>
    refine ⟨?_, Or.inr h⟩
    calc num * unit < 2 ^ (num.log2 + 1 + 1074) := hnum_lt
      _ ≤ 2 ^ (den.log2 + (guess + 1 + 53)) := Nat.pow_le_pow_right (by omega) (by omega)
      _ ≤ den * 2 ^ (guess + 1 + 53) := hden_le _
  case isFalse h =>
    refine ⟨not_le.1 h, ?_⟩
    by_cases hzero : guess = 0
    · exact Or.inl hzero
    · right
      calc den * 2 ^ (guess + 52) ≤ 2 ^ (den.log2 + 1 + (guess + 52)) := (hden_lt _).le
        _ = 2 ^ (num.log2 + 1074) := by congr 1; omega
        _ ≤ num * unit := hnum_le

theorem exists_isShift (num : Nat) {den : Nat} (hden : 0 < den) : ∃ s, IsShift num den s := by
  rcases Nat.eq_zero_or_pos num with rfl | hnum
  · refine ⟨0, ?_, Or.inl rfl⟩
    rw [Nat.zero_mul]
    exact Nat.mul_pos hden (Nat.two_pow_pos _)
  · exact ⟨_, isShift_shiftOf hnum hden⟩

/-! ### The nearest rank -/

theorem roundRank_zero (den : Nat) : roundRank 0 den = 0 :=
  rfl

theorem roundRank_eq_of_isShift {num den s : Nat} (hden : 0 < den) (hs : IsShift num den s) :
    roundRank num den =
      min infinityRank (s * 2 ^ 52 + roundDiv (num * unit) (den * 2 ^ s)) := by
  rcases Nat.eq_zero_or_pos num with rfl | hnum
  · have hzero : s = 0 := by
      by_contra h
      have hle := hs.le.resolve_left h
      have : 0 < den * 2 ^ (s + 52) := Nat.mul_pos hden (Nat.two_pow_pos _)
      omega
    have hunit : 0 < den * 2 ^ 0 := Nat.mul_pos hden (Nat.two_pow_pos _)
    rw [hzero, Nat.zero_mul, Nat.zero_mul, roundDiv_eq_zero hunit, roundRank_zero, Nat.min_zero]
  · rw [hs.unique (isShift_shiftOf hnum hden), roundRank, if_neg hnum.ne']
    rfl

theorem roundRank_mul_right (num : Nat) {den k : Nat} (hden : 0 < den) (hk : 0 < k) :
    roundRank (num * k) (den * k) = roundRank num den := by
  obtain ⟨s, hs⟩ := exists_isShift num hden
  rw [roundRank_eq_of_isShift hden hs,
    roundRank_eq_of_isShift (Nat.mul_pos hden hk) (hs.mul_right hk),
    Nat.mul_right_comm num, Nat.mul_right_comm den, roundDiv_mul_right _ _ hk]

theorem roundRank_congr {num den num' den' : Nat} (hden : 0 < den) (hden' : 0 < den')
    (h : num * den' = num' * den) : roundRank num den = roundRank num' den' := by
  rw [← roundRank_mul_right num hden hden', h, Nat.mul_comm den den',
    roundRank_mul_right num' hden' hden]

theorem roundRank_ratio {rank : Nat} (h : rank < infinityRank) :
    roundRank (ratio rank).1 unit = rank := by
  have hvalue : (ratio rank).1 * unit = significand rank * (unit * 2 ^ scale rank) := by
    rw [ratio_fst, Nat.mul_assoc, Nat.mul_comm (2 ^ scale rank)]
  have hunit : 0 < unit * 2 ^ scale rank := Nat.mul_pos unit_pos (Nat.two_pow_pos _)
  have hdigits (k : Nat) : unit * 2 ^ (scale rank + k) = 2 ^ k * (unit * 2 ^ scale rank) := by
    rw [Nat.pow_add, ← Nat.mul_assoc, Nat.mul_comm]
  have hs : IsShift (ratio rank).1 unit (scale rank) := by
    refine ⟨?_, (scale_eq_zero_or_le_significand rank).imp_right fun hle => ?_⟩
    · rw [hvalue, hdigits]
      exact Nat.mul_lt_mul_of_pos_right (significand_lt rank) hunit
    · rw [hvalue, hdigits]
      exact Nat.mul_le_mul_right _ hle
  rw [roundRank_eq_of_isShift unit_pos hs, hvalue, roundDiv_mul_self _ hunit,
    scale_mul_add_significand, Nat.min_eq_right h.le]

theorem roundRank_of_large {num den : Nat} (hden : 0 < den) (h : den * 2 ^ 1024 ≤ num) :
    roundRank num den = infinityRank := by
  obtain ⟨s, hs⟩ := exists_isShift num hden
  have hshift : 2045 < s := by
    by_contra hsmall
    have hexponent : s + 53 ≤ 1024 + 1074 := by omega
    have hpow := Nat.mul_le_mul_left den (Nat.pow_le_pow_right Nat.two_pos hexponent)
    have hnum : den * 2 ^ (1024 + 1074) ≤ num * unit := by
      rw [← two_pow_mul_unit, ← Nat.mul_assoc]
      exact Nat.mul_le_mul_right _ h
    exact absurd (hs.lt.trans_le (hpow.trans hnum)) (lt_irrefl _)
  have hround : 2 ^ 52 ≤ roundDiv (num * unit) (den * 2 ^ s) := by
    refine le_trans ?_ (div_le_roundDiv _ _)
    rw [Nat.le_div_iff_mul_le (Nat.mul_pos hden (Nat.two_pow_pos s))]
    calc 2 ^ 52 * (den * 2 ^ s) = den * 2 ^ (s + 52) := by ring
      _ ≤ num * unit := hs.le.resolve_left (by omega)
  have hinf : infinityRank = 2047 * 2 ^ 52 := rfl
  rw [roundRank_eq_of_isShift hden hs, Nat.min_eq_left]
  omega

theorem roundRank_of_small {num den : Nat} (h : 2 * (num * unit) < den) :
    roundRank num den = 0 := by
  have hden : 0 < den := by omega
  have hs : IsShift num den 0 := by
    refine ⟨?_, Or.inl rfl⟩
    calc num * unit < den := by omega
      _ ≤ den * 2 ^ (0 + 53) := Nat.le_mul_of_pos_right den (Nat.two_pow_pos _)
  rw [roundRank_eq_of_isShift hden hs, Nat.pow_zero, Nat.mul_one, Nat.zero_mul,
    roundDiv_eq_zero h, Nat.zero_add, Nat.min_zero]

theorem roundRank_le (num den : Nat) : roundRank num den ≤ infinityRank := by
  unfold roundRank
  split
  · exact Nat.zero_le _
  · exact Nat.min_le_left _ _

end Binary64

end ChatCommands
