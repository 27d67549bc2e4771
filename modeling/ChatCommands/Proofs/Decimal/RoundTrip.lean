import Mathlib.Data.List.TakeDrop
import ChatCommands.Argument.Strategy
import ChatCommands.Decimal.Numeral
import ChatCommands.Proofs.Decimal.Reading

/-!
# Numbers written and read back

A numeral denotes a decimal when its digits, its point and its exponent part are those of the
decimal.  Such a numeral is a literal, and it is read as its decimal.  However digits are laid out,
the numeral denotes a decimal that reads as the same rank; so the plain text of a finite number is
a literal of that very number, sign of zero included.  The text of an infinity is no literal.

## Main definitions

* `IsDigits` : lists of ASCII digits.
* `Numeral.Denotes` : the decimal that a numeral denotes.

## Main results

* `decimal?_of_denotes` : a numeral is read as the decimal that it denotes.
* `Numeral.exists_denotes_layout` : laid out digits keep their value.
* `decimal?_text` : the text of a finite number is read back.
* `decimal?_text_infinity` : the text of an infinity is refused.
* `exists_of_decimal?` : what a literal can give.
-/

namespace ChatCommands

/-! ### Digits -/

/-- The characters are ASCII digits. -/
def IsDigits (chars : List Char) : Prop :=
  ∀ c ∈ chars, Text.isAsciiDigit c = true

theorem IsDigits.append {xs ys : List Char} (hxs : IsDigits xs) (hys : IsDigits ys) :
    IsDigits (xs ++ ys) := by
  rintro c hc
  exact (List.mem_append.1 hc).elim (hxs c) (hys c)

theorem isDigits_replicate (n : Nat) : IsDigits (List.replicate n '0') := by
  rintro c hc
  rw [List.eq_of_mem_replicate hc]
  rfl

theorem isDigits_digitChars (n : Nat) : IsDigits (Numeral.digitChars n) := by
  rintro c hc
  have hdigit := Nat.isDigit_of_mem_toDigits (by omega) (by omega) hc
  simp only [Char.isDigit, Bool.and_eq_true, decide_eq_true_eq, ge_iff_le, UInt32.le_iff_toNat_le]
    at hdigit
  simp only [Text.isAsciiDigit, Bool.and_eq_true, decide_eq_true_eq]
  exact hdigit

theorem digitsNumber_eq (chars : List Char) : digitsNumber chars = Nat.ofDigitChars 10 chars 0 := by
  simp only [digitsNumber, Nat.ofDigitChars, Nat.mul_comm]
  rfl

theorem digitsNumber_digitChars (n : Nat) : digitsNumber (Numeral.digitChars n) = n := by
  rw [digitsNumber_eq]
  exact Nat.ofDigitChars_ten_toDigits

theorem ofDigitChars_eq_add (chars : List Char) (n : Nat) :
    Nat.ofDigitChars 10 chars n = n * 10 ^ chars.length + Nat.ofDigitChars 10 chars 0 := by
  induction chars generalizing n with
  | nil => simp [Nat.ofDigitChars]
  | cons c rest ih =>
    rw [Nat.ofDigitChars_cons, Nat.ofDigitChars_cons, ih, ih (10 * 0 + _), List.length_cons]
    ring

theorem digitsNumber_append (xs ys : List Char) :
    digitsNumber (xs ++ ys) = digitsNumber xs * 10 ^ ys.length + digitsNumber ys := by
  simp only [digitsNumber_eq, Nat.ofDigitChars_append]
  exact ofDigitChars_eq_add ys _

theorem digitsNumber_replicate (n : Nat) : digitsNumber (List.replicate n '0') = 0 := by
  induction n with
  | zero => rfl
  | succ n ih =>
    rw [List.replicate_succ', digitsNumber_append, ih]
    rfl

theorem digitsNumber_zeros_append (n : Nat) (chars : List Char) :
    digitsNumber (List.replicate n '0' ++ chars) = digitsNumber chars := by
  rw [digitsNumber_append, digitsNumber_replicate]
  omega

theorem digitsNumber_append_zeros (chars : List Char) (n : Nat) :
    digitsNumber (chars ++ List.replicate n '0') = digitsNumber chars * 10 ^ n := by
  rw [digitsNumber_append, digitsNumber_replicate, List.length_replicate, Nat.add_zero]

/-! ### The parts of a literal -/

/-- The digits at the front of digits and a rest that starts with none. -/
theorem leadingDigits_append {digits rest : List Char} (hdigits : IsDigits digits)
    (hrest : ∀ c ∈ rest.head?, Text.isAsciiDigit c = false) :
    leadingDigits (digits ++ rest) = (digits, rest) := by
  rw [leadingDigits, List.span_eq_takeWhile_dropWhile, List.takeWhile_append_of_pos hdigits,
    List.dropWhile_append_of_pos hdigits]
  cases rest with
  | nil => simp
  | cons c rest =>
    have hc := hrest c rfl
    simp [hc]

/-- An exponent part is empty or starts with its mark. -/
theorem head?_of_exponent? {chars : List Char} {power : Int} (h : exponent? chars = some power) :
    ∀ c ∈ chars.head?, c = 'e' ∨ c = 'E' := by
  rintro c hc
  cases chars with
  | nil => cases hc
  | cons mark rest =>
    obtain rfl : mark = c := by simpa using hc
    by_contra hmark
    simp [exponent?, hmark] at h

theorem leadingSign_of_digit {c : Char} (rest : List Char) (hc : Text.isAsciiDigit c = true) :
    leadingSign (c :: rest) = (false, c :: rest) := by
  unfold leadingSign
  split
  case h_1 h =>
    obtain ⟨rfl, -⟩ := List.cons.inj h
    exact absurd hc (by decide)
  case h_2 h =>
    obtain ⟨rfl, -⟩ := List.cons.inj h
    exact absurd hc (by decide)
  case h_3 => rfl

namespace Numeral

/-- The decimal that a numeral denotes: its digits are the units, and the power of ten is what the
exponent part says less the places after the point. -/
inductive Denotes : Numeral → Decimal → Prop
  | intro {whole fraction tail : List Char} {hasPoint : Bool} {power : Int} (hne : whole ≠ [])
      (hwhole : IsDigits whole) (hfraction : IsDigits fraction)
      (hpoint : hasPoint = false → fraction = []) (hpower : exponent? tail = some power) :
      Denotes ⟨whole, hasPoint, fraction ++ tail⟩
        ⟨digitsNumber (whole ++ fraction), power - fraction.length⟩

end Numeral

/-- A numeral with a sign is read as the decimal that it denotes. -/
theorem decimal?_of_denotes (negative : Bool) {n : Numeral} {d : Decimal} (h : n.Denotes d) :
    decimal? (if negative then '-' :: n.chars else n.chars) =
      some (Binary64.ofDecimal negative d.units d.exponent) := by
  obtain ⟨hne, hwhole, hfraction, hpoint, hpower⟩ := h
  rename_i whole fraction tail hasPoint power
  have htail := head?_of_exponent? hpower
  have hdigit : ∀ c ∈ tail.head?, Text.isAsciiDigit c = false := by
    rintro c hc
    rcases htail c hc with rfl | rfl <;> rfl
  -- The fraction ends where the exponent part begins; without a point there is none.
  have hrest : ∃ rest, Numeral.chars ⟨whole, hasPoint, fraction ++ tail⟩ = whole ++ rest ∧
      (∀ c ∈ rest.head?, Text.isAsciiDigit c = false) ∧
      leadingFraction rest = (fraction, tail) := by
    cases hasPoint with
    | true =>
      refine ⟨'.' :: (fraction ++ tail), rfl, by simp [Text.isAsciiDigit], ?_⟩
      exact leadingDigits_append hfraction hdigit
    | false =>
      obtain rfl := hpoint rfl
      refine ⟨tail, rfl, hdigit, ?_⟩
      unfold leadingFraction
      split
      case h_1 => exact absurd (htail '.' rfl) (by decide)
      case h_2 => rfl
  obtain ⟨rest, hchars, hhead, hfrac⟩ := hrest
  have hsign : leadingSign (if negative then '-' :: (whole ++ rest) else whole ++ rest) =
      (negative, whole ++ rest) := by
    cases negative with
    | true => rfl
    | false =>
      obtain ⟨c, whole', rfl⟩ := List.exists_cons_of_ne_nil hne
      exact leadingSign_of_digit _ (hwhole c (List.mem_cons_self ..))
  simp only [decimal?, hchars, hsign, leadingDigits_append hwhole hhead, hfrac, hpower,
    List.isEmpty_eq_false_iff.2 hne]
  rfl

namespace Numeral

/-! ### Laid out digits -/

theorem isDigits_paddedDigits (width n : Nat) : IsDigits (paddedDigits width n) :=
  (isDigits_replicate _).append (isDigits_digitChars n)

theorem digitsNumber_paddedDigits (width n : Nat) : digitsNumber (paddedDigits width n) = n := by
  rw [paddedDigits, digitsNumber_zeros_append, digitsNumber_digitChars]

theorem digitChars_ne_nil (n : Nat) : digitChars n ≠ [] :=
  Nat.toDigits_ne_nil

/-- An exponent part is read back. -/
theorem exponent?_exponentText (exponent : Int) :
    exponent? (exponentText 'e' exponent) = some exponent := by
  have hne : (paddedDigits 2 exponent.natAbs).isEmpty = false := by
    simp [paddedDigits, digitChars_ne_nil]
  have hall : (paddedDigits 2 exponent.natAbs).all Text.isAsciiDigit = true :=
    List.all_eq_true.2 (isDigits_paddedDigits 2 exponent.natAbs)
  have hsign : leadingSign ((if exponent < 0 then '-' else '+') ::
      paddedDigits 2 exponent.natAbs) =
        (decide (exponent < 0), paddedDigits 2 exponent.natAbs) := by
    split <;> simp [leadingSign, *]
  have hvalue : (if exponent < 0 then -(exponent.natAbs : Int) else exponent.natAbs) =
      exponent := by
    split <;> omega
  simp only [exponent?, exponentText, hsign, hne, hall, digitsNumber_paddedDigits, true_or,
    if_true, Bool.not_true, Bool.or_self, Bool.false_eq_true, if_false, decide_eq_true_eq, hvalue]

theorem digitsBetween_zero (digits : List Char) (stop : Int) :
    digitsBetween digits 0 stop =
      digits.take stop.toNat ++ List.replicate (stop.toNat - digits.length) '0' := by
  have hcount : stop.toNat - min stop.toNat digits.length = stop.toNat - digits.length := by omega
  simp [digitsBetween, hcount]

theorem digitsBetween_length (digits : List Char) {start : Int} (h : 0 ≤ start) :
    digitsBetween digits start digits.length = digits.drop start.toNat := by
  have hbefore : (-start).toNat = 0 := by omega
  have hcount : ((digits.length : Int) - start).toNat = digits.length - start.toNat := by omega
  simp [digitsBetween, hbefore, hcount]

theorem digitsBetween_after {digits : List Char} {start : Int} (h : digits.length ≤ start)
    (stop : Int) :
    digitsBetween digits start stop = List.replicate (stop - start).toNat '0' := by
  have hbefore : (-start).toNat = 0 := by omega
  have hdrop : digits.drop start.toNat = [] := List.drop_eq_nil_of_le (by omega)
  simp [digitsBetween, hbefore, hdrop]

theorem digitsBetween_before {digits : List Char} {start : Int} (h : start ≤ 0) :
    digitsBetween digits start digits.length =
      List.replicate (-start).toNat '0' ++ digits := by
  have hstart : start.toNat = 0 := by omega
  have hcount : ((digits.length : Int) - start).toNat = (-start).toNat + digits.length := by omega
  simp [digitsBetween, hstart, hcount]

/-- Digits with an exponent part: one digit stands before the point. -/
theorem layout_withExponent {style : Style} (hmark : style.mark = 'e') {digits : List Char}
    (hne : digits ≠ []) (point : Int) :
    layout style true digits point digits.length =
      ⟨digits.take 1, style.keepsPoint || !(digits.drop 1).isEmpty,
        digits.drop 1 ++ exponentText 'e' (point - 1)⟩ := by
  have hpos : 0 < digits.length := List.length_pos_iff.2 hne
  have hwhole : digitsBetween digits 0 1 = digits.take 1 := by
    simp [digitsBetween_zero digits, Nat.sub_eq_zero_of_le hpos]
  have hfraction : digitsBetween digits 1 digits.length = digits.drop 1 :=
    digitsBetween_length digits (by omega)
  simp only [layout, if_true, hwhole, hfraction, hmark]

/-- Digits around a point: zeros in front of them when the point stands before the first digit,
zeros after them when it stands after the last one. -/
theorem exists_layout_positional (style : Style) {digits : List Char} (hdigits : IsDigits digits)
    (hne : digits ≠ []) (point : Int) :
    ∃ (whole fraction : List Char) (zeros : Nat),
      layout style false digits point digits.length =
        ⟨whole, style.keepsPoint || !fraction.isEmpty, fraction ++ []⟩ ∧
      whole ≠ [] ∧ IsDigits whole ∧ IsDigits fraction ∧
      digitsNumber (whole ++ fraction) = digitsNumber digits * 10 ^ zeros ∧
      (fraction.length : Int) = digits.length + zeros - point := by
  have hpos : 0 < digits.length := List.length_pos_iff.2 hne
  simp only [layout, Bool.false_eq_true, if_false, List.append_nil]
  generalize hlast : (if style.fractionDigit then max (digits.length : Int) (point + 1)
    else max (digits.length : Int) point) = last
  by_cases hbefore : point ≤ 0
  · -- The point stands before the first digit.
    have hstop : last = digits.length := by split at hlast <;> omega
    refine ⟨['0'], List.replicate (-point).toNat '0' ++ digits, 0, ?_, List.cons_ne_nil _ _,
      isDigits_replicate 1, (isDigits_replicate _).append hdigits, ?_, ?_⟩
    · rw [hstop, digitsBetween_before hbefore, if_pos hbefore]
    · rw [← List.append_assoc, Nat.pow_zero, Nat.mul_one]
      exact digitsNumber_zeros_append ((-point).toNat + 1) digits
    · rw [List.length_append, List.length_replicate]
      omega
  rw [if_neg hbefore]
  by_cases hwithin : point < digits.length
  · -- The point stands among the digits.
    have hstop : last = digits.length := by split at hlast <;> omega
    have hnone : point.toNat - digits.length = 0 := by omega
    refine ⟨digits.take point.toNat, digits.drop point.toNat, 0, ?_, ?_,
      fun c hc => hdigits c (List.mem_of_mem_take hc),
      fun c hc => hdigits c (List.mem_of_mem_drop hc), ?_, ?_⟩
    · rw [hstop, digitsBetween_length digits (by omega), digitsBetween_zero, hnone,
        List.replicate_zero, List.append_nil]
    · simp [hne]
      omega
    · rw [List.take_append_drop, Nat.pow_zero, Nat.mul_one]
    · rw [List.length_drop]
      omega
  · -- The point stands after the last digit.
    have hall : digits.take point.toNat = digits := List.take_of_length_le (by omega)
    refine ⟨digits ++ List.replicate (point.toNat - digits.length) '0',
      List.replicate (last - point).toNat '0',
      point.toNat - digits.length + (last - point).toNat, ?_, ?_,
      hdigits.append (isDigits_replicate _), isDigits_replicate _, ?_, ?_⟩
    · rw [digitsBetween_zero, digitsBetween_after (not_lt.1 hwithin), hall]
    · simp [hne]
    · rw [digitsNumber_append_zeros, digitsNumber_append_zeros, Nat.mul_assoc, Nat.pow_add]
    · rw [List.length_replicate]
      split at hlast <;> omega

/-- Digits laid out around a point denote a decimal of the same rank. -/
theorem exists_denotes_layout {style : Style} (hmark : style.mark = 'e') (withExponent : Bool)
    {digits : List Char} (hdigits : IsDigits digits) (hne : digits ≠ []) (point : Int) :
    ∃ d, (layout style withExponent digits point digits.length).Denotes d ∧
      d.rank = Decimal.rank ⟨digitsNumber digits, point - digits.length⟩ := by
  have hpos : 0 < digits.length := List.length_pos_iff.2 hne
  have hpoint (fraction : List Char) :
      (style.keepsPoint || !fraction.isEmpty) = false → fraction = [] := by simp
  cases withExponent with
  | true =>
    rw [layout_withExponent hmark hne]
    refine ⟨_, .intro (by simp [hne]) (fun c hc => hdigits c (List.mem_of_mem_take hc))
      (fun c hc => hdigits c (List.mem_of_mem_drop hc)) (hpoint _)
      (exponent?_exponentText (point - 1)), ?_⟩
    have hlength : point - 1 - ((digits.drop 1).length : Int) = point - digits.length := by
      rw [List.length_drop]
      omega
    rw [List.take_append_drop, hlength]
  | false =>
    obtain ⟨whole, fraction, zeros, hlayout, hwhole_ne, hwhole, hfraction, hnumber, hlength⟩ :=
      exists_layout_positional style hdigits hne point
    rw [hlayout]
    refine ⟨_, .intro hwhole_ne hwhole hfraction (hpoint _) rfl, ?_⟩
    have hexponent : 0 - (fraction.length : Int) + zeros = point - digits.length := by omega
    rw [hnumber, Decimal.rank_mul_pow, hexponent]

end Numeral

/-! ### The plain text of a number -/

theorem exists_denotes_shortest {rank : Nat} (h : rank < Binary64.infinityRank) :
    ∃ d, (Numeral.shortest Binary64.plainStyle rank).Denotes d ∧ d.rank = rank := by
  generalize hshortest : (if rank = 0 then ⟨0, 0⟩ else Decimal.shortest rank : Decimal) = d
  have hrank : d.rank = rank := by
    rw [← hshortest]
    split
    case isTrue hzero => exact hzero.symm
    case isFalse => exact Decimal.rank_shortest h
  simp only [Numeral.shortest, hshortest]
  have hmark : Binary64.plainStyle.mark = 'e' := rfl
  obtain ⟨e, he, hsame⟩ := Numeral.exists_denotes_layout hmark
    (decide (d.exponent + (Numeral.digitChars d.units).length ≤ -4 ∨
      16 < d.exponent + (Numeral.digitChars d.units).length))
    (isDigits_digitChars d.units) (Numeral.digitChars_ne_nil d.units)
    (d.exponent + (Numeral.digitChars d.units).length)
  refine ⟨e, he, ?_⟩
  rw [hsame, digitsNumber_digitChars, Int.add_sub_cancel]
  exact hrank

/-- The text of a finite number is a literal of that number. -/
theorem decimal?_text (negative : Bool) {rank : Nat} (h : rank < Binary64.infinityRank) :
    decimal? (Binary64.number negative rank).text.toList = some (.number negative rank) := by
  obtain ⟨d, hdenotes, hrank⟩ := exists_denotes_shortest h
  simp only [Binary64.text, if_pos h, String.toList_ofList]
  rw [decimal?_of_denotes negative hdenotes, Decimal.ofDecimal_eq, hrank]

/-- The text of an infinity is no literal. -/
theorem decimal?_text_infinity (negative : Bool) :
    decimal? (Binary64.infinity negative).text.toList = none := by
  simp only [Binary64.infinity, Binary64.text, lt_irrefl, if_false, String.toList_ofList]
  cases negative <;> rfl

/-- A literal gives a finite number or an infinity. -/
theorem exists_of_decimal? {literal : List Char} {x : Binary64} (h : decimal? literal = some x) :
    ∃ negative rank, x = .number negative rank ∧ rank ≤ Binary64.infinityRank := by
  simp only [decimal?] at h
  split at h
  case isTrue => cases h
  case isFalse =>
    obtain ⟨power, -, hx⟩ := Option.bind_eq_some_iff.1 h
    obtain rfl := Option.some.inj hx
    exact ⟨_, _, Decimal.ofDecimal_eq .., Decimal.rank_le _⟩

end ChatCommands
