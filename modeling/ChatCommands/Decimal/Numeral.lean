import ChatCommands.Decimal.Shortest

/-!
# Numerals

The written form of a non-negative number: the digits before the point, the point when there is
one, and the rest, which holds the fraction and what follows it.  The digits of a number are laid
out positionally or with an exponent; the plain text of a binary64 number is positional when the
first significant digit has a weight from `10 ^ -4` to `10 ^ 15`.

## Main definitions

* `Numeral` : the parts of a written number.
* `Numeral.layout` : digits laid out around a point.
* `Numeral.fixed`, `Numeral.scientific`, `Numeral.general`, `Numeral.shortest` : the four styles.
* `Binary64.text` : the plain text of a number.
-/

namespace ChatCommands

/-- The digits before the point, whether there is a point, and everything after it. -/
structure Numeral where
  whole : List Char
  hasPoint : Bool
  tail : List Char

namespace Numeral

def chars (n : Numeral) : List Char :=
  n.whole ++ (if n.hasPoint then '.' :: n.tail else n.tail)

/-- The decimal digits of a natural number, most significant first. -/
def digitChars (n : Nat) : List Char :=
  Nat.toDigits 10 n

/-- The digits padded with zeros on the left up to `width` characters. -/
def paddedDigits (width n : Nat) : List Char :=
  let digits := digitChars n
  List.replicate (width - digits.length) '0' ++ digits

/-- The exponent part of a numeral: a mark, a sign and at least two digits. -/
def exponentText (mark : Char) (exponent : Int) : List Char :=
  mark :: (if exponent < 0 then '-' else '+') :: paddedDigits 2 exponent.natAbs

/-- How digits are laid out: whether a point is kept when no digit follows it, whether a
positional numeral gets a digit after the point, and the mark of the exponent. -/
structure Style where
  keepsPoint : Bool
  fractionDigit : Bool
  mark : Char

/-- The digits from one position up to another, zeros outside the digits. -/
def digitsBetween (digits : List Char) (start stop : Int) : List Char :=
  let count := (stop - start).toNat
  let before := min count (-start).toNat
  let within := (digits.drop start.toNat).take (count - before)
  List.replicate before '0' ++ within ++ List.replicate (count - before - within.length) '0'

/-- Lays out digits of which `point` stand before the point, up to the position `stop`. -/
def layout (style : Style) (withExponent : Bool) (digits : List Char) (point stop : Int) :
    Numeral :=
  if withExponent then
    let fraction := digitsBetween digits 1 stop
    ⟨digitsBetween digits 0 1, style.keepsPoint || !fraction.isEmpty,
      fraction ++ exponentText style.mark (point - 1)⟩
  else
    let last := if style.fractionDigit then max stop (point + 1) else max stop point
    let fraction := digitsBetween digits point last
    ⟨if point ≤ 0 then ['0'] else digitsBetween digits 0 point,
      style.keepsPoint || !fraction.isEmpty, fraction⟩

/-- The most places that a binary64 number has, and more than it has significant digits: what is
asked for beyond is zeros. -/
def mostPlaces : Nat := 1074

/-- A fixed number of places. -/
def fixed (keepsPoint : Bool) (num den places : Nat) : Numeral :=
  let exact := min places mostPlaces
  let digits := paddedDigits (exact + 1) (Decimal.fixed num den exact)
  let before := digits.length - exact
  ⟨digits.take before, keepsPoint || 0 < places,
    digits.drop before ++ List.replicate (places - exact) '0'⟩

/-- A digit and a fixed number of places of a number, and its exponent. -/
def significant (num den places : Nat) : List Char × Int :=
  let exact := min places mostPlaces
  let (units, exponent) := Decimal.scientific num den exact
  (paddedDigits (exact + 1) units ++ List.replicate (places - exact) '0', exponent)

/-- A digit, a fixed number of places, and an exponent. -/
def scientific (style : Style) (num den places : Nat) : Numeral :=
  let (digits, exponent) := significant num den places
  layout style true digits (exponent + 1) digits.length

/-- The digits without trailing zeros, but at least one digit. -/
def stripped (digits : List Char) : List Char :=
  match (digits.reverse.dropWhile fun c => c = '0').reverse with
  | [] => ['0']
  | kept => kept

/-- A fixed number of significant digits, positional when the exponent is small enough.  Trailing
zeros are dropped unless the style keeps the point. -/
def general (style : Style) (num den precision : Nat) : Numeral :=
  let (digits, exponent) := significant num den (precision - 1)
  let point := exponent + 1
  let limit : Int := if style.fractionDigit then (precision : Int) - 1 else precision
  let kept := if style.keepsPoint then digits else stripped digits
  layout style (decide (point ≤ -4 ∨ limit < point)) kept point kept.length

/-- The shortest digits that read back as the finite rank. -/
def shortest (style : Style) (rank : Nat) : Numeral :=
  let d : Decimal := if rank = 0 then ⟨0, 0⟩ else Decimal.shortest rank
  let digits := digitChars d.units
  let point : Int := d.exponent + digits.length
  layout style (decide (point ≤ -4 ∨ 16 < point)) digits point digits.length

end Numeral

namespace Binary64

/-- How plain numbers are written: `1.0`, `1e+16`. -/
def plainStyle : Numeral.Style := ⟨false, true, 'e'⟩

/-- The plain text of a number: shortest digits that read back, `inf` and `nan`. -/
def text : Binary64 → String
  | .nan _ => "nan"
  | .number negative rank =>
    let body :=
      if rank < infinityRank then (Numeral.shortest plainStyle rank).chars else ['i', 'n', 'f']
    String.ofList (if negative then '-' :: body else body)

end Binary64

end ChatCommands
