/-!
# Binary64 numbers in exact arithmetic

Number arguments are binary64 numbers.  A number other than the not-a-number value is a sign
and a *rank*: its place in the increasing list of the non-negative numbers, so that rank `0` is
zero and the rank after the largest finite number is infinity.  Every operation here is exact
arithmetic on natural numbers followed by one rounding to the nearest rank, a half going to the
even one; a rank is even exactly when its significand is.

Not-a-number equals nothing, itself included, and yet containers find it again.  So it carries a
serial number, by which one is told from another.

## Main definitions

* `Binary64` : a sign and a rank, or not a number.
* `Binary64.ratio` : the exact value of a rank as a quotient of natural numbers.
* `Binary64.roundRank` : the rank nearest to a quotient.
* `Binary64.ofDecimal` : the number nearest to a decimal literal.
* `Binary64.add` : the rounded sum.
* `Binary64.equals`, `Binary64.isSame` : equality, and whether two are one not-a-number.
-/

namespace ChatCommands

/-- The quotient `num / den` rounded to the nearest natural number, a half to the even one. -/
def roundDiv (num den : Nat) : Nat :=
  let quotient := num / den
  let rest := num % den
  if 2 * rest < den then quotient
  else if den < 2 * rest then quotient + 1
  else if quotient % 2 = 0 then quotient else quotient + 1

/-- A binary64 number: a not-a-number value, or a sign with the rank of the magnitude. -/
inductive Binary64
  | nan (serial : Nat)
  | number (negative : Bool) (rank : Nat)
deriving DecidableEq

namespace Binary64

/-- The rank of infinity; the ranks below it are the finite magnitudes. -/
def infinityRank : Nat := 2047 * Nat.pow 2 52

/-- The integer significand of a finite rank. -/
def significand (rank : Nat) : Nat :=
  if rank < Nat.pow 2 52 then rank else Nat.pow 2 52 + rank % Nat.pow 2 52

/-- The binary exponent that belongs to the significand, counted up from `-1074`. -/
def scale (rank : Nat) : Nat :=
  if rank < Nat.pow 2 52 then 0 else rank / Nat.pow 2 52 - 1

/-- The value of a finite rank is `significand * 2 ^ scale / 2 ^ 1074`. -/
def ratio (rank : Nat) : Nat × Nat :=
  (significand rank * Nat.pow 2 (scale rank), Nat.pow 2 1074)

/-- The rank nearest to `num / den`, a half going to the even rank.

The shift `e` is chosen so that the quotient by `2 ^ (e - 1074)` has at most 53 binary digits; a
significand that rounds up to `2 ^ 53` carries into the next binade by itself. -/
def roundRank (num den : Nat) : Nat :=
  if num = 0 then 0
  else
    let guess := num.log2 + 1074 - den.log2 - 53
    let big := Nat.pow 2 53 * den * Nat.pow 2 guess ≤ num * Nat.pow 2 1074
    let shift := if big then guess + 1 else guess
    let rounded := roundDiv (num * Nat.pow 2 1074) (den * Nat.pow 2 shift)
    min infinityRank (shift * Nat.pow 2 52 + rounded)

def zero : Binary64 := .number false 0

def infinity (negative : Bool) : Binary64 := .number negative infinityRank

/-- The number nearest to `± num / den`. -/
def ofRatio (negative : Bool) (num den : Nat) : Binary64 :=
  .number negative (roundRank num den)

/-- The number nearest to `± digits * 10 ^ exponent`.

Exponents so large that the value passes every finite number, or so small that it is nearer to
zero than to the least positive number, are settled before any power is formed. -/
def ofDecimal (negative : Bool) (digits : Nat) (exponent : Int) : Binary64 :=
  if digits = 0 then .number negative 0
  else if 400 < exponent then infinity negative
  else if exponent + (digits.log2 / 3 : Nat) < -400 then .number negative 0
  else if 0 ≤ exponent then ofRatio negative (digits * Nat.pow 10 exponent.toNat) 1
  else ofRatio negative digits (Nat.pow 10 (-exponent).toNat)

/-- The nearest number to an integer; infinity when the integer is too large. -/
def ofInt (n : Int) : Binary64 :=
  ofRatio (decide (n < 0)) n.natAbs 1

def isFinite : Binary64 → Bool
  | .nan _ => false
  | .number _ rank => rank < infinityRank

def isZero : Binary64 → Bool
  | .nan _ => false
  | .number _ rank => rank = 0

/-- The value of a finite number times `2 ^ 1074`, an integer. -/
def scaledInt : Binary64 → Int
  | .nan _ => 0
  | .number negative rank =>
    let magnitude : Int := (ratio rank).1
    if negative then -magnitude else magnitude

/-- Sum, rounded once.  Infinities absorb finite numbers, opposite infinities have no sum, and
an exact zero is negative only when both operands are. -/
def add : Binary64 → Binary64 → Binary64
  | .nan serial, _ => .nan serial
  | _, .nan serial => .nan serial
  | .number na ra, .number nb rb =>
    if ra < infinityRank then
      if rb < infinityRank then
        let total := scaledInt (.number na ra) + scaledInt (.number nb rb)
        if total = 0 then .number (na && nb) 0
        else ofRatio (decide (total < 0)) total.natAbs (Nat.pow 2 1074)
      else .number nb rb
    else if rb < infinityRank then .number na ra
    else if na = nb then .number na ra
    else .nan 0

/-- The number times a natural number, rounded once. -/
def scaleBy (factor : Nat) : Binary64 → Binary64
  | .nan serial => .nan serial
  | .number negative rank =>
    if rank < infinityRank then ofRatio negative ((ratio rank).1 * factor) (Nat.pow 2 1074)
    else .number negative rank

/-- Numeric equality: zeros of either sign are equal and not-a-number equals nothing. -/
def equals : Binary64 → Binary64 → Bool
  | .number na ra, .number nb rb => ra = rb && (na = nb || ra = 0)
  | _, _ => false

/-- Whether two numbers are one and the same not-a-number. -/
def isSame : Binary64 → Binary64 → Bool
  | .nan serial, .nan serial' => serial = serial'
  | _, _ => false

/-- A number with the serial number that it carries if it is not a number. -/
def withSerial (serial : Nat) : Binary64 → Binary64
  | .nan _ => .nan serial
  | x => x

/-- Exact comparison with an integer. -/
def equalsInt (x : Binary64) (n : Int) : Bool :=
  x.isFinite && x.scaledInt = n * Nat.pow 2 1074

end Binary64

end ChatCommands
