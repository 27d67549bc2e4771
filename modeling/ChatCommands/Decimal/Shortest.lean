import ChatCommands.Decimal.Binary64

/-!
# Shortest decimal text of a binary64 number

A finite number is written with the fewest significant digits that read back as the same number
and, among those, with the digits nearest to it.  The search tries one digit, two digits and so
on up to seventeen: on each decimal grid only the two neighbours of the value are candidates,
because every grid point that reads back lies between the value's neighbours or is one of them.
A candidate is accepted by reading it back.

## Main definitions

* `Decimal` : a natural number of units and the power of ten they count.
* `Decimal.shortest` : the shortest decimal that reads back as a finite rank.
* `Decimal.exact` : the full decimal expansion of a finite rank.
* `Decimal.fixed`, `Decimal.scientific` : a fixed number of places or of significant digits.
-/

namespace ChatCommands

/-- The decimal `units * 10 ^ exponent`. -/
structure Decimal where
  units : Nat
  exponent : Int
deriving DecidableEq

namespace Decimal

/-- The quotient `num / den` times `10 ^ power`, as a quotient. -/
def shifted (num den : Nat) (power : Int) : Nat × Nat :=
  if 0 ≤ power then (num * Nat.pow 10 power.toNat, den)
  else (num, den * Nat.pow 10 (-power).toNat)

/-- The decimal exponent of a positive quotient: the `k` with `10 ^ k ≤ num / den < 10 ^ (k+1)`.
The binary logarithms place it up to a few units, which are then tried from above. -/
def magnitude (num den : Nat) : Int :=
  let guess : Int := (((num.log2 : Int) - den.log2) * 30103) / 100000
  let reaches (k : Int) : Bool :=
    let (n, d) := shifted num den (-k)
    d ≤ n
  ([guess + 2, guess + 1, guess, guess - 1].find? reaches).getD (guess - 2)

/-- Removes trailing zero digits of `units`, at most `fuel` of them. -/
def trimmed : Nat → Decimal → Decimal
  | 0, d => d
  | fuel + 1, d =>
    if d.units ≠ 0 ∧ d.units % 10 = 0 then trimmed fuel ⟨d.units / 10, d.exponent + 1⟩ else d

/-- The rank that a decimal reads as. -/
def rank (d : Decimal) : Nat :=
  match Binary64.ofDecimal false d.units d.exponent with
  | .nan _ => 0
  | .number _ rank => rank

/-- The two neighbours of the quotient on the grid `10 ^ exponent`, the nearer one first and the
even one first at equal distance. -/
def neighbours (num den : Nat) (exponent : Int) : List Decimal :=
  let (n, d) := shifted num den (-exponent)
  let below := n / d
  let rest := n % d
  let upFirst := d < 2 * rest || (d = 2 * rest && below % 2 = 1)
  if upFirst then [⟨below + 1, exponent⟩, ⟨below, exponent⟩]
  else [⟨below, exponent⟩, ⟨below + 1, exponent⟩]

/-- The full decimal expansion of a finite rank. -/
def exact (rank : Nat) : Decimal :=
  ⟨Binary64.significand rank * Nat.pow 2 (Binary64.scale rank) * Nat.pow 5 1074, -1074⟩

/-- The shortest decimal that reads back as the finite rank `r`, nearest to it among those. -/
def shortest (r : Nat) : Decimal :=
  let (num, den) := Binary64.ratio r
  let top := magnitude num den
  let onGrid (places : Nat) : Option Decimal :=
    (neighbours num den (top - places)).find? fun d => d.rank = r
  trimmed 1100 (((List.range 17).findSome? onGrid).getD (exact r))

/-- The quotient in units of `10 ^ (-places)`, rounded to even at a half. -/
def fixed (num den places : Nat) : Nat :=
  roundDiv (num * Nat.pow 10 places) den

/-- The quotient with `places + 1` significant digits: the digits as a natural number and the
decimal exponent of the first one.  Zero has exponent zero. -/
def scientific (num den places : Nat) : Nat × Int :=
  if num = 0 then (0, 0)
  else
    let top := magnitude num den
    let (n, d) := shifted num den (places - top)
    let units := roundDiv n d
    if units = Nat.pow 10 (places + 1) then (Nat.pow 10 places, top + 1) else (units, top)

end Decimal

end ChatCommands
