import ChatCommands.Value.Item

/-!
# Positions in words

Positions in messages count from one and are worded: in full up to the tenth, and as a number with
its ending after that.

## Main definitions

* `ordinal` : the wording of a position.
* `ordinalOf` : the wording of a number of any kind.
-/

namespace ChatCommands

/-- The words of the first ten positions. -/
def ordinalWords : List String :=
  ["first", "second", "third", "fourth", "fifth", "sixth", "seventh", "eighth", "ninth", "tenth"]

/-- The ending of a number: by its last digit, but for those that end in eleven to thirteen. -/
def ordinalEnding (n : Int) : String :=
  if 11 ≤ n % 100 ∧ n % 100 ≤ 13 then "th"
  else if n % 10 = 1 then "st"
  else if n % 10 = 2 then "nd"
  else if n % 10 = 3 then "rd"
  else "th"

/-- The wording of a position.  Numbers that are no positions are written with an ending too,
chosen by their remainders, which are never negative. -/
def ordinal (n : Int) : String :=
  let numeral := toString n ++ ordinalEnding n
  if 1 ≤ n then (ordinalWords[n.toNat - 1]?).getD numeral else numeral

/-- The whole number that a binary64 number is, if it is one. -/
def Binary64.whole? (x : Binary64) : Option Int :=
  if x.isFinite ∧ x.scaledInt % Nat.pow 2 1074 = 0 then some (x.scaledInt / Nat.pow 2 1074)
  else none

/-- Whether a binary64 number lies among the positions that have words of their own. -/
def isWorded (x : Binary64) : Bool :=
  x.isFinite && decide ((Nat.pow 2 1074 : Int) ≤ x.scaledInt) &&
    decide (x.scaledInt ≤ (ordinalWords.length : Int) * Nat.pow 2 1074)

/-- The wording of a number of any kind.  A binary64 number has no word of its own, false is
written as a word before its ending, and what is no number cannot be compared with positions. -/
def ordinalOf (v : Value) : Except Misuse String :=
  match v with
  | .bool false => .ok (v.literal ++ ordinalEnding 0)
  | .float x =>
    if isWorded x then .error (.positionExpected "tuple" v.typeName)
    else .ok (x.text ++ ((x.whole?.map ordinalEnding).getD "th"))
  | v =>
    match v.integer? with
    | some n => .ok (ordinal n)
    | none => .error (.comparison "<=" "int" v.typeName)

end ChatCommands
