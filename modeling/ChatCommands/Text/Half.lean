/-!
# Lone halves of surrogate pairs

Text from outside may hold one half of a surrogate pair without the other.  A half has a code but
is no character, so it is held as the private-use character at a fixed distance above its code.
It keeps its place in the text, and wherever codes are shown it is shown by its own.

## Main definitions

* `Text.character` : the character that a code is held as.
* `Text.codeOf` : the code that a character is held for.
-/

namespace ChatCommands.Text

/-- The distance between a half and the character that it is held as. -/
def halfDistance : Nat := 0x100000

/-- Whether a code is the first half of a pair. -/
def isHighHalf (code : Nat) : Bool :=
  decide (0xd800 ≤ code) && decide (code < 0xdc00)

/-- Whether a code is the second half of a pair. -/
def isLowHalf (code : Nat) : Bool :=
  decide (0xdc00 ≤ code) && decide (code < 0xe000)

/-- Whether a code is a half of a pair. -/
def isHalf (code : Nat) : Bool :=
  isHighHalf code || isLowHalf code

/-- The character that a code is held as. -/
def character (code : Nat) : Char :=
  if isHalf code then Char.ofNat (code + halfDistance) else Char.ofNat code

/-- Whether a character is held for a half of a pair. -/
def holdsHalf (c : Char) : Bool :=
  isHalf (c.toNat - halfDistance)

/-- The code that a character is held for. -/
def codeOf (c : Char) : Nat :=
  if holdsHalf c then c.toNat - halfDistance else c.toNat

end ChatCommands.Text
