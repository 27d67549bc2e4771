import ChatCommands.Error
import ChatCommands.Text.Digit

/-!
# Coercion strategies

A strategy turns a token into a value of its type, or into `unset` when the token does not belong
to the type.  Numbers are decimal literals in ASCII; mentions are bare digits or digits in the
brackets of their kind.

## Main definitions

* `Strategy` : the strategies.
* `decimal?` : the number that a literal gives.
* `mention?` : the digits that a mention holds.
* `Strategy.text`, `Strategy.number`, `Strategy.boolean`, `Strategy.mention` : the built-in ones.
* `Strategy.upperWord`, `Strategy.oneOf`, `Strategy.always`, `Strategy.failing` : simple ones for
  hosts.
-/

namespace ChatCommands

/-- A strategy gives the value of a token, `unset` when it refuses the token. -/
abbrev Strategy := Value → Except Error Value

/-! ### Literals -/

/-- The digits at the front, and the rest. -/
def leadingDigits (chars : List Char) : List Char × List Char :=
  chars.span Text.isAsciiDigit

/-- The sign at the front, and the rest. -/
def leadingSign : List Char → Bool × List Char
  | '-' :: rest => (true, rest)
  | '+' :: rest => (false, rest)
  | rest => (false, rest)

/-- The natural number that digits give. -/
def digitsNumber (digits : List Char) : Nat :=
  digits.foldl (fun n c => n * 10 + (c.toNat - 0x30)) 0

/-- The fraction at the front: a point and its digits, and the rest. -/
def leadingFraction : List Char → List Char × List Char
  | '.' :: rest => leadingDigits rest
  | rest => ([], rest)

/-- The exponent that the rest of a literal is, zero when nothing is left. -/
def exponent? : List Char → Option Int
  | [] => some 0
  | mark :: rest =>
    if mark = 'e' ∨ mark = 'E' then
      let (isNegative, digits) := leadingSign rest
      if digits.isEmpty || !digits.all Text.isAsciiDigit then none
      else
        let n : Int := digitsNumber digits
        some (if isNegative then -n else n)
    else none

/-- The number that a literal gives: a sign, digits with or without a point among them, and an
exponent. -/
def decimal? (literal : List Char) : Option Binary64 := do
  let (isNegative, rest) := leadingSign literal
  let (whole, rest) := leadingDigits rest
  let (fraction, rest) := leadingFraction rest
  if whole.isEmpty && fraction.isEmpty then none
  else
    let power ← exponent? rest
    return Binary64.ofDecimal isNegative (digitsNumber (whole ++ fraction))
      (power - fraction.length)

/-! ### Mentions -/

/-- The kinds of mentions. -/
inductive MentionKind
  | channel
  | user
  | role
deriving DecidableEq

/-- The openers of a kind of mention. -/
def MentionKind.openers : MentionKind → List (List Char)
  | .channel => [['<', '#']]
  | .user => [['<', '@', '!'], ['<', '@']]
  | .role => [['<', '@', '&']]

/-- Whether characters are a number of a mention: digits, at least one. -/
def isMentionNumber (chars : List Char) : Bool :=
  !chars.isEmpty && chars.all Text.isAsciiDigit

/-- The digits between an opener and the closing bracket. -/
def bracketed? (opener chars : List Char) : Option (List Char) :=
  if opener.isPrefixOf chars then
    let body := chars.drop opener.length
    if body.getLast? = some '>' ∧ isMentionNumber body.dropLast then some body.dropLast else none
  else none

/-- The digits that a mention holds: the whole token, or what stands in its brackets. -/
def mention? (kind : MentionKind) (chars : List Char) : Option (List Char) :=
  if isMentionNumber chars then some chars else kind.openers.findSome? fun o => bracketed? o chars

/-! ### The built-in strategies -/

namespace Strategy

/-- Asks for a text; a pattern is matched against texts only. -/
def matched (v : Value) : Except Error String :=
  match v with
  | .text s => .ok s
  | .bytes _ => .error (.misuse .patternOnBytes)
  | v => .error (.misuse (.textExpected v.typeName))

/-- Every token is a text. -/
def text : Strategy := fun v => .ok v

/-- The number that a token writes. -/
def number : Strategy := fun v => do
  let s ← matched v
  match decimal? s.toList with
  | some x => return .float x
  | none => return .unset

/-- The truth value that a text names, in any letter case. -/
def truth? (s : String) : Option Bool :=
  let word := Text.lower s
  if word = "true" ∨ word = "1" then some true
  else if word = "false" ∨ word = "0" then some false
  else none

/-- The truth value that a token names. -/
def boolean : Strategy := fun v =>
  match v with
  | .text s =>
    match truth? s with
    | some b => .ok (.bool b)
    | none => .ok .unset
  | .bytes _ => .ok .unset
  | v => .error (.misuse (.noAttribute v.typeName "lower"))

/-- The digits of a mention. -/
def mention (kind : MentionKind) : Strategy := fun v => do
  let s ← matched v
  match mention? kind s.toList with
  | some digits => return .text (String.ofList digits)
  | none => return .unset

/-! ### Simple strategies -/

/-- A word of ASCII letters in upper case. -/
def upperWord : Strategy := fun v =>
  match v with
  | .text s =>
    let isWord := !s.isEmpty && s.toList.all fun c => decide (c.toNat < 0x80) && c.isAlpha
    .ok (if isWord then .text (Text.upper s) else .unset)
  | _ => .ok .unset

/-- The token, when it is one of the given values. -/
def oneOf (values : List Value) : Strategy := fun v =>
  .ok (if v.isIn values then v else .unset)

/-- The same value for every token. -/
def always (result : Value) : Strategy := fun _ => .ok result

/-- The same failure for every token. -/
def failing (f : Failure) : Strategy := fun _ => .error f.toError

end Strategy

end ChatCommands
