import ChatCommands.Argument.Strategy
import ChatCommands.Document.Reader
import ChatCommands.Text.Digit

/-!
# Written numbers and bytes

Terms write numbers as texts.  An integer is decimal digits of any script with a sign, single
underscores between digits and blanks around; a binary64 number is a decimal literal or one of the
words for infinity and for no number; bytes are pairs of hexadecimal digits with spaces between.

## Main definitions

* `Written.integer` : the integer that a text writes.
* `Written.float` : the binary64 number that a text writes.
* `Written.bytes` : the bytes that a text writes.
-/

namespace ChatCommands.Written

/-- A character with a decimal digit of any script replaced by that of ASCII. -/
def plainDigit (c : Char) : Char :=
  match Text.digitValue? c with
  | some d => Char.ofNat (0x30 + d)
  | none => c

/-- The characters of a written number, without blanks around. -/
def characters (s : String) : List Char :=
  (Text.trim s).toList.map plainDigit

/-- The digits between single underscores, none when there is anything else. -/
def digits? (chars : List Char) : Option (List Char) :=
  let runs := Text.splitFrom '_' [] chars
  if runs.all isMentionNumber then some runs.flatten else none

/-- The integer that a text writes. -/
def integer (s : String) : Except Error Int :=
  let (isNegative, rest) := leadingSign (characters s)
  match digits? rest with
  | none => .error (.refusal (.notInteger (Text.quote s)))
  | some digits =>
    if Digits.most < digits.length then .error (.document (.tooManyDigits digits.length))
    else
      let n : Int := digitsNumber digits
      .ok (if isNegative then -n else n)

/-- The words for numbers that have no decimal literal. -/
def words : List (String × (Bool → Binary64)) :=
  [("inf", Binary64.infinity), ("infinity", Binary64.infinity), ("nan", fun _ => .nan 0)]

/-- The binary64 number that a text writes. -/
def float (s : String) : Except Error Binary64 :=
  let chars := characters s
  let (isNegative, rest) := leadingSign chars
  match words.lookup (Text.lower (String.ofList rest)), decimal? chars with
  | some word, _ => .ok (word isNegative)
  | none, some x => .ok x
  | none, none => .error (.refusal (.notFloat (Text.quote s)))

/-- Whether a character may stand between the bytes. -/
def isGap (c : Char) : Bool :=
  c = ' ' || (decide (0x09 ≤ c.toNat) && decide (c.toNat ≤ 0x0d))

/-- The bytes that some characters write, or the position of the first that does not belong;
`position` counts those in front of them. -/
def bytesFrom (position : Nat) : List Char → Except Nat (List UInt8)
  | [] => .ok []
  | c :: rest =>
    if isGap c then bytesFrom (position + 1) rest
    else
      match Document.hexValue? c, rest with
      | none, _ => .error position
      | some _, [] => .error (position + 1)
      | some high, d :: rest =>
        match Document.hexValue? d with
        | none => .error (position + 1)
        | some low => do
          let others ← bytesFrom (position + 2) rest
          return UInt8.ofNat (high * 16 + low) :: others

/-- The bytes that a text writes.  A character above ASCII is found before any other mistake. -/
def bytes (s : String) : Except Error (List UInt8) :=
  let front := s.toList.takeWhile fun c => decide (c.toNat < 0x80)
  if front.length < s.length then .error (.refusal (.notHexadecimal front.length))
  else (bytesFrom 0 s.toList).mapError fun position => .refusal (.notHexadecimal position)

end ChatCommands.Written
