import ChatCommands.Document.Octets
import ChatCommands.Value.Entries

/-!
# Reading documents

A document is a value in the usual notation of objects, arrays, texts, numbers and the words
`true`, `false` and `null`; the words `NaN`, `Infinity` and `-Infinity` are numbers too.  Objects
keep the order of their names, and a repeated name keeps its first place and its last value.

A reader takes a value off the front of the text and returns the rest.  It reports a mistake by
the rest of the text from the mistake on, which gives the position once the whole is known.  An
integer may not have too many digits, and containers may not be nested too deep; a reader stops at
the first that goes beyond, whatever follows.

## Main definitions

* `Document.readText`, `Document.readNumber`, `Document.readValue` : the readers.
* `Document.ofText` : the value of a whole text.
* `Document.ofBytes` : the value of a whole file.
-/

namespace ChatCommands.Document

/-- Why a reader stops: at a mistake, given with the number of characters from it to the end, at an
integer with too many digits, or at a container that is nested too deep. -/
inductive Mistake
  | wording (kind : SyntaxMistake) (remaining : Nat)
  | digits (count : Nat)
  | depth (container : Container)

/-- The mistake in front of a rest. -/
def mistakeAt {α : Type} (kind : SyntaxMistake) (rest : List Char) : Except Mistake α :=
  .error (.wording kind rest.length)

/-- How deep containers may nest. -/
def deepest : Nat := 980

def isGap (c : Char) : Bool :=
  c = ' ' || c = '\t' || c = '\n' || c = '\r'

/-- The text without the gap at its front. -/
def skipGap (chars : List Char) : List Char :=
  chars.dropWhile isGap

/-! ### Texts -/

/-- The value of a hexadecimal digit. -/
def hexValue? (c : Char) : Option Nat :=
  if '0' ≤ c ∧ c ≤ '9' then some (c.toNat - '0'.toNat)
  else if 'a' ≤ c ∧ c ≤ 'f' then some (c.toNat - 'a'.toNat + 10)
  else if 'A' ≤ c ∧ c ≤ 'F' then some (c.toNat - 'A'.toNat + 10)
  else none

/-- The code that four hexadecimal digits give. -/
def hexCode? (digits : List Char) : Option Nat :=
  if digits.length = 4 then
    digits.foldlM (fun code c => (hexValue? c).map fun d => code * 16 + d) 0
  else none

/-- The character that a letter stands for after a backslash. -/
def escaped? (c : Char) : Option Char :=
  match c with
  | '"' => some '"'
  | '\\' => some '\\'
  | '/' => some '/'
  | 'b' => some '\x08'
  | 'f' => some '\x0c'
  | 'n' => some '\n'
  | 'r' => some '\r'
  | 't' => some '\t'
  | _ => none

/-- The character that a code escape stands for, given the text after the letter `u`, and the
number of characters that the escape takes from there.  Two escapes may make up one character. -/
def codeEscape (rest : List Char) : Except Mistake (Char × Nat) :=
  if (rest.take 5).length ≤ 4 then .error (.wording .badCodeEscape (rest.length + 1))
  else
    match hexCode? (rest.take 4) with
    | none => .error (.wording .badCodeEscape (rest.length + 1))
    | some high =>
      match Text.isHighHalf high, rest.drop 4 with
      | true, '\\' :: 'u' :: more =>
        if (more.take 5).length ≤ 4 then .ok (Text.character high, 4)
        else
          match hexCode? (more.take 4) with
          | none => .error (.wording .badCodeEscape (more.length + 1))
          | some low =>
            if Text.isLowHalf low then
              .ok (Char.ofNat (0x10000 + (high - 0xd800) * 0x400 + (low - 0xdc00)), 10)
            else .ok (Text.character high, 4)
      | _, _ => .ok (Text.character high, 4)

/-- Reads a text up to its closing quote.  `start` is what follows the opening quote, and `skip`
counts characters that an escape has already taken. -/
def readTextFrom (start : List Char) (skip : Nat) :
    List Char → Except Mistake (List Char × List Char)
  | [] => .error (.wording .unterminatedText (start.length + 1))
  | c :: rest =>
    match skip with
    | skip + 1 => readTextFrom start skip rest
    | 0 =>
      if c = '"' then .ok ([], rest)
      else if c = '\\' then do
        let (d, taken) ← match rest with
          | [] => .error (.wording .unterminatedText (start.length + 1))
          | 'u' :: more => do
            let (d, taken) ← codeEscape more
            pure (d, taken + 1)
          | e :: _ =>
            match escaped? e with
            | some d => .ok (d, 1)
            | none => mistakeAt .badEscape (c :: rest)
        let (chars, rest) ← readTextFrom start taken rest
        return (d :: chars, rest)
      else if c.toNat < 0x20 then mistakeAt .controlCharacter (c :: rest)
      else do
        let (chars, rest) ← readTextFrom start 0 rest
        return (c :: chars, rest)

/-- Reads a text whose opening quote has been read. -/
def readText (rest : List Char) : Except Mistake (String × List Char) := do
  let (chars, rest) ← readTextFrom rest 0 rest
  return (String.ofList chars, rest)

/-! ### Numbers -/

def isDigit (c : Char) : Bool :=
  decide ('0' ≤ c) && decide (c ≤ '9')

/-- The number that some digits give. -/
def digitsValue (digits : List Char) : Nat :=
  digits.foldl (fun n c => n * 10 + (c.toNat - '0'.toNat)) 0

/-- The digits of the fraction at the front, and the rest.  A point counts only in front of a
digit. -/
def readFraction : List Char → List Char × List Char
  | '.' :: rest =>
    if (rest.takeWhile isDigit).isEmpty then ([], '.' :: rest)
    else (rest.takeWhile isDigit, rest.dropWhile isDigit)
  | rest => ([], rest)

/-- The exponent at the front, and the rest.  A mark counts only in front of digits. -/
def readExponent (chars : List Char) : Option Int × List Char :=
  match chars with
  | [] => (none, [])
  | mark :: rest =>
    if mark = 'e' ∨ mark = 'E' then
      let (isNegative, unsigned) := match rest with
        | '-' :: more => (true, more)
        | '+' :: more => (false, more)
        | _ => (false, rest)
      let digits := unsigned.takeWhile isDigit
      if digits.isEmpty then (none, chars)
      else
        let n : Int := digitsValue digits
        (some (if isNegative then -n else n), unsigned.dropWhile isDigit)
    else (none, chars)

/-- Reads a number: an integer, or a binary64 number when there is a fraction or an exponent. -/
def readNumber (chars : List Char) : Except Mistake (Value × List Char) :=
  let (isNegative, unsigned) := match chars with
    | '-' :: rest => (true, rest)
    | _ => (false, chars)
  let run := match unsigned with
    | '0' :: _ => ['0']
    | _ => unsigned.takeWhile isDigit
  if run.isEmpty then mistakeAt .valueExpected chars
  else
    let rest := unsigned.drop run.length
    let (fraction, rest) := readFraction rest
    let (exponent, rest) := readExponent rest
    if fraction.isEmpty ∧ exponent.isNone then
      if Digits.most < run.length then .error (.digits run.length)
      else
        let n : Int := digitsValue run
        .ok (.int (if isNegative then -n else n), rest)
    else
      let units := digitsValue (run ++ fraction)
      let power := exponent.getD 0 - fraction.length
      .ok (.float (Binary64.ofDecimal isNegative units power), rest)

/-- The words and what they stand for. -/
def words : List (List Char × Value) :=
  [(['n', 'u', 'l', 'l'], .null), (['t', 'r', 'u', 'e'], .bool true),
    (['f', 'a', 'l', 's', 'e'], .bool false), (['N', 'a', 'N'], .float (.nan 0)),
    (['I', 'n', 'f', 'i', 'n', 'i', 't', 'y'], .float (Binary64.infinity false)),
    (['-', 'I', 'n', 'f', 'i', 'n', 'i', 't', 'y'], .float (Binary64.infinity true))]

/-- Reads a word or a number. -/
def readScalar (chars : List Char) : Except Mistake (Value × List Char) :=
  match words.find? fun w => w.1.isPrefixOf chars with
  | some (word, v) => .ok (v, chars.drop word.length)
  | none => readNumber chars

/-! ### Values -/

mutual

/-- Reads a value whose containers may nest to a depth; `fuel` bounds the depth and the number of
items together and is at least the number of characters. -/
def readValue (depth : Nat) : Nat → List Char → Except Mistake (Value × List Char)
  | 0, chars => mistakeAt .valueExpected chars
  | _ + 1, [] => mistakeAt .valueExpected []
  | fuel + 1, c :: rest =>
    if c = '"' then do
      let (s, rest) ← readText rest
      return (.text s, rest)
    else if c = '\x7b' then
      match depth with
      | 0 => .error (.depth .object)
      | depth + 1 =>
        match skipGap rest with
        | '\x7d' :: rest => .ok (.map false [], rest)
        | rest => do
          let (entries, rest) ← readEntries depth fuel rest
          return (.map false (Entries.ofList entries), rest)
    else if c = '[' then
      match depth with
      | 0 => .error (.depth .array)
      | depth + 1 =>
        match skipGap rest with
        | ']' :: rest => .ok (.list [], rest)
        | rest => do
          let (items, rest) ← readItems depth fuel rest
          return (.list items, rest)
    else readScalar (c :: rest)

/-- Reads the items of an array up to its closing bracket. -/
def readItems (depth : Nat) : Nat → List Char → Except Mistake (List Value × List Char)
  | 0, chars => mistakeAt .valueExpected chars
  | fuel + 1, chars => do
    let (v, rest) ← readValue depth fuel chars
    match skipGap rest with
    | ']' :: rest => return ([v], rest)
    | ',' :: rest =>
      let (items, rest) ← readItems depth fuel (skipGap rest)
      return (v :: items, rest)
    | rest => mistakeAt .commaExpected rest

/-- Reads the entries of an object up to its closing bracket. -/
def readEntries (depth : Nat) :
    Nat → List Char → Except Mistake (List (String × Value) × List Char)
  | 0, chars => mistakeAt .nameExpected chars
  | fuel + 1, '"' :: rest => do
    let (name, rest) ← readText rest
    match skipGap rest with
    | ':' :: rest =>
      let (v, rest) ← readValue depth fuel (skipGap rest)
      match skipGap rest with
      | '\x7d' :: rest => return ([(name, v)], rest)
      | ',' :: rest =>
        let (entries, rest) ← readEntries depth fuel (skipGap rest)
        return ((name, v) :: entries, rest)
      | rest => mistakeAt .commaExpected rest
    | rest => mistakeAt .colonExpected rest
  | _ + 1, chars => mistakeAt .nameExpected chars

end

/-- What a mistake means for a whole text: its line, its column and its offset. -/
def located (text : List Char) : Mistake → DocumentError
  | .digits count => .tooManyDigits count
  | .depth container => .tooDeep container
  | .wording kind remaining =>
    let front := text.take (text.length - remaining)
    let column := (front.reverse.takeWhile fun c => c ≠ '\n').length + 1
    .syntaxAt kind (front.count '\n' + 1) column front.length

/-- The value that is the whole of a text, but for gaps around it. -/
def readWhole (text : List Char) : Except Mistake Value := do
  if text.head? = some '\ufeff' then mistakeAt .byteOrderMark text
  else
    let (v, rest) ← readValue deepest (2 * text.length + 2) (skipGap text)
    match skipGap rest with
    | [] => return v
    | rest => mistakeAt .extraData rest

/-- The value of a whole text. -/
def ofText (text : List Char) : Except DocumentError Value :=
  (readWhole text).mapError (located text)

/-- The value of a whole file. -/
def ofBytes (bytes : List UInt8) : Except DocumentError Value := do
  let text ← Octets.text bytes
  ofText (lines text)

end ChatCommands.Document
