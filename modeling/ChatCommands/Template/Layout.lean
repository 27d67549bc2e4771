import ChatCommands.Template.Error
import ChatCommands.Text.Digit

/-!
# Layouts

A layout says how a value is set: fill and alignment, sign, width, digit grouping, precision and
the kind of text.  Each part is a letter or a number, all of them may be absent, and they come in
one order.

## Main definitions

* `Template.Layout` : the parts of a layout.
* `Template.Layout.read` : a layout from its text, given the kind and the alignment that apply
  when the text names none.
-/

namespace ChatCommands.Template

/-- The side on which a value is set; `inner` puts the padding between the sign and the digits. -/
inductive Alignment
  | left
  | right
  | centre
  | inner
deriving DecidableEq

/-- How the digits before the point are grouped. -/
inductive Grouping
  | none
  | comma
  | underscore
deriving DecidableEq

/-- The parts of a layout.  The `kind` is absent when neither the text nor the default has one. -/
structure Layout where
  fill : Char
  alignment : Alignment
  sign : Option Char
  coercesZero : Bool
  isAlternate : Bool
  width : Option Nat
  grouping : Grouping
  precision : Option Nat
  kind : Option Char
deriving DecidableEq

namespace Layout

def alignmentOf? (c : Char) : Option Alignment :=
  if c = '<' then some .left
  else if c = '>' then some .right
  else if c = '^' then some .centre
  else if c = '=' then some .inner
  else none

/-- Fill and alignment at the front of a layout, and the rest. -/
def readAlignment : List Char → Option Char × Option Alignment × List Char
  | [] => (none, none, [])
  | [c] =>
    match alignmentOf? c with
    | some a => (none, some a, [])
    | none => (none, none, [c])
  | c :: d :: rest =>
    match alignmentOf? d, alignmentOf? c with
    | some a, _ => (some c, some a, rest)
    | none, some a => (none, some a, d :: rest)
    | none, none => (none, none, c :: d :: rest)

/-- One of the given characters at the front, and the rest. -/
def readOneOf (choices : List Char) : List Char → Option Char × List Char
  | [] => (none, [])
  | c :: rest => if choices.contains c then (some c, rest) else (none, c :: rest)

/-- The largest number that a layout or a position may name. -/
def largestNumber : Nat := Nat.pow 2 63 - 1

/-- The value of the digits at the front, in any script, and the rest.  `value` is the number read
so far, absent before the first digit. -/
def readNumber (value : Option Nat) :
    List Char → Except TemplateError (Option Nat × List Char)
  | [] => .ok (value, [])
  | c :: rest =>
    match Text.digitValue? c with
    | none => .ok (value, c :: rest)
    | some d =>
      let next := (value.getD 0) * 10 + d
      if largestNumber < next then .error .tooManyDigits else readNumber (some next) rest

/-- The digit grouping at the front, and the rest. -/
def readGrouping (chars : List Char) : Except TemplateError (Grouping × List Char) :=
  match chars with
  | ',' :: '_' :: _ => .error .bothSeparators
  | '_' :: ',' :: _ => .error .bothSeparators
  | ',' :: rest => .ok (.comma, rest)
  | '_' :: rest => .ok (.underscore, rest)
  | rest => .ok (.none, rest)

/-- The precision at the front, and the rest. -/
def readPrecision : List Char → Except TemplateError (Option Nat × List Char)
  | '.' :: rest => do
    let (value, rest) ← readNumber none rest
    match value with
    | none => .error .precisionMissing
    | some _ => .ok (value, rest)
  | rest => .ok (none, rest)

/-- The kinds that digit grouping goes with, and those that only underscores go with. -/
def groupedKinds : List Char := ['d', 'e', 'f', 'g', 'E', 'G', '%', 'F']
def radixKinds : List Char := ['b', 'o', 'x', 'X']

/-- Checks that a grouping goes with a kind. -/
def checkGrouping (grouping : Grouping) (kind : Option Char) : Except TemplateError Unit :=
  match kind, grouping with
  | none, _ => .ok ()
  | some _, .none => .ok ()
  | some k, .comma => if groupedKinds.contains k then .ok () else .error (.separatorRefused ',' k)
  | some k, .underscore =>
    if groupedKinds.contains k || radixKinds.contains k then .ok ()
    else .error (.separatorRefused '_' k)

/-- Reads a layout for a value of the type named `type`. -/
def read (type : String) (defaultKind : Option Char) (defaultAlignment : Alignment)
    (chars : List Char) : Except TemplateError Layout := do
  let (fill, alignment, rest) := readAlignment chars
  let (sign, rest) := readOneOf [' ', '+', '-'] rest
  let (zeroMark, rest) := readOneOf ['z'] rest
  let (alternateMark, rest) := readOneOf ['#'] rest
  let (zeroFill, rest) := if fill.isNone then readOneOf ['0'] rest else (none, rest)
  let alignment :=
    match alignment with
    | some a => a
    | none =>
      if zeroFill.isSome ∧ defaultAlignment = .right then .inner else defaultAlignment
  let (width, rest) ← readNumber none rest
  let (grouping, rest) ← readGrouping rest
  let (precision, rest) ← readPrecision rest
  let kind ← match rest with
    | [] => .ok defaultKind
    | [c] => .ok (some c)
    | _ => .error (.malformedLayout (String.ofList chars) type)
  checkGrouping grouping kind
  return ⟨(fill.orElse fun _ => zeroFill).getD ' ', alignment, sign, zeroMark.isSome,
    alternateMark.isSome, width, grouping, precision, kind⟩

end Layout

end ChatCommands.Template
