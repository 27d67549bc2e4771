import ChatCommands.Template.Layout
import ChatCommands.Value.Part

/-!
# Setting values in layouts

A text is cut to the precision and padded on the right unless the layout says otherwise.  A number
is a sign, a mark of its radix, digits in groups and a tail, and is padded on the left; padding
with zeros after the sign widens the groups.  Values of other kinds have no layout, and no field
is wider than a bound.

Integers are written with all their digits, however many: the limit on the digits of written
integers that `Permission.missing` meets is set aside here.

## Main definitions

* `Template.groups` : digits in groups, filled up with zeros.
* `Template.setText`, `Template.setNumber` : texts and numbers in a layout.
* `Template.setValue`, `Template.set` : any value, and any part, in a layout.
-/

namespace ChatCommands.Template

/-- Padding on the left and on the right of a field that lacks `missing` characters. -/
def padding (alignment : Alignment) (missing : Nat) : Nat × Nat :=
  match alignment with
  | .left => (0, missing)
  | .centre => (missing / 2, missing - missing / 2)
  | .right | .inner => (missing, 0)

/-- The width of the widest field that is filled up; one that is wider has no room in memory. -/
def widest : Nat := Nat.pow 2 32

/-- The width that a layout asks for, unless it is beyond the widest. -/
def widthOf (l : Layout) : Except TemplateError Nat :=
  let width := l.width.getD 0
  if widest < width then .error .tooWide else .ok width

/-- A text in a layout. -/
def setText (l : Layout) (s : List Char) : Except TemplateError (List Char) :=
  if l.sign = some ' ' then .error .spaceInText
  else if l.sign.isSome then .error .signInText
  else if l.coercesZero then .error .zeroCoercionInText
  else if l.isAlternate then .error .alternateInText
  else if l.alignment = .inner then .error .innerPaddingInText
  else do
    let width ← widthOf l
    let cut := match l.precision with
      | some n => s.take n
      | none => s
    let (before, after) := padding l.alignment (width - cut.length)
    return List.replicate before l.fill ++ cut ++ List.replicate after l.fill

/-- Digits in groups of `size + 1` from the right, filled up with zeros to at least `least`
characters.  Both the digits and the result are in reverse. -/
def groups (separator : Char) (size : Nat) (digits : List Char) (least : Nat) : List Char :=
  let count := min (size + 1) (max (max digits.length least) 1)
  let group := digits.take count ++ List.replicate (count - digits.length) '0'
  if digits.length ≤ count ∧ least ≤ count then group
  else group ++ separator :: groups separator size (digits.drop count) (least - count - 1)
termination_by digits.length + least
decreasing_by
  simp only [List.length_drop]
  omega

/-- Digits as the layout groups them; no digits stay no digits. -/
def grouped (separator : Option (Char × Nat)) (digits : List Char) (least : Nat) : List Char :=
  if digits.isEmpty then []
  else
    match separator with
    | some (mark, size) => (groups mark size digits.reverse least).reverse
    | none => List.replicate (least - digits.length) '0' ++ digits

/-- The separator of a layout and the size of its groups, less one: four digits in a radix that is
a power of two, else three. -/
def separatorOf (l : Layout) : Option (Char × Nat) :=
  match l.grouping with
  | .none => none
  | .comma => some (',', 2)
  | .underscore =>
    if (l.kind.map Layout.radixKinds.contains).getD false then some ('_', 3) else some ('_', 2)

/-- The sign that a layout shows. -/
def signText (l : Layout) (isNegative : Bool) : List Char :=
  if isNegative then ['-']
  else
    match l.sign with
    | some '+' => ['+']
    | some ' ' => [' ']
    | _ => []

/-- A number in a layout: its sign, the mark of its radix, its digits and its tail. -/
def setNumber (l : Layout) (isNegative : Bool) (mark digits tail : List Char) :
    Except TemplateError (List Char) := do
  let width ← widthOf l
  let head := signText l isNegative ++ mark
  let least := if l.fill = '0' ∧ l.alignment = .inner then width - head.length - tail.length else 0
  let body := grouped (separatorOf l) digits least
  let missing := width - (head.length + body.length + tail.length)
  if l.alignment = .inner then return head ++ List.replicate missing l.fill ++ body ++ tail
  else
    let (before, after) := padding l.alignment missing
    return List.replicate before l.fill ++ head ++ body ++ tail ++ List.replicate after l.fill

/-- An integer as the character it is the code of. -/
def setCharacter (l : Layout) (n : Int) : Except TemplateError (List Char) :=
  if l.sign.isSome then .error .signInCharacter
  else if l.isAlternate then .error .alternateInCharacter
  else if n < -(Nat.pow 2 63) ∨ Nat.pow 2 63 ≤ n then .error .characterSize
  else if n < 0 ∨ 0x10ffff < n then .error .characterRange
  else setNumber l false [] [] [Text.character n.toNat]

/-- The digits of a natural number in the radix of a kind, and the mark of the radix. -/
def radixDigits (kind : Char) (n : Nat) : List Char × List Char :=
  if kind = 'b' then (Nat.toDigits 2 n, ['0', 'b'])
  else if kind = 'o' then (Nat.toDigits 8 n, ['0', 'o'])
  else if kind = 'x' then (Nat.toDigits 16 n, ['0', 'x'])
  else if kind = 'X' then ((Nat.toDigits 16 n).map Char.toUpper, ['0', 'X'])
  else (Nat.toDigits 10 n, [])

/-- An integer in a layout of one of its own kinds. -/
def setInteger (l : Layout) (kind : Char) (n : Int) : Except TemplateError (List Char) :=
  if l.precision.isSome then .error .precisionInInteger
  else if l.coercesZero then .error .zeroCoercionInInteger
  else if kind = 'c' then setCharacter l n
  else
    let (digits, mark) := radixDigits kind n.natAbs
    setNumber l (decide (n < 0)) (if l.isAlternate then mark else []) digits []

/-- The digits of a finite magnitude in a kind of numeral. -/
def numeral (l : Layout) (rank : Nat) : Numeral :=
  let (num, den) := Binary64.ratio rank
  let places := l.precision.getD 6
  let style (fractionDigit : Bool) (mark : Char) : Numeral.Style :=
    ⟨l.isAlternate, fractionDigit, mark⟩
  match l.kind, l.precision with
  | none, none => Numeral.shortest (style true 'e') rank
  | none, some n => Numeral.general (style true 'e') num den (max n 1)
  | some kind, _ =>
    if kind = 'e' ∨ kind = 'E' then Numeral.scientific (style false kind) num den places
    else if kind = 'f' ∨ kind = 'F' ∨ kind = '%' then Numeral.fixed l.isAlternate num den places
    else Numeral.general (style false (if kind = 'G' then 'E' else 'e')) num den (max places 1)

/-- Whether the digits in front of an exponent are all zero. -/
def showsZero (n : Numeral) : Bool :=
  n.whole.all (fun c => c = '0') &&
    (n.tail.takeWhile fun c => c ≠ 'e' ∧ c ≠ 'E').all fun c => c = '0'

/-- A binary64 number in a layout. -/
def setFloat (l : Layout) (x : Binary64) : Except TemplateError (List Char) :=
  let percent := decide (l.kind = some '%')
  let ending : List Char := if percent then ['%'] else []
  let capital := ['E', 'F', 'G'].contains (l.kind.getD 'e')
  match if percent then x.scaleBy 100 else x with
  | .nan _ =>
    let word := if capital then ['N', 'A', 'N'] else ['n', 'a', 'n']
    setNumber l false [] [] (word ++ ending)
  | .number isNegative rank =>
    if rank < Binary64.infinityRank then
      let n := numeral l rank
      let keepsSign := isNegative && !(l.coercesZero && showsZero n)
      setNumber l keepsSign [] n.whole ((if n.hasPoint then '.' :: n.tail else n.tail) ++ ending)
    else
      setNumber l isNegative [] []
        ((if capital then ['I', 'N', 'F'] else ['i', 'n', 'f']) ++ ending)

/-- The kinds of integers and of binary64 numbers. -/
def integerKinds : List Char := ['b', 'c', 'd', 'o', 'x', 'X', 'n']
def floatKinds : List Char := ['e', 'E', 'f', 'F', 'g', 'G', '%', 'n']

/-- The largest precision of a number. -/
def largestPrecision : Nat := Nat.pow 2 31 - 1

def setFloatChecked (l : Layout) (x : Binary64) : Except TemplateError (List Char) :=
  if largestPrecision < l.precision.getD 0 then .error .precisionSize else setFloat l x

/-- An integer of the type named `type` in a layout of any kind of number. -/
def setAnyInteger (type : String) (l : Layout) (n : Int) : Except TemplateError (List Char) :=
  let kind := l.kind.getD 'd'
  if integerKinds.contains kind then setInteger l kind n
  else if floatKinds.contains kind then
    let x := Binary64.ofInt n
    if x.isFinite then setFloatChecked l x else .error .integerSize
  else .error (.unknownKind kind type)

/-- A value in a layout that is not empty. -/
def setValue (v : Value) (layout : List Char) : Except TemplateError (List Char) :=
  match v, v.integer? with
  | .text s, _ => do
    let l ← Layout.read v.typeName (some 's') .left layout
    if l.kind = some 's' then setText l s.toList
    else .error (.unknownKind (l.kind.getD 's') v.typeName)
  | .float x, _ => do
    let l ← Layout.read v.typeName none .right layout
    match l.kind with
    | none => setFloatChecked l x
    | some kind =>
      if floatKinds.contains kind then setFloatChecked l x
      else .error (.unknownKind kind v.typeName)
  | _, some n => do
    let l ← Layout.read v.typeName (some 'd') .right layout
    setAnyInteger v.typeName l n
  | _, none => .error (.layoutRefused v.typeName)

/-- A part in a layout.  The empty layout sets the plain text of any part, and no other one suits
a part that is no value. -/
def set (p : Part) (layout : List Char) : Except TemplateError (List Char) :=
  if layout.isEmpty then .ok p.plain.toList
  else
    match p with
    | .value v => setValue v layout
    | p => .error (.layoutRefused p.typeName)

end ChatCommands.Template
