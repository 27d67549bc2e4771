import ChatCommands.Template.Segment
import ChatCommands.Template.Setting

/-!
# Filling in templates

A field names an argument by position, or takes the next one when its name is empty; a template
does one or the other throughout.  After the position a name may lead into parts and items of the
argument.  The layout of a field may hold fields of its own, which are filled in first and may not
nest further.

## Main definitions

* `Template.Numbering` : how the fields of a template are numbered so far.
* `Template.argument` : the part that a name refers to.
* `Template.format` : a template with its fields filled in.
-/

namespace ChatCommands.Template

/-- How the fields of a template are numbered so far. -/
inductive Numbering
  | undecided
  | automatic (next : Nat)
  | manual
deriving DecidableEq

/-- The number that a name consists of. -/
def positionOf? (name : List Char) : Except TemplateError (Option Nat) := do
  let (value, rest) ← Layout.readNumber none name
  return if rest.isEmpty then value else none

/-- The argument at the head of a name, and the numbering afterwards. -/
def headArgument (args : List Value) (numbering : Numbering) (head : List Char) :
    Except TemplateError (Value × Numbering) := do
  let position ← positionOf? head
  let (position, numbering) ← match position, head.isEmpty, numbering with
    | _, true, .undecided => .ok (0, .automatic 1)
    | _, true, .automatic next => .ok (next, .automatic (next + 1))
    | _, true, .manual => .error .manualToAutomatic
    | some _, false, .automatic _ => .error .automaticToManual
    | some n, false, _ => .ok (n, Numbering.manual)
    | none, false, _ => .error (.noNamedArgument (String.ofList head))
  match args[position]? with
  | some v => return (v, numbering)
  | none => .error (.noArgument position)

/-- Lifts a failed access to a failure of the template. -/
def accessed {α : Type} (r : Except Misuse α) : Except TemplateError α :=
  r.mapError .misuse

/-- Follows an item in square brackets: the one under a number or a key. -/
def followItem (p : Part) (key : List Char) : Except TemplateError Part := do
  let position ← positionOf? key
  if key.isEmpty then .error .emptyPart
  else
    match position with
    | some n => accessed (p.itemAt n)
    | none => accessed (p.itemUnder (String.ofList key))

/-- Follows a named part. -/
def followPart (p : Part) (name : List Char) : Except TemplateError Part :=
  if name.isEmpty then .error .emptyPart else accessed (p.part (String.ofList name))

/-- Whether a character ends a part of a name. -/
def endsPart (c : Char) : Bool :=
  c = '.' || c = '['

/-- Follows the rest of a name through parts and items; `fuel` bounds the number of steps. -/
def follow : Nat → Part → List Char → Except TemplateError Part
  | 0, p, _ => .ok p
  | _ + 1, p, [] => .ok p
  | fuel + 1, p, '.' :: rest => do
    let q ← followPart p (rest.takeWhile fun c => !endsPart c)
    follow fuel q (rest.dropWhile fun c => !endsPart c)
  | fuel + 1, p, '[' :: rest =>
    match rest.dropWhile fun c => c ≠ ']' with
    | [] => .error .unclosedItem
    | _ :: after => do
      let q ← followItem p (rest.takeWhile fun c => c ≠ ']')
      follow fuel q after
  | _ + 1, _, _ :: _ => .error .textAfterItem

/-- The part that a name refers to, and the numbering afterwards. -/
def argument (args : List Value) (numbering : Numbering) (name : List Char) :
    Except TemplateError (Part × Numbering) := do
  let (v, numbering) ← headArgument args numbering (name.takeWhile fun c => !endsPart c)
  let p ← follow (name.length + 1) (.value v) (name.dropWhile fun c => !endsPart c)
  return (p, numbering)

/-- A part after a conversion: to its literal, its plain text or its literal in ASCII. -/
def convert (conversion : Option Char) (p : Part) : Except TemplateError Part :=
  match conversion with
  | none => .ok p
  | some 'r' => .ok (.value (.text p.literal))
  | some 's' => .ok (.value (.text p.plain))
  | some 'a' => .ok (.value (.text (Text.escapeWide p.literal)))
  | some c => .error (.unknownConversion c)

/-- What a piece of a template is filled in to, and the numbering after it. -/
structure Filled where
  written : List Char
  numbering : Numbering

/-- Fills in one segment; `inner` fills in the layouts of fields. -/
def fillSegment (args : List Value)
    (inner : Numbering → List Char → Except TemplateError Filled) (numbering : Numbering) :
    Segment → Except TemplateError Filled
  | .character c => .ok ⟨[c], numbering⟩
  | .mistake e => .error e
  | .field f => do
    let (p, numbering) ← argument args numbering f.name
    let q ← convert f.conversion p
    let layout ← if f.isNested then inner numbering f.layout else .ok ⟨f.layout, numbering⟩
    let text ← set q layout.written
    return ⟨text, layout.numbering⟩

/-- Fills in segments one after another. -/
def fillSegments (args : List Value)
    (inner : Numbering → List Char → Except TemplateError Filled) (numbering : Numbering) :
    List Segment → Except TemplateError Filled
  | [] => .ok ⟨[], numbering⟩
  | s :: rest => do
    let first ← fillSegment args inner numbering s
    let others ← fillSegments args inner first.numbering rest
    return ⟨first.written ++ others.written, others.numbering⟩

/-- Fills in a template whose fields may nest to a depth. -/
def fill (args : List Value) : Nat → Numbering → List Char → Except TemplateError Filled
  | 0, _, _ => .error .tooDeep
  | depth + 1, numbering, template =>
    fillSegments args (fill args depth) numbering (segments template)

/-- A template with its fields filled in.  Layouts may hold fields, the layouts of those may
not. -/
def format (template : String) (args : List Value) : Except TemplateError String := do
  let p ← fill args 2 .undecided template.toList
  return String.ofList p.written

end ChatCommands.Template
