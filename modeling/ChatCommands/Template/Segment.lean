import ChatCommands.Template.Error

/-!
# Segments of a template

A template is text with fields in curly brackets; a doubled bracket stands for itself.  A field is
a name, after `!` a conversion, and after `:` a layout, in which further fields may be nested.
Square brackets in a name hide everything but their closing bracket.

Reading goes character by character and never back.  A badly written template yields the segments
in front of the mistake and then the mistake, so that failures of earlier fields come first.

## Main definitions

* `Template.Segment` : a character, a field, or the mistake that ends the template.
* `Template.segments` : the segments of a template.
-/

namespace ChatCommands.Template

/-- A field: its name, its conversion and its layout, and whether the layout has nested fields. -/
structure Field where
  name : List Char
  conversion : Option Char
  layout : List Char
  isNested : Bool
deriving DecidableEq

/-- A character that stands for itself, a field, or the mistake at which reading stops. -/
inductive Segment
  | character (c : Char)
  | field (f : Field)
  | mistake (e : TemplateError)
deriving DecidableEq

/-- Where the reader is.  Lists of characters read so far are in reverse. -/
inductive Place
  | text
  | opened
  | closed
  | name (read : List Char)
  | item (read : List Char)
  | conversion (name : List Char)
  | converted (name : List Char) (conversion : Char)
  | layout (name : List Char) (conversion : Option Char) (read : List Char) (depth : Nat)
      (isNested : Bool)

/-- The mistake of a template that ends at a place, if it may not end there. -/
def Place.atEnd : Place → Option TemplateError
  | .text => none
  | .opened => some .loneOpening
  | .closed => some .loneClosing
  | .name _ => some .unclosedField
  | .item _ => some .unclosedField
  | .conversion _ => some .conversionMissing
  | .converted _ _ => some .unclosedLayout
  | .layout _ _ _ _ _ => some .unclosedLayout

/-- A field whose name was read in reverse, without a layout. -/
def bareField (name : List Char) (conversion : Option Char) : Field :=
  ⟨name.reverse, conversion, [], false⟩

/-- What a character inside a name leads to: the field when the name ends it, a mistake, or the
place after the character. -/
def stepName (read : List Char) (c : Char) : Except TemplateError (Place ⊕ Field) :=
  if c = '\x7b' then .error .openingInName
  else if c = '[' then .ok (.inl (.item (c :: read)))
  else if c = '\x7d' then .ok (.inr (bareField read none))
  else if c = ':' then .ok (.inl (.layout read none [] 1 false))
  else if c = '!' then .ok (.inl (.conversion read))
  else .ok (.inl (.name (c :: read)))

/-- What a character inside a layout leads to. -/
def stepLayout (name : List Char) (conversion : Option Char) (read : List Char) (depth : Nat)
    (isNested : Bool) (c : Char) : Place ⊕ Field :=
  if c = '\x7b' then .inl (.layout name conversion (c :: read) (depth + 1) true)
  else if c = '\x7d' then
    if depth ≤ 1 then .inr ⟨name.reverse, conversion, read.reverse, isNested⟩
    else .inl (.layout name conversion (c :: read) (depth - 1) isNested)
  else .inl (.layout name conversion (c :: read) depth isNested)

/-- What a character inside a field leads to. -/
def stepField (place : Place) (c : Char) : Except TemplateError (Place ⊕ Field) :=
  match place with
  | .item read => .ok (.inl (if c = ']' then .name (c :: read) else .item (c :: read)))
  | .conversion name => .ok (.inl (.converted name c))
  | .converted name conversion =>
    if c = '\x7d' then .ok (.inr (bareField name (some conversion)))
    else if c = ':' then .ok (.inl (.layout name (some conversion) [] 1 false))
    else .error .layoutExpected
  | .layout name conversion read depth isNested =>
    .ok (stepLayout name conversion read depth isNested c)
  | .name read => stepName read c
  | .text | .opened | .closed => stepName [] c

/-- The segments of the rest of a template, read from a place. -/
def segmentsFrom : Place → List Char → List Segment
  | place, [] =>
    match place.atEnd with
    | some mistake => [.mistake mistake]
    | none => []
  | .text, c :: rest =>
    if c = '\x7b' then segmentsFrom .opened rest
    else if c = '\x7d' then segmentsFrom .closed rest
    else .character c :: segmentsFrom .text rest
  | .closed, c :: rest =>
    if c = '\x7d' then .character c :: segmentsFrom .text rest else [.mistake .loneClosing]
  | .opened, c :: rest =>
    if c = '\x7b' then .character c :: segmentsFrom .text rest
    else
      match stepName [] c with
      | .error mistake => [.mistake mistake]
      | .ok (.inl place) => segmentsFrom place rest
      | .ok (.inr f) => .field f :: segmentsFrom .text rest
  | place, c :: rest =>
    match stepField place c with
    | .error mistake => [.mistake mistake]
    | .ok (.inl place) => segmentsFrom place rest
    | .ok (.inr f) => .field f :: segmentsFrom .text rest

/-- The segments of a template. -/
def segments (template : List Char) : List Segment :=
  segmentsFrom .text template

end ChatCommands.Template
