/-!
# Styled text

Text for the operators' console: characters, a style of the whole and styled spans.  Control
characters that would move the cursor are dropped when a text is made.

## Main definitions

* `StyledText` : a plain text with its style and its spans.
* `StyledText.ofString` : a text in one style.
* `StyledText.characters` : the characters as texts of their own.
* `StyledText.append`, `StyledText.assemble` : concatenation; the style of a part becomes a span.
-/

namespace ChatCommands

/-- A style on the characters from `start` up to `stop`. -/
structure Span where
  start : Nat
  stop : Nat
  style : String
deriving DecidableEq

/-- A text with a style of its own and styled spans. -/
structure StyledText where
  plain : String
  style : String
  spans : List Span
deriving DecidableEq

namespace StyledText

/-- The control characters that no styled text holds: bell, backspace, vertical tab, form feed and
carriage return. -/
def droppedControls : List Nat :=
  [7, 8, 11, 12, 13]

/-- A text in one style. -/
def ofString (s : String) (style : String) : StyledText :=
  ⟨String.ofList (s.toList.filter fun c => !droppedControls.contains c.toNat), style, []⟩

def length (t : StyledText) : Nat :=
  t.plain.length

def Span.moved (offset : Nat) (s : Span) : Span :=
  ⟨s.start + offset, s.stop + offset, s.style⟩

/-- The text `t` followed by `part`.  The style of a part becomes a span in front of the spans of
the part itself; an empty part adds nothing. -/
def append (t part : StyledText) : StyledText :=
  if part.plain.isEmpty then t
  else
    let own := if part.style.isEmpty then [] else [⟨t.length, t.length + part.length, part.style⟩]
    ⟨t.plain ++ part.plain, t.style, t.spans ++ own ++ part.spans.map (Span.moved t.length)⟩

/-- The characters as texts of their own, each with the styles that cover it. -/
def characters (t : StyledText) : List StyledText :=
  t.plain.toList.zipIdx.map fun (c, position) =>
    let covering :=
      t.spans.filter fun s => decide (s.start ≤ position) && decide (position < s.stop)
    ⟨String.singleton c, "", covering.map fun s => ⟨0, 1, s.style⟩⟩

/-- The parts one after another, in no style of its own. -/
def assemble (parts : List StyledText) : StyledText :=
  parts.foldl append ⟨"", "", []⟩

end StyledText

end ChatCommands
