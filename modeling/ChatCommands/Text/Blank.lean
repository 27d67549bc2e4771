/-!
# Blanks and words

A message is cut into words at blanks: the ASCII controls from tab to carriage return and from
the file separator to the unit separator, the space, the next-line control and the separators of
Unicode.  Zero-width characters are not blanks.

## Main definitions

* `Text.isBlank` : the blank characters.
* `Text.words` : the maximal runs of characters that are not blank.
* `Text.trim` : the text without the blanks at either end.
-/

namespace ChatCommands.Text

/-- The blanks above ASCII. -/
def wideBlanks : List Nat :=
  [0x85, 0xa0, 0x1680, 0x2000, 0x2001, 0x2002, 0x2003, 0x2004, 0x2005, 0x2006, 0x2007, 0x2008,
    0x2009, 0x200a, 0x2028, 0x2029, 0x202f, 0x205f, 0x3000]

/-- Whether a character separates words. -/
def isBlank (c : Char) : Bool :=
  let code := c.toNat
  (decide (0x09 ≤ code) && decide (code ≤ 0x0d)) || (decide (0x1c ≤ code) && decide (code ≤ 0x20))
    || wideBlanks.contains code

/-- Splits characters into words, `word` holding the characters of the open word in reverse. -/
def wordsFrom (word : List Char) : List Char → List (List Char)
  | [] => if word.isEmpty then [] else [word.reverse]
  | c :: rest =>
    if isBlank c then
      if word.isEmpty then wordsFrom [] rest else word.reverse :: wordsFrom [] rest
    else wordsFrom (c :: word) rest

/-- The words of a text, in order. -/
def words (s : String) : List String :=
  (wordsFrom [] s.toList).map String.ofList

/-- A text without the blanks at its ends. -/
def trim (s : String) : String :=
  String.ofList ((s.toList.dropWhile isBlank).reverse.dropWhile isBlank).reverse

/-- Splits characters at every `mark`, keeping empty pieces. -/
def splitFrom (mark : Char) (piece : List Char) : List Char → List (List Char)
  | [] => [piece.reverse]
  | c :: rest =>
    if c = mark then piece.reverse :: splitFrom mark [] rest else splitFrom mark (c :: piece) rest

/-- The pieces of a text between the marks; a text without a mark is one piece. -/
def splitAt (mark : Char) (s : String) : List String :=
  (splitFrom mark [] s.toList).map String.ofList

/-- The pieces of a dotted name. -/
def dotted (s : String) : List String :=
  splitAt '.' s

/-- A dotted name from its pieces. -/
def dot (pieces : List String) : String :=
  String.intercalate "." pieces

end ChatCommands.Text
