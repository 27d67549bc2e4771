import ChatCommands.Text.CaseTable

/-!
# Letter case of texts

Upper, lower and title case by the full mappings, in which one character may become several.  A
capital sigma becomes the final small sigma at the end of a word, which is decided by the cased
characters around it, looking through characters that casing ignores.  Title case capitalises
every cased character that does not follow a cased character, so that an apostrophe starts a new
word.

## Main definitions

* `Text.upper`, `Text.lower`, `Text.title` : the mappings on texts.
-/

namespace ChatCommands.Text

/-- The image of a character under a mapping given by runs and by a list of longer images. -/
def mapChar (runs : List CaseRun) (many : List (Nat × List Nat)) (c : Char) : Option (List Char) :=
  match many.lookup c.toNat with
  | some codes => some (codes.map Char.ofNat)
  | none => (runs.findSome? fun r => r.apply c.toNat).map fun code => [Char.ofNat code]

def upperChar (c : Char) : List Char :=
  if c.toNat < 0x80 then [c.toUpper] else (mapChar upperRuns upperMany c).getD [c]

/-- Lower case of one character out of context. -/
def lowerChar (c : Char) : List Char :=
  if c.toNat < 0x80 then [c.toLower] else (mapChar lowerRuns lowerMany c).getD [c]

def titleChar (c : Char) : List Char :=
  if c.toNat < 0x80 then [c.toUpper] else (mapChar titleRuns titleMany c).getD (upperChar c)

def isCased (c : Char) : Bool :=
  if c.toNat < 0x80 then c.isAlpha else inRanges cased c.toNat

def isCaseIgnorable (c : Char) : Bool :=
  inRanges caseIgnorable c.toNat

/-- Whether the nearest character that casing does not ignore is cased. -/
def nextIsCased (context : List Char) : Bool :=
  match context.dropWhile isCaseIgnorable with
  | [] => false
  | c :: _ => isCased c

/-- Lower case of a character between the characters before it, in reverse, and those after. -/
def lowerInContext (before : List Char) (c : Char) (after : List Char) : List Char :=
  if c.toNat = 0x3a3 then
    if nextIsCased before && !nextIsCased after then [Char.ofNat 0x3c2] else [Char.ofNat 0x3c3]
  else lowerChar c

/-- Lower case of the remaining characters, given those before them in reverse. -/
def lowerFrom (before : List Char) : List Char → List Char
  | [] => []
  | c :: rest => lowerInContext before c rest ++ lowerFrom (c :: before) rest

/-- Title case of the remaining characters, given those before them in reverse. -/
def titleFrom (before : List Char) : List Char → List Char
  | [] => []
  | c :: rest =>
    let afterCased := match before with
      | [] => false
      | b :: _ => isCased b
    let mapped := if afterCased then lowerInContext before c rest else titleChar c
    mapped ++ titleFrom (c :: before) rest

def upper (s : String) : String :=
  String.ofList (s.toList.flatMap upperChar)

def lower (s : String) : String :=
  String.ofList (lowerFrom [] s.toList)

def title (s : String) : String :=
  String.ofList (titleFrom [] s.toList)

end ChatCommands.Text
