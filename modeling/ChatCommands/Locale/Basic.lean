import ChatCommands.Run
import ChatCommands.Template.Format
import ChatCommands.Text.Blank

/-!
# Locales

A locale is a view of localized texts: a nested map, and the position in it from which keys are
read.  Keys, the keys of the common section and the paths of sections are dotted.  The common
section and sections by path are always read from the root; only plain keys and the sections of
commands depend on the position.

Every question comes in two forms.  The one ending in `?` says whether the data has the answer;
the other falls back, to the dotted path for a text and to an empty view for a section, and logs
a warning.

## Main definitions

* `Locale` : a view.
* `Locale.lookup` : the value at a path of the data.
* `Locale.get`, `Locale.common`, `Locale.sublocale`, `Locale.commandLocale` : the four questions.
* `Locale.format`, `Locale.formatCommon` : localized templates, filled in.
-/

namespace ChatCommands

/-- A view of localized texts: the data and the position of the view in it. -/
structure Locale where
  data : Value
  path : List String

namespace Locale

/-- The value at a path. -/
def lookup : List String → Value → Option Value
  | [], v => some v
  | segment :: rest, v => (v.entry? segment).bind (lookup rest)

/-- The position of the view as a dotted path. -/
def pathText (l : Locale) : String :=
  Text.dot l.path

/-- The text at a path of the data. -/
def textAt? (l : Locale) (path : List String) : Option String :=
  match lookup path l.data with
  | some (.text s) => some s
  | _ => none

/-- The view at a path of the data, if there is a section. -/
def viewAt? (l : Locale) (path : List String) : Option Locale :=
  match lookup path l.data with
  | some (.map _ _) => some ⟨l.data, path⟩
  | _ => none

/-- Logs that something is missing at a path. -/
def warnMissing (what : String) (path : List String) : Run Unit :=
  Run.log .warning .locales ("missing locale " ++ what ++ " " ++ Text.quote (Text.dot path))

/-- The text at a path, or the dotted path itself. -/
def textAt (l : Locale) (path : List String) : Run String :=
  match l.textAt? path with
  | some s => return s
  | none => do
    warnMissing "string" path
    return Text.dot path

/-- The view at a path, an empty one when there is no section. -/
def viewAt (l : Locale) (path : List String) : Run Locale :=
  match l.viewAt? path with
  | some v => return v
  | none => do
    warnMissing "section" path
    return ⟨l.data, path⟩

/-! ### The four questions -/

/-- The path of a key of the view. -/
def keyPath (l : Locale) (key : String) : List String :=
  l.path ++ Text.dotted key

/-- The path of a key of the common section. -/
def commonPath (key : String) : List String :=
  "common" :: Text.dotted key

/-- The path of the sections of commands: the commands at the root, and the subcommands below
it. -/
def sectionsPath (l : Locale) : List String :=
  if l.path.isEmpty then ["commands"] else l.path ++ ["subcommands"]

/-- The path of the section of a command. -/
def commandPath (l : Locale) (name : String) : List String :=
  l.sectionsPath ++ [name]

def get? (l : Locale) (key : String) : Option String :=
  l.textAt? (l.keyPath key)

/-- The text of a key of the view. -/
def get (l : Locale) (key : String) : Run String :=
  l.textAt (l.keyPath key)

def common? (l : Locale) (key : String) : Option String :=
  l.textAt? (commonPath key)

/-- The text of a key of the common section. -/
def common (l : Locale) (key : String) : Run String :=
  l.textAt (commonPath key)

def sublocale? (l : Locale) (path : String) : Option Locale :=
  l.viewAt? (Text.dotted path)

/-- The section at a path from the root. -/
def sublocale (l : Locale) (path : String) : Run Locale :=
  l.viewAt (Text.dotted path)

def commandLocale? (l : Locale) (name : String) : Option Locale :=
  l.viewAt? (l.commandPath name)

/-- The section of a command. -/
def commandLocale (l : Locale) (name : String) : Run Locale :=
  l.viewAt (l.commandPath name)

/-- The section of a command whose name may be of any kind.  Only texts name sections; a name
that cannot be a key is refused as soon as it would be looked up. -/
def sectionOf? (l : Locale) (name : Value) : Except Misuse (Option Locale) :=
  match name with
  | .text s => .ok (l.commandLocale? s)
  | v =>
    match l.viewAt? l.sectionsPath with
    | some _ => v.hashable.map fun _ => none
    | none => .ok none

/-! ### Templates -/

/-- A template with its fields filled in. -/
def filled (template : String) (args : List Value) : Run String :=
  Run.ofExcept ((Template.format template args).mapError .template)

/-- The template of a key of the view, filled in. -/
def format (l : Locale) (key : String) (args : List Value) : Run String := do
  let template ← l.get key
  filled template args

/-- The template of a key of the common section, filled in. -/
def formatCommon (l : Locale) (key : String) (args : List Value) : Run String := do
  let template ← l.common key
  filled template args

/-- How a view is shown. -/
def display (l : Locale) : String :=
  Value.recordLiteral "locale" [("path", Text.quote l.pathText)]

end Locale

end ChatCommands
