import ChatCommands.Document.Reader
import ChatCommands.Locale.Basic

/-!
# Where locales come from

A locale is built from given data, from the English texts when no data is given, or from a file.
A file only needs to hold what it changes when it is merged into the English texts.

## Main definitions

* `Locale.defaults` : the English texts.
* `Locale.ofValue` : a locale from data.
* `Locale.ofFile`, `Locale.ofFileText` : a locale from the bytes or from the text of a file.
* `Locale.load` : a locale from the file at a path.
-/

namespace ChatCommands.Locale

/-- A frozen map of texts. -/
def texts (entries : List (String × String)) : Value :=
  .map true (entries.map fun e => (e.1, .text e.2))

/-- The English texts. -/
def defaults : Value :=
  .map true
    [("common", .map true
      [("list_separator", .text ", "),
        ("no_guild_permissions",
          .text "You are missing the following server permissions: \x7b0\x7d"),
        ("no_channel_permissions",
          .text "You are missing the following permissions in #\x7b1\x7d: \x7b0\x7d"),
        ("no_subcommand", .text "No matching subcommand was found."),
        ("missing_argument", .text "Argument \x7b0\x7d at position \x7b1\x7d is required."),
        ("invalid_argument_type",
          .text "Argument \x7b0\x7d at position \x7b1\x7d must be one of: \x7b2\x7d"),
        ("permissions", texts (Permission.keys.map fun k => (k, Permission.englishName k))),
        ("argument_types", texts
          [("string", "text"), ("number", "number"), ("boolean", "true/false"),
            ("channel", "channel"), ("user", "user"), ("role", "role")])]),
      ("commands", .map true [])]

/-- The locale of the English texts. -/
def english : Locale :=
  ⟨defaults, []⟩

/-- A locale from data, from the English texts when the data is `unset`. -/
def ofValue (data : Value) : Except Error Locale :=
  match data.orElse defaults with
  | .map isFrozen entries => .ok ⟨.map isFrozen entries, []⟩
  | _ => .error (.refusal .localeNotMap)

/-- A locale from the content of a file. -/
def ofFile (path : String) (merges : Bool) (content : List UInt8) : Except Error Locale := do
  let data ← (Document.ofBytes content).mapError .document
  match data with
  | .map _ _ => ofValue (if merges then defaults.merge data else data)
  | _ => .error (.refusal (.localeFileNotMap path))

/-- A locale from the text of a file. -/
def ofFileText (path : String) (merges : Bool) (content : String) : Except Error Locale := do
  let bytes ← (Document.Octets.ofText content.toList).mapError .document
  ofFile path merges bytes

/-! ### Files -/

/-- The slashes that a path starts with: two stand for themselves, any other number for one. -/
def rootMark (path : List Char) : String :=
  match (path.takeWhile fun c => c = '/').length with
  | 0 => ""
  | 2 => "//"
  | _ => "/"

/-- A path without empty and idle steps. -/
def plainPath (path : String) : String :=
  let steps := (Text.splitAt '/' path).filter fun s => s ≠ "" ∧ s ≠ "."
  let whole := rootMark path.toList ++ String.intercalate "/" steps
  if whole.isEmpty then "." else whole

/-- A locale from the file at a path; `files` is what the host finds at plain paths, the content of
a file or why there is none. -/
def load (files : String → Except DocumentError (List UInt8)) (path : String) (merges : Bool) :
    Except Error Locale := do
  let _ ← (Document.Octets.ofText path.toList).mapError .document
  if path.toList.contains '\x00' then .error (.document .nullInPath)
  else
    let content ← (files (plainPath path)).mapError .document
    ofFile path merges content

end ChatCommands.Locale
