import ChatCommands.Locale.Basic

/-!
# Listings

Keys are shown to users by their localized names, one after another with the separator of the
locale between them.  A key without a localized name, or with an empty one, is shown as it is.

## Main definitions

* `joined`, `joinedBy` : written items with a separator.
* `Locale.keyName` : the name of a key.
* `Locale.listing`, `Locale.listingAt` : the names of some keys.
-/

namespace ChatCommands

/-- The items of a value, each written by `mapper`, with a separator between them. -/
def joined (items : Value) (separator : String) (mapper : Value → Except Misuse String) :
    Except Misuse String := do
  let items ← items.items
  let texts ← items.mapM mapper
  return String.intercalate separator texts

/-- Written items that cannot be joined: only when there is none is there a result. -/
def unjoinable (items : Value) (mapper : Value → Except Misuse String) (failure : Misuse)
    (nothing : Value) : Except Misuse Value := do
  let items ← items.items
  let texts ← items.mapM mapper
  if texts.isEmpty then return nothing else .error failure

/-- The written items of a value with a separator of any kind between them.  Bytes stand only
between bytes, and styled text only between styled texts. -/
def joinedBy (items separator : Value) (mapper : Value → Except Misuse String) :
    Except Misuse Value :=
  match separator with
  | .text s => (joined items s mapper).map .text
  | .bytes _ => unjoinable items mapper .textAmongBytes (.bytes [])
  | .styled _ => unjoinable items mapper (.noAttribute "str" "_text") (.styled ⟨"", "", []⟩)
  | v => .error (.noAttribute v.typeName "join")

namespace Locale

/-- The text of a key.  Bytes are not cut at a text, the pieces of a styled text cannot be looked
up, and other values are not cut at all. -/
def textKey (key : Value) : Except Misuse String :=
  match key with
  | .text s => .ok s
  | .bytes _ => .error .separatorForBytes
  | .styled t => .error (.unhashable (Value.styled t).typeName)
  | v => .error (.noAttribute v.typeName "split")

/-- The name of a key in a section: the key itself when the section or the name is missing. -/
def keyName (names : Option Locale) (key : Value) : Except Misuse String :=
  match names with
  | none => .ok key.plain
  | some names =>
    match textKey key with
    | .error e => .error e
    | .ok s =>
      match names.get? s with
      | some name => .ok (if name.isEmpty then s else name)
      | none => .ok s

/-- The names of keys in the section at a path, with the separator of the locale. -/
def listing (l : Locale) (keys : Value) (path : String) : Run String := do
  let names := l.sublocale? path
  let separator ← l.common "list_separator"
  Run.ofExcept (Value.checked (joined keys separator (keyName names)))

/-- The names of keys in the section at a path of any kind. -/
def listingAt (l : Locale) (keys path : Value) : Run String := do
  let path ← Run.ofExcept (Value.checked (textKey path))
  l.listing keys path

end Locale

end ChatCommands
