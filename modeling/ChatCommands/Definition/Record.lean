import ChatCommands.Document.Octets
import ChatCommands.Error
import ChatCommands.Value.Entries

/-!
# Read-only records

Definitions are records of a named type.  The name of the type is shown in lower case with hyphens
between its words; its fields, the slots that hold them and a description of the type can be read,
and nothing can be set or deleted.

## Main definitions

* `RecordType` : a type of records.
* `RecordType.typeName` : the shown name.
* `Record` : a record with some of its fields filled.
* `Record.make` : a record, unless there can be no such type.
* `Record.get`, `Record.shown`, `Record.display` : what can be read.
-/

namespace ChatCommands

/-- A type of records: its name, its fields, and those it shows when they are not all. -/
structure RecordType where
  name : String
  fields : List String
  shownFields : Option (List String)

/-- A record: snapshots of the values of its fields. -/
structure Record where
  type : RecordType
  values : Entries

namespace RecordType

/-- Puts a hyphen in front of every capital of ASCII. -/
def hyphenated : List Char → List Char
  | [] => []
  | c :: rest => if c.isUpper then '-' :: c :: hyphenated rest else c :: hyphenated rest

/-- The shown name: words between hyphens, in lower case. -/
def typeName (t : RecordType) : String :=
  match t.name.toList with
  | [] => ""
  | c :: rest => Text.lower (String.ofList (c :: hyphenated rest))

end RecordType

namespace Record

/-- The names that no field can have. -/
def reservedFields : List String := ["__slots__", "__qualname__", "__classcell__"]

/-- Checks that there can be a type: its name is text without a null character, and no field has a
reserved name. -/
def checkType (type : RecordType) : Except Error Unit := do
  let _ ← (Document.Octets.ofText type.name.toList).mapError .document
  if type.name.toList.contains '\x00' then .error (.refusal .typeNameNull)
  else
    match reservedFields.find? fun name => type.fields.contains name with
    | some name => .error (.refusal (.reservedField name))
    | none => .ok ()

/-- Checks that the slot of a value is not taken by a field, which cannot be set. -/
def checkSlot (type : RecordType) (key : String) : Except Error Unit :=
  let slot := "_" ++ key
  if type.fields.contains slot then .error (.misuse (.noSetter slot type.name)) else .ok ()

/-- A record with snapshots of given values. -/
def make (type : RecordType) (values : Entries) : Except Error Record := do
  checkType type
  values.forM fun e => checkSlot type e.1
  return ⟨type, values.map fun e => (e.1, e.2.frozen)⟩

/-- The slots that hold the values. -/
def slots (r : Record) : Entries :=
  Value.slots r.values

/-- What can be read of a record besides its fields and its slots. -/
def description (r : Record) : Entries :=
  let shown := match r.type.shownFields with
    | some shown => Value.names shown
    | none => .unset
  [("__typename__", .text r.type.typeName), ("__introspectable__", Value.names r.type.fields),
    ("__displayable__", shown), ("__module__", .text TypeName.unset.moduleName),
    ("__dict__", .map false r.slots), ("__doc__", .null), ("__weakref__", .null)]

/-- What is read under a name.  A field reads the slot named after it, which may be a field again;
`steps` bounds how often. -/
def read (r : Record) : Nat → String → Except Misuse Value
  | 0, name => .error (.noAttribute r.type.name name)
  | steps + 1, name =>
    if r.type.fields.contains name then r.read steps ("_" ++ name)
    else
      match (r.slots ++ r.description).lookup name with
      | some v => .ok v
      | none => .error (.noAttribute r.type.name name)

/-- The value of a field, or whatever else is read under a name. -/
def get (r : Record) (name : String) : Except Misuse Value :=
  r.read (r.type.fields.length + 1) name

/-- The names that a record shows.  A field that is named like one of the two lists of names hides
it. -/
def shownNames (r : Record) : Except Misuse (List String) :=
  let hidden (name : String) : Bool := r.type.fields.contains name
  let isHidden :=
    hidden "__displayable__" || (r.type.shownFields.isNone && hidden "__introspectable__")
  if isHidden then .error (.notIterable "property")
  else .ok (r.type.shownFields.getD r.type.fields)

/-- The fields that a record shows, with their values. -/
def shown (r : Record) : Except Misuse (List (String × Value)) := do
  let names ← r.shownNames
  names.mapM fun field => do
    let v ← r.get field
    return (field, v)

/-- How a record is shown. -/
def display (r : Record) : Except Misuse String := do
  let fields ← r.shown
  return Value.recordLiteral r.type.typeName (fields.map fun f => (f.1, f.2.literal))

/-- Setting or deleting a field is refused. -/
def change (r : Record) : Except Refusal Unit :=
  .error (.readOnly r.type.typeName)

end Record

/-- The name that a field is read by, which must be a text. -/
def fieldName (name : Value) : Except Refusal String :=
  match name with
  | .text s => .ok s
  | _ => .error .fieldNotText

end ChatCommands
