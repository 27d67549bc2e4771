/-!
# Names of types

Templates can ask for the type of a value.  A type has a name, the module that defines it unless it
is a type of plain data, and a type of its own: enumerations and definitions have special ones.

## Main definitions

* `TypeName` : the name of a type.
* `TypeName.full`, `TypeName.literal` : how a type is named and shown.
* `TypeName.above` : the type of a type.
-/

namespace ChatCommands

/-- The name of a type, and of the module that defines it unless it is a type of plain data. -/
structure TypeName where
  home : Option String
  name : String
deriving DecidableEq

namespace TypeName

def permissions : TypeName := ⟨some "helmsman.permissions", "Permissions"⟩

def codes : TypeName := ⟨some "helmsman.faults", "FaultCode"⟩

def command : TypeName := ⟨some "helmsman.commands", "Command"⟩

def argument : TypeName := ⟨some "helmsman.arguments", "Argument"⟩

def unset : TypeName := ⟨some "helmsman.utils", "UnsetType"⟩

def holder : TypeName := ⟨some "types", "SimpleNamespace"⟩

def styled : TypeName := ⟨some "rich.text", "Text"⟩

/-- A type of plain data. -/
def plain (name : String) : TypeName := ⟨none, name⟩

/-- Whether the values of a type are named members. -/
def isEnumeration (t : TypeName) : Bool :=
  t = permissions || t = codes

/-- Whether the values of a type are definitions. -/
def isDefinition (t : TypeName) : Bool :=
  t = command || t = argument

/-- The name with its module in front. -/
def full (t : TypeName) : String :=
  match t.home with
  | some home => home ++ "." ++ t.name
  | none => t.name

/-- How messages name a type: types of plain data and those of collections of named values by their
full name. -/
def label (t : TypeName) : String :=
  if t = holder then t.full else t.name

/-- The module that a type is said to come from. -/
def moduleName (t : TypeName) : String :=
  t.home.getD "builtins"

/-- The type of a type. -/
def above (t : TypeName) : TypeName :=
  if t.isEnumeration then ⟨some "enum", "EnumType"⟩
  else if t.isDefinition then ⟨some "helmsman.utils", "DefinitionType"⟩
  else plain "type"

/-- How a type is shown. -/
def literal (t : TypeName) : String :=
  if t = permissions then "<flag '" ++ t.name ++ "'>"
  else if t = codes then "<enum '" ++ t.name ++ "'>"
  else "<class '" ++ t.full ++ "'>"

end TypeName

end ChatCommands
