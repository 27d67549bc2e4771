import ChatCommands.Text.Blank
import ChatCommands.Value.Item

/-!
# Parts of values

The parts that a template can name.  Numbers have the parts of complex numbers and fractions;
permission fields and fault codes have a name, a number and the members of their type; definitions
have their fields, the slots that hold them and a description of their type.  These are values.  A
template can also name a type, a method, and the named parts of a value as a map, none of which is
ever in a field: together with the values they are the parts.

## Main definitions

* `Value.attributes`, `Value.get` : the values in a value, by name.
* `Part` : what a template can name.
* `Part.parts`, `Part.part` : the parts of a part, by name.
* `Part.itemAt`, `Part.itemUnder` : the item of a part at a position, and under a key.
* `Part.literal`, `Part.plain` : the two texts of a part.
-/

namespace ChatCommands

namespace Value

/-- Names as a tuple of texts. -/
def names (ns : List String) : Value :=
  .tuple (ns.map .text)

/-! ### Numbers -/

/-- The parts of an integer. -/
def integerParts (n : Int) : List (String × Value) :=
  [("real", .int n), ("imag", .int 0), ("numerator", .int n), ("denominator", .int 1)]

/-- The parts of a binary64 number. -/
def floatParts (x : Binary64) : List (String × Value) :=
  [("real", .float x), ("imag", .float Binary64.zero)]

/-! ### Members of enumerations -/

/-- The names that a permission field shows, none when no bit has a name. -/
def permissionName (field : Nat) : Value :=
  if field % (Permission.named + 1) = 0 then .null
  else .text (String.intercalate "|" (Permission.nameList field))

/-- The values of a value of an enumeration.  Only a member, which has a place among the members,
knows that place. -/
def memberAttributes (t : TypeName) (number : Nat) (name : Value) (place : Option Nat) :
    List (String × Value) :=
  let members := membersOf t
  [("value", .int number), ("name", name), ("_value_", .int number), ("_name_", name),
      ("__module__", .text t.moduleName),
      ("_member_names_", .list (members.map fun m => .text m.1)),
      ("_member_map_", .map false members), ("_use_args_", .bool true),
      ("_unhashable_values_", .list [])] ++
    (match place with
      | some n => [("_sort_order_", .int n)]
      | none => []) ++
    integerParts number ++ members

/-- The place of a permission field among the named permissions, when it is one of them. -/
def permissionPlace? (field : Nat) : Option Nat :=
  match Permission.bitsOf field with
  | [bit] => if bit < Permission.keys.length then some bit else none
  | _ => none

/-- The values of a permission field. -/
def permissionAttributes (field : Nat) : List (String × Value) :=
  [("_flag_mask_", .int Permission.named), ("_singles_mask_", .int Permission.named),
      ("_all_bits_", .int Permission.named), ("_boundary_", .text "keep"), ("_inverted_", .null)] ++
    memberAttributes .permissions field (permissionName field) (permissionPlace? field)

/-- The place of a fault code among the fault codes. -/
def codePlace? (c : FaultCode) : Option Nat :=
  FaultCode.all.findIdx? fun d => d = c

/-! ### Definitions -/

/-- The slots that hold the fields of a definition. -/
def slots (fields : List (String × Value)) : List (String × Value) :=
  fields.map fun f => ("_" ++ f.1, f.2)

/-- The values that a definition has besides its fields: the slots that hold them, the shown name
of its type and the names of the fields. -/
def definitionAttributes (t : TypeName) (shownType : String) (fields : List (String × Value)) :
    List (String × Value) :=
  slots fields ++
    [("__typename__", .text shownType), ("__introspectable__", names (fields.map Prod.fst)),
      ("__dict__", .map false (slots fields)), ("__module__", .text t.moduleName)]

/-- The values of a command. -/
def commandAttributes (c : Command) : List (String × Value) :=
  c.fields ++ definitionAttributes .command "command" c.fields ++
    [("__displayable__", names (c.display.map Prod.fst))]

/-- The values of an argument. -/
def argumentAttributes (a : Argument) : List (String × Value) :=
  a.display ++ [("required", .bool a.isRequired)] ++
    definitionAttributes .argument "argument" a.display

/-! ### Other values -/

/-- The values of a styled text. -/
def styledAttributes (t : StyledText) : List (String × Value) :=
  let spans := t.spans.map fun s => .tuple [.int s.start, .int s.stop, .text s.style]
  [("plain", .text t.plain), ("style", .text t.style), ("spans", .list spans),
    ("_spans", .list spans), ("_text", .list [.text t.plain]), ("_length", .int t.length),
    ("justify", .null), ("overflow", .null), ("no_wrap", .null), ("__hash__", .null)]

/-- The values in a value, by name. -/
def attributes : Value → List (String × Value)
  | .bool b => integerParts (if b then 1 else 0)
  | .int n => integerParts n
  | .float x => floatParts x
  | .permissions field => permissionAttributes field
  | .code c => memberAttributes .codes c.number (.text c.name) (codePlace? c)
  | .holder content => [("value", content), ("__dict__", .map false [("value", content)])]
  | .styled t => styledAttributes t
  | .command c => commandAttributes c
  | .argument a => argumentAttributes a
  | .list _ | .map _ _ | .set false _ => [("__hash__", .null)]
  | _ => []

/-- The key of a permission field: its name in lower case. -/
def permissionKey (field : Nat) : Except Misuse Value :=
  match permissionName field with
  | .text s => .ok (.text (Text.lower s))
  | v => .error (.noAttribute v.typeName "lower")

/-- The value of a name in a value. -/
def get (name : String) (v : Value) : Except Misuse Value :=
  match v, v.attributes.lookup name with
  | _, some w => .ok w
  | .permissions field, none =>
    if name = "key" then permissionKey field else .error (.noAttribute v.typeName name)
  | v, none => .error (.noAttribute v.typeName name)

end Value

/-- What a template can name: a value, a type, a method with what it is read from, or named parts
as a map. -/
inductive Part
  | value (v : Value)
  | type (t : TypeName)
  | method (name : String) (receiver : Part)
  | record (entries : List (String × Part))

namespace Part

/-- The name of the type of a part, as messages show it. -/
def typeName : Part → String
  | .value v => v.typeName
  | .type t => t.above.name
  | .method _ _ => "method"
  | .record _ => "dict"

/-- The type of a part. -/
def typeOf : Part → TypeName
  | .value v => v.typeOf
  | .type t => t.above
  | p => .plain p.typeName

/-! ### Written parts -/

mutual

/-- The text that shows what a part is. -/
def literal : Part → String
  | .value v => v.literal
  | .type t => t.literal
  | .method name receiver => "<bound method " ++ name ++ " of " ++ literal receiver ++ ">"
  | .record entries => Value.mapText (entryLiterals entries)

/-- The literals of named parts. -/
def entryLiterals : List (String × Part) → List String
  | [] => []
  | (key, p) :: rest => (Text.quote key ++ ": " ++ literal p) :: entryLiterals rest

end

/-- The text that a part is inserted as. -/
def plain : Part → String
  | .value v => v.plain
  | p => p.literal

/-! ### Parts of parts -/

/-- The slots of a value of an enumeration.  Only a member, which has a place among the members,
knows its type and that place. -/
def memberSlots (t : TypeName) (number : Nat) (name : Value) (place : Option Nat) :
    List (String × Part) :=
  [("_value_", .value (.int number)), ("_name_", .value name)] ++
    match place with
    | some n => [("__objclass__", .type t), ("_sort_order_", .value (.int n))]
    | none => []

/-- The parts of a value of an enumeration that are no values. -/
def memberParts (t : TypeName) (number : Nat) (name : Value) (place : Option Nat) :
    List (String × Part) :=
  let slots := memberSlots t number name place
  [("__dict__", .record slots), ("_member_type_", .type (.plain "int"))] ++ slots

/-- The parts of a value that are no values. -/
def ofValue (v : Value) : List (String × Part) :=
  match v with
  | .permissions field =>
    ("fromkey", .method "Permissions.fromkey" (.type .permissions)) ::
      memberParts .permissions field (Value.permissionName field) (Value.permissionPlace? field)
  | .code c =>
    ("normalize", .method "FaultCode.normalize" (.value v)) ::
      memberParts .codes c.number (.text c.name) (Value.codePlace? c)
  | .command _ =>
    [("__repr__", .method "__repr__" (.value v)),
      ("__rich_repr__", .method "__rich_repr__" (.value v)),
      ("matches", .method "Command.matches" (.value v))]
  | .argument _ =>
    [("__repr__", .method "__repr__" (.value v)),
      ("__rich_repr__", .method "__rich_repr__" (.value v))]
  | _ => []

/-- The part of a name behind its last point. -/
def lastName (name : String) : String :=
  (Text.dotted name).getLastD name

/-- The parts of a method. -/
def methodParts (name : String) (receiver : Part) : List (String × Part) :=
  [("__name__", .value (.text (lastName name))), ("__qualname__", .value (.text name)),
    ("__self__", receiver)]

/-- The values of a type.  A type of definitions has a shown name as well. -/
def typeAttributes (t : TypeName) : List (String × Value) :=
  [("__name__", .text t.name), ("__qualname__", .text t.name),
      ("__module__", .text t.moduleName)] ++
    (if t.isDefinition then [("__typename__", .text (Text.lower t.name))] else []) ++
    Value.membersOf t

/-- Named values as parts. -/
def ofValues (entries : List (String × Value)) : List (String × Part) :=
  entries.map fun e => (e.1, .value e.2)

/-- The parts of a part that is no value, and those of a value that are no values. -/
def parts : Part → List (String × Part)
  | .value v => ofValue v
  | .type t => ofValues (typeAttributes t)
  | .method name receiver => methodParts name receiver
  | .record _ => [("__hash__", .value .null)]

/-- The failure to find a part. -/
def missingPart (name : String) : Part → Misuse
  | .type t => if t.isEnumeration then .noMember name else .noTypeAttribute t.label name
  | .method _ _ => .noAttribute "function" name
  | p => .noAttribute p.typeName name

/-- What a part has under a name besides values: a part of its own or its type. -/
def ownPart (name : String) (p : Part) : Except Misuse Part :=
  match p.parts.lookup name with
  | some q => .ok q
  | none => if name = "__class__" then .ok (.type p.typeOf) else .error (missingPart name p)

/-- The part of a name. -/
def part (name : String) (p : Part) : Except Misuse Part :=
  match p with
  | .value v =>
    match v.get name with
    | .ok w => .ok (.value w)
    | .error misuse => (p.ownPart name).mapError fun _ => misuse
  | p => p.ownPart name

/-! ### Items of parts -/

/-- The item of a type under a key: the member of that name. -/
def typeItem (t : TypeName) (key : String) (written : String) : Except Misuse Part :=
  if t.isEnumeration then
    match (Value.membersOf t).lookup key with
    | some v => .ok (.value v)
    | none => .error (.missingKey written)
  else .error (.typeNotSubscriptable t.label)

/-- The item at a position. -/
def itemAt (position : Nat) : Part → Except Misuse Part
  | .value v => (v.itemAt position).map .value
  | .type t => typeItem t "" (toString position)
  | .record _ => .error (.missingKey (toString position))
  | p => .error (.notSubscriptable p.typeName)

/-- The item under a key. -/
def itemUnder (key : String) : Part → Except Misuse Part
  | .value v => (v.itemUnder key).map .value
  | .type t => typeItem t key (Text.quote key)
  | .record entries =>
    match entries.lookup key with
    | some p => .ok p
    | none => .error (.missingKey (Text.quote key))
  | p => .error (.notSubscriptable p.typeName)

end Part

end ChatCommands
