import ChatCommands.Misuse
import ChatCommands.Value.Literal

/-!
# Items of values

The item at a position or under a key, the items that a value goes through, and what can be a key.

## Main definitions

* `Value.itemAt`, `Value.itemUnder` : the item at a position, and under a key.
* `Value.items`, `Value.length` : the items that a value goes through, and their number.
* `Value.hashable` : whether a value can be a key or an element of a set.
-/

namespace ChatCommands

namespace Value

/-- The named permissions, in bit order. -/
def permissionMembers : List (String × Value) :=
  Permission.keys.zipIdx.map fun (key, bit) =>
    (Permission.writtenName key, .permissions (Nat.pow 2 bit))

/-- The fault codes by name. -/
def codeMembers : List (String × Value) :=
  FaultCode.all.map fun c => (c.name, .code c)

/-- The members of an enumeration by name; other types have none. -/
def membersOf (t : TypeName) : List (String × Value) :=
  if t = .permissions then permissionMembers else if t = .codes then codeMembers else []

/-- The item at a position of a sequence.  A map has no position among its keys. -/
def itemAt (position : Nat) (v : Value) : Except Misuse Value :=
  match v with
  | .text _ | .bytes _ | .list _ | .tuple _ =>
    match (v.elements?.getD [])[position]? with
    | some w => .ok w
    | none => .error (.outOfRange v.typeName)
  | .styled t =>
    match t.characters[position]? with
    | some c => .ok (.styled c)
    | none => .error (.outOfRange "str")
  | .map _ _ => .error (.missingKey (toString position))
  | _ => .error (.notSubscriptable v.typeName)

/-- The item under a key.  Styled text takes a key for a range of positions. -/
def itemUnder (key : String) (v : Value) : Except Misuse Value :=
  match v with
  | .text _ | .bytes _ | .list _ | .tuple _ =>
    .error (.positionExpected v.typeName (Value.text key).typeName)
  | .styled _ => .error (.noAttribute "str" "indices")
  | .map _ entries =>
    match entries.lookup key with
    | some w => .ok w
    | none => .error (.missingKey (Text.quote key))
  | _ => .error (.notSubscriptable v.typeName)

/-- The items that a value goes through. -/
def items (v : Value) : Except Misuse (List Value) :=
  match v.elements? with
  | some items => .ok items
  | none => .error (.notIterable v.typeName)

/-- The number of items of a value; for a permission field the number of its bits, with a name or
without. -/
def length (v : Value) : Except Misuse Nat :=
  match v with
  | .stream _ _ => .error (.noLength v.typeName)
  | .permissions field => .ok (Permission.bitsOf field).length
  | v =>
    match v.elements? with
    | some items => .ok items.length
    | none => .error (.noLength v.typeName)

mutual

/-- The type that keeps a value from being a key: a list, a map or a set that can change, also
inside a tuple. -/
def unhashableType? : Value → Option String
  | .list _ => some "list"
  | .map isFrozen _ => some (if isFrozen then "mappingproxy" else "dict")
  | .set false _ => some "set"
  | .holder _ => some "types.SimpleNamespace"
  | .styled _ => some "Text"
  | .tuple items => unhashableIn? items
  | _ => none

/-- The first obstacle among a list of values. -/
def unhashableIn? : List Value → Option String
  | [] => none
  | v :: rest =>
    match unhashableType? v with
    | some obstacle => some obstacle
    | none => unhashableIn? rest

end

/-- Checks that a value can be a key. -/
def hashable (v : Value) : Except Misuse Unit :=
  match v.unhashableType? with
  | some obstacle => .error (.unhashable obstacle)
  | none => .ok ()

end Value

end ChatCommands
