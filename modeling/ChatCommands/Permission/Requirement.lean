import ChatCommands.Error
import ChatCommands.Permission.Mask
import ChatCommands.Permission.Table

/-!
# Permission requirements

Requirements and holdings are written in many ways: as a field, as the key of a permission, as an
object of the platform that holds a field, or as a collection of any of these, which stands for
the permissions of all its items.

Fields have any number of bits, but numbers are written with a limited number of digits.  A field
that has bits with a name and bits without one is named by both, so that its unnamed part must be
writable; and whoever lacks a bit is told its decimal value if it has no name, so that the values
of all bits that are lacking are written.

## Main definitions

* `Permission.ofBits` : the field of some bits, unless its name cannot be written.
* `Permission.resolve` : the field that a value stands for.
* `Permission.lacking` : what a holder lacks of a requirement.
* `Permission.missing` : the keys of those bits, unless the holder is an administrator.
-/

namespace ChatCommands.Permission

/-- The field of a key, in any letter case. -/
def ofKey (key : String) : Except Refusal Nat :=
  match bitOfKey? key with
  | some bit => .ok (Nat.pow 2 bit)
  | none => .error (.unknownPermission (Text.quote key))

/-- The field of a key of any kind.  Bytes have letter case, but name no permission. -/
def ofAnyKey (key : Value) : Except Error Nat :=
  match key with
  | .text s => (ofKey s).mapError .refusal
  | .bytes _ => .error (.refusal (.unknownPermission key.literal))
  | v => .error (.misuse (.noAttribute v.typeName "upper"))

/-- Whether a field can be named: its unnamed part, if any, is written next to names only. -/
def isNameable (field : Nat) : Bool :=
  field % (named + 1) = 0 || unnamed field = 0 || Digits.isWritable (unnamed field)

/-- The field of some bits. -/
def ofBits (field : Nat) : Except Refusal Nat :=
  if isNameable field then .ok field else .error .unwritable

/-- The field of an integer, which must not be negative. -/
def ofField (n : Int) : Except Refusal Nat :=
  if n < 0 then .error (.negativePermissions n) else ofBits n.toNat

/-- The union of the fields of some keys. -/
def ofKeys : List String → Except Refusal Nat
  | [] => .ok 0
  | key :: rest => do
    let field ← ofKey key
    let others ← ofKeys rest
    return field ||| others

/-- The field of a number that stands for a field; truth values do not. -/
def ofNumber (v : Value) : Except Refusal Nat :=
  match v with
  | .bool _ => .error .notPermissionLike
  | v =>
    match v.integer? with
    | some n => ofField n
    | none => .error .notPermissionLike

/-- The field of a number of any kind, a negative one included; what is no number is refused. -/
def ofAnyNumber (v : Value) : Except Refusal Nat :=
  match v.integer? with
  | some n => ofBits (ofInt n)
  | none =>
    match Value.permissionMembers.find? fun m => v.equals m.2 with
    | some (_, .permissions field) => .ok field
    | _ => .error (.notPermissions v.literal)

mutual

/-- The field that a value stands for. -/
def resolve : Value → Except Refusal Nat
  | .text key => ofKey key
  | .list items => resolveAll 0 items
  | .tuple items => resolveAll 0 items
  | .set _ items => resolveAll 0 items
  | .stream _ items => resolveAll 0 items
  | .map _ entries => ofKeys (entries.map Prod.fst)
  | .bytes bs => .ok (bs.foldl (fun field b => field ||| b.toNat) 0)
  | .holder content => ofNumber content
  | v => ofNumber v

/-- The union of a field and the fields of some values, taken in one after another. -/
def resolveAll (combined : Nat) : List Value → Except Refusal Nat
  | [] => .ok combined
  | v :: rest => do
    let field ← resolve v
    let union ← ofBits (combined ||| field)
    resolveAll union rest

end

/-- Whether a field holds the administrator permission. -/
def isAdministrator (field : Nat) : Bool :=
  field.testBit administratorBit

/-- The field of what is required and not held. -/
def lacking (held required : Nat) : Nat :=
  masked required (~~~(held : Int))

/-- The decimal text of a number, unless it has too many digits. -/
def decimal (n : Nat) : Except Refusal String :=
  if Digits.isWritable n then .ok (toString n) else .error .unwritable

/-- The key of the value of a bit: its name, or the value itself when it has none.  The value is
written in either case. -/
def valueKey (value : Nat) : Except Refusal String := do
  let written ← decimal value
  return (valueKeys.lookup value).getD written

/-- The keys of what a holder lacks.  An administrator lacks nothing; whoever lacks the
administrator permission itself is told nothing else. -/
def missingKeys (held required : Nat) : Except Refusal (List String) :=
  if isAdministrator held then .ok []
  else if required = administrator then .ok [bitKey administratorBit]
  else (peeled (lacking held required)).mapM valueKey

/-- The keys of the required permissions that a holder lacks, both given as values. -/
def missing (held required : Value) : Except Refusal (List String) := do
  let held ← resolve held
  let required ← resolve required
  missingKeys held required

/-- Permission keys as a value. -/
def keyTuple (keys : List String) : Value :=
  .tuple (keys.map Value.text)

end ChatCommands.Permission
