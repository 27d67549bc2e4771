import ChatCommands.Decimal.Numeral
import ChatCommands.FaultCode
import ChatCommands.Permission.Table
import ChatCommands.Styled
import ChatCommands.Value.TypeName

/-!
# Values

Hosts build definitions, messages and locale data from values of many kinds, and nothing stops
them from putting a value of the wrong kind into a field.  `Value` is the type of all of them; a
definition keeps whatever it was given, and the operations that read a field decide.

Commands, arguments and callables are records over their field type, so that `Value` can hold
them: `Command` is the record over `Value`.  What is no data, such as a definition, a script or an
iterator, carries a serial number: two references are to the same one exactly when the numbers
agree.  An iterator is given by the items that are left in it; whoever goes through it has used it
up, which no value records.

## Main definitions

* `Value` : the values.
* `Command`, `Argument`, `Callable` : definition records with values in their fields.
* `Value.isTruthy`, `Value.typeName`, `Value.elements?` : what every value can be asked.
* `Value.same` : whether containers take two values for one item.
* `Value.equals` : equality; numbers are equal across their kinds.
-/

namespace ChatCommands

/-- The fields of a command definition, over the type of their contents. -/
structure CommandOf (α : Type) where
  serial : Nat
  name : α
  shortcut : α
  permissions : α
  channel : α
  guard : α
  subcommands : α
  arguments : α
  handler : α

/-- The fields of an argument definition, over the type of their contents. -/
structure ArgumentOf (α : Type) where
  serial : Nat
  name : α
  types : List α
  variadic : α
  default : α

/-- A failure that a callable raises: its class and what it is raised with. -/
structure FailureOf (α : Type) where
  kind : FailureClass
  details : List α

/-- A scripted callable: the replies it sends, the localized texts it formats, and how it ends.
A script that does not wait ends at once, without replies. -/
structure ScriptOf (α : Type) where
  serial : Nat
  label : String
  waits : Bool
  result : α
  failure : Option (FailureOf α)
  replies : List String
  formats : List String

/-- A callable: a script, or a routine that the host knows by name. -/
inductive CallableOf (α : Type)
  | script (s : ScriptOf α)
  | routine (name : String)

/-- The values that definitions, messages and locale data are made of. -/
inductive Value
  | null
  | unset
  | bool (b : Bool)
  | int (n : Int)
  | float (x : Binary64)
  | text (s : String)
  | bytes (bs : List UInt8)
  | list (items : List Value)
  | tuple (items : List Value)
  | set (frozen : Bool) (items : List Value)
  | map (frozen : Bool) (entries : List (String × Value))
  | stream (serial : Nat) (items : List Value)
  | permissions (field : Nat)
  | code (c : FaultCode)
  | holder (content : Value)
  | styled (t : StyledText)
  | callable (c : CallableOf Value)
  | command (c : CommandOf Value)
  | argument (a : ArgumentOf Value)

/-- A command definition. -/
abbrev Command := CommandOf Value

/-- An argument definition. -/
abbrev Argument := ArgumentOf Value

/-- A callable with values in its script. -/
abbrev Callable := CallableOf Value

/-- A scripted callable with values in it. -/
abbrev Script := ScriptOf Value

/-- A failure raised with values. -/
abbrev Failure := FailureOf Value

instance : Inhabited Value := ⟨.null⟩

namespace Value

/-- The name of the type of a value, as messages show it. -/
def typeName : Value → String
  | .null => "NoneType"
  | .unset => "UnsetType"
  | .bool _ => "bool"
  | .int _ => "int"
  | .float _ => "float"
  | .text _ => "str"
  | .bytes _ => "bytes"
  | .list _ => "list"
  | .tuple _ => "tuple"
  | .set frozen _ => if frozen then "frozenset" else "set"
  | .map frozen _ => if frozen then "mappingproxy" else "dict"
  | .stream _ _ => "list_iterator"
  | .permissions _ => "Permissions"
  | .code _ => "FaultCode"
  | .holder _ => "types.SimpleNamespace"
  | .styled _ => "Text"
  | .callable _ => "function"
  | .command _ => "Command"
  | .argument _ => "Argument"

/-- The type of a value. -/
def typeOf : Value → TypeName
  | .unset => .unset
  | .permissions _ => .permissions
  | .code _ => .codes
  | .holder _ => .holder
  | .styled _ => .styled
  | .command _ => .command
  | .argument _ => .argument
  | v => .plain v.typeName

/-- Whether a value counts as true: everything but the null value, `unset`, false, zero and what
is empty. -/
def isTruthy : Value → Bool
  | .null => false
  | .unset => false
  | .bool b => b
  | .int n => n ≠ 0
  | .float x => !x.isZero
  | .text s => !s.isEmpty
  | .bytes bs => !bs.isEmpty
  | .list items => !items.isEmpty
  | .tuple items => !items.isEmpty
  | .set _ items => !items.isEmpty
  | .map _ entries => !entries.isEmpty
  | .permissions field => field ≠ 0
  | .styled t => !t.plain.isEmpty
  | _ => true

/-- Whether a value is the null value. -/
def isNull : Value → Bool
  | .null => true
  | _ => false

/-- Whether a value is `unset`. -/
def isUnset : Value → Bool
  | .unset => true
  | _ => false

def isText : Value → Bool
  | .text _ => true
  | _ => false

def isBool : Value → Bool
  | .bool _ => true
  | _ => false

def isCallable : Value → Bool
  | .callable _ => true
  | _ => false

/-- The integer that a value is; truth values count as zero and one. -/
def integer? : Value → Option Int
  | .bool b => some (if b then 1 else 0)
  | .int n => some n
  | .permissions field => some field
  | .code c => some c.number
  | _ => none

/-- The items that a value goes through, when it can be gone through: texts by character, maps by
key, byte strings by number and permission fields by named bit. -/
def elements? : Value → Option (List Value)
  | .text s => some (s.toList.map fun c => .text (String.ofList [c]))
  | .bytes bs => some (bs.map fun b => .int b.toNat)
  | .list items => some items
  | .tuple items => some items
  | .set _ items => some items
  | .map _ entries => some (entries.map fun e => .text e.1)
  | .stream _ items => some items
  | .styled t => some (t.characters.map .styled)
  | .permissions field =>
    some (((Permission.bitsOf field).filter fun bit => bit < Permission.keys.length).map
      fun bit => .permissions (Nat.pow 2 bit))
  | _ => none

/-- The value of a key of a map. -/
def entry? (key : String) : Value → Option Value
  | .map _ entries => entries.lookup key
  | _ => none

/-- Replaces `unset` by a default. -/
def orElse (v default : Value) : Value :=
  if v.isUnset then default else v

/-- An immutable snapshot of a container: sequences become tuples, maps and sets their frozen
kind.  What the container holds is kept as it is. -/
def frozen : Value → Value
  | .list items => .tuple items
  | .map _ entries => .map true entries
  | .set _ items => .set true items
  | v => v

/-- A container with its content taken out; a value that cannot change stays the same. -/
def emptied : Value → Value
  | .list _ => .list []
  | .map false _ => .map false []
  | .set false _ => .set false []
  | v => v

/-! ### Equality -/

/-- Equality of two numbers of any kind, `none` when one of the values is not a number. -/
def numericEquals (v w : Value) : Option Bool :=
  match v, w with
  | .float x, .float y => some (x.equals y)
  | .float x, w => w.integer?.map fun n => x.equalsInt n
  | v, .float y => v.integer?.map fun n => y.equalsInt n
  | v, w => v.integer?.bind fun m => w.integer?.map fun n => decide (m = n)

/-- Whether two references are to the same callable.  Routines are known by their names. -/
def sameCallable (c d : Callable) : Bool :=
  match c, d with
  | .script s, .script t => s.serial = t.serial
  | .routine name, .routine name' => name = name'
  | _, _ => false

mutual

/-- Whether containers take two values for one item: one is the other, or the two are equal.
Numbers compare by value across kinds, containers item by item, sets and maps without regard to
order or to being frozen; what is no data is known by its serial number, and so is a float that is
not a number. -/
def same : Value → Value → Bool
  | .null, .null => true
  | .unset, .unset => true
  | .text s, .text t => s = t
  | .bytes s, .bytes t => s = t
  | .float x, .float y => x.isSame y || x.equals y
  | .list xs, .list ys => sameAll xs ys
  | .tuple xs, .tuple ys => sameAll xs ys
  | .set _ xs, .set _ ys => xs.length = ys.length && allIn xs ys
  | .map _ xs, .map _ ys => xs.length = ys.length && entriesIn xs ys
  | .stream n _, .stream n' _ => n = n'
  | .styled s, .styled t => s.plain = t.plain && s.spans = t.spans
  | .holder v, .holder w => same v w
  | .callable c, .callable d => sameCallable c d
  | .command c, .command d => c.serial = d.serial
  | .argument a, .argument b => a.serial = b.serial
  | v, w => (numericEquals v w).getD false

/-- Whether two lists are the same item by item. -/
def sameAll : List Value → List Value → Bool
  | [], [] => true
  | x :: xs, y :: ys => same x y && sameAll xs ys
  | _, _ => false

/-- Whether every item of the first list is the same as one of the second. -/
def allIn : List Value → List Value → Bool
  | [], _ => true
  | x :: xs, ys => ys.any (same x) && allIn xs ys

/-- Whether every entry of the first list has the same one in the second. -/
def entriesIn : List (String × Value) → List (String × Value) → Bool
  | [], _ => true
  | (key, x) :: xs, ys =>
    (match ys.lookup key with
      | some y => same x y
      | none => false) && entriesIn xs ys

end

/-- Equality of values.  It differs from `same` on a float that is not a number, which does not
equal itself. -/
def equals (v w : Value) : Bool :=
  match v, w with
  | .float x, .float y => x.equals y
  | v, w => v.same w

/-- Whether a list of values holds a value. -/
def isIn (v : Value) (items : List Value) : Bool :=
  items.any fun w => v.same w

/-- The items without those that are the same as an earlier one. -/
def distinct (items : List Value) : List Value :=
  items.foldl (fun kept v => if v.isIn kept then kept else kept ++ [v]) []

end Value

namespace ArgumentOf

/-- Whether an argument takes any number of tokens. -/
def isVariadic (a : Argument) : Bool :=
  a.variadic.isTruthy

/-- Whether an absent token is a failure. -/
def isRequired (a : Argument) : Bool :=
  !a.isVariadic && a.default.isUnset

end ArgumentOf

end ChatCommands
