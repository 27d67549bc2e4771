import ChatCommands.Misuse
import ChatCommands.Refusal
import ChatCommands.Value.Basic

/-!
# The value for nothing given

`unset` says that no value was given, apart from the null value.  It counts as false, a default
takes its place, and its type can stand beside another one in a type test.

## Main definitions

* `Value.coalesce` : a value, or a default in place of `unset`.
* `Value.isTextOrUnset` : the type test.
* `Value.besideUnset` : a value that is no type cannot stand beside `unset`.
-/

namespace ChatCommands.Value

/-- A value, or a default in place of `unset`; the default is the null value when none is
given. -/
def coalesce (v : Value) (default : Option Value) : Value :=
  v.orElse (default.getD .null)

/-- The outcome of `coalesce` for given values: a value and, if given, its default. -/
def coalesceGiven (given : List Value) : Except Refusal Value :=
  match given with
  | [] => .error (.argumentMissing "coalesce" "object")
  | [v] => .ok (v.coalesce none)
  | [v, default] => .ok (v.coalesce (some default))
  | given => .error (.argumentCount "coalesce" 1 2 given.length)

/-- Whether a value is a text or `unset`. -/
def isTextOrUnset (v : Value) : Bool :=
  v.isText || v.isUnset

/-- A value that is no type cannot stand beside `unset` in a type test, on either side. -/
def besideUnset (v : Value) (unsetFirst : Bool) : Misuse :=
  if unsetFirst then .operands "|" Value.unset.typeName v.typeName
  else .operands "|" v.typeName Value.unset.typeName

end ChatCommands.Value
