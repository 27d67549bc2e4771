import ChatCommands.Decimal.Limit
import ChatCommands.FaultCode
import ChatCommands.Text.Quoted

/-!
# Refusals

An operation refuses arguments that are not of the kind it asks for.  Unlike a fault, a refusal is
never shown to the author of a message: it tells the host that it called the engine wrongly.

## Main definitions

* `Refusal` : what was refused.
* `Refusal.message`, `Refusal.failureClass` : its text and its class.
-/

namespace ChatCommands

/-- What an operation refused. -/
inductive Refusal
  | handlerNotCallable
  | tagNotText
  | tagEmpty
  | strategyNotCallable
  | contentNotText
  | notPermissionLike
  | negativePermissions (field : Int)
  | unwritable
  | unknownPermission (written : String)
  | packageNotText
  | packageNameEmpty
  | packageRelative (name : String)
  | moduleUnavailable (name : String)
  | localeNotMap
  | localeFileNotMap (path : String)
  | configLead
  | configLocale
  | faultMessage
  | argumentMissing (operation parameter : String)
  | argumentsMissing (operation first second : String)
  | argumentRepeated (operation parameter : String)
  | argumentUnexpected (operation parameter : String)
  | argumentCount (operation : String) (least most given : Nat)
  | argumentsExceeding (operation : String) (most given : Nat)
  | replacementArguments
  | noTrigger
  | notFaultCode
  | renameText
  | renameCount (count : Nat)
  | renameTarget
  | renameName
  | renameFixed
  | fieldNotText
  | noSubtype
  | readOnly (typeName : String)
  | unknownLevel (written : String)
  | levelKind (written : String)
  | tooFewTokens
  | notPermissions (written : String)
  | notInteger (written : String)
  | notFloat (written : String)
  | notHexadecimal (position : Nat)
  | typeNameNull
  | reservedField (name : String)
deriving DecidableEq

namespace Refusal

/-- Why an integer cannot be written. -/
def unwritableText : String :=
  Digits.limitText ++ Digits.adviceText

/-- Why a field of permissions is refused that is negative.  The text shows the field, and where
that cannot be written it says so instead. -/
def negativeText (field : Int) : String :=
  if Digits.isWritable field.natAbs then
    "permission bit field must not be negative, got " ++ toString field
  else unwritableText

/-- Why a type cannot have a field of a reserved name. -/
def reservedFieldText (name : String) : String :=
  if name = "__slots__" then "'property' object is not iterable"
  else if name = "__qualname__" then "type __qualname__ must be a str, not property"
  else name ++ " must be a nonlocal cell, not <class 'property'>"

def message : Refusal → String
  | .handlerNotCallable => "@command() must be applied to a callable"
  | .tagNotText => "@converter() argument must be a string"
  | .tagEmpty => "@converter() argument cannot be empty"
  | .strategyNotCallable => "@converter() must be applied to a callable"
  | .contentNotText => "tokenize() argument must be a string"
  | .notPermissionLike => "resolve() argument must be permission-like"
  | .negativePermissions field => negativeText field
  | .unwritable => unwritableText
  | .unknownPermission written => "unknown permission " ++ written
  | .packageNotText => "modules() argument must be a string"
  | .packageNameEmpty => "Empty module name"
  | .packageRelative name =>
    "the 'package' argument is required to perform a relative import for " ++ Text.quote name
  | .moduleUnavailable name => "unable to import module " ++ Text.quote name
  | .localeNotMap => "locale data must be a mapping"
  | .localeFileNotMap path => "locale file " ++ Text.quote path ++ " must contain an object"
  | .configLead => "guild-config 'prefix' must be a string or None"
  | .configLocale => "guild-config 'locale' must be a string"
  | .faultMessage => ""
  | .argumentMissing operation parameter =>
    operation ++ "() missing 1 required positional argument: '" ++ parameter ++ "'"
  | .argumentsMissing operation first second =>
    operation ++ "() missing 2 required positional arguments: '" ++ first ++ "' and '" ++ second ++
      "'"
  | .argumentRepeated operation parameter =>
    operation ++ "() got multiple values for argument '" ++ parameter ++ "'"
  | .argumentUnexpected operation parameter =>
    operation ++ "() got an unexpected keyword argument '" ++ parameter ++ "'"
  | .argumentCount operation least most given =>
    operation ++ "() takes from " ++ toString least ++ " to " ++ toString most ++
      " positional arguments but " ++ toString given ++ " were given"
  | .argumentsExceeding operation most given =>
    operation ++ "() takes " ++ toString most ++ " positional arguments but " ++ toString given ++
      " were given"
  | .replacementArguments => "unused arguments are not allowed"
  | .noTrigger => "trigger() argument must have a __trigger__ and __replace__ methods"
  | .notFaultCode => "getdoc() argument must be a fault-code"
  | .renameText => "@rename() argument must be a string"
  | .renameCount count => "rename takes 1 to 2 arguments but " ++ toString count ++ " were given"
  | .renameTarget => "rename() target must be callable"
  | .renameName => "rename() name must be a string"
  | .renameFixed => "rename() target does not accept a new name"
  | .fieldNotText => "mirror() argument must be a string"
  | .noSubtype => "type 'UnsetType' is not an acceptable base type"
  | .readOnly typeName => typeName ++ " definitions are read-only"
  | .unknownLevel written => "Unknown level: " ++ written
  | .levelKind written => "Level not an integer or a valid string: " ++ written
  | .tooFewTokens => "not enough values to unpack (expected at least 1, got 0)"
  | .notPermissions written => written ++ " is not a valid Permissions"
  | .notInteger written => "invalid literal for int() with base 10: " ++ written
  | .notFloat written => "could not convert string to float: " ++ written
  | .notHexadecimal position =>
    "non-hexadecimal number found in fromhex() arg at position " ++ toString position
  | .typeNameNull => "type name must not contain null characters"
  | .reservedField name => reservedFieldText name

def failureClass : Refusal → FailureClass
  | .faultMessage | .replacementArguments => .assertion
  | .readOnly _ => .attribute
  | .tagEmpty | .negativePermissions _ | .unwritable | .unknownPermission _ | .packageNameEmpty |
    .unknownLevel _ | .tooFewTokens | .notPermissions _ | .notInteger _ |
    .notFloat _ | .notHexadecimal _ | .typeNameNull => .value
  | _ => .type

end Refusal

end ChatCommands
