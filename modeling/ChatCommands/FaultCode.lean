/-!
# Kinds of failure

Failures of the engine carry a stable number, and every failure, of the engine or of the code it
calls, belongs to a class.  Numbers are grouped by domain: definitions, routing, gating and
arguments.

## Main definitions

* `FaultCode` : the numbered failures; `FaultCode.number` and `FaultCode.name`.
* `FaultKind` : the kinds of fault objects, one per code that the engine raises, and a plain one.
* `FailureClass` : the class of any failure.
-/

namespace ChatCommands

/-- The numbered failures. -/
inductive FaultCode
  | malformedDefinition
  | unknownArgumentType
  | noSubcommand
  | missingPermissions
  | guardRejected
  | missingArgument
  | invalidArgumentType
deriving DecidableEq

namespace FaultCode

/-- Every code, in the order of the numbers. -/
def all : List FaultCode :=
  [.malformedDefinition, .unknownArgumentType, .noSubcommand, .missingPermissions, .guardRejected,
    .missingArgument, .invalidArgumentType]

def number : FaultCode → Nat
  | .malformedDefinition => 10101
  | .unknownArgumentType => 10102
  | .noSubcommand => 11101
  | .missingPermissions => 12101
  | .guardRejected => 12102
  | .missingArgument => 13101
  | .invalidArgumentType => 13102

def name : FaultCode → String
  | .malformedDefinition => "MALFORMED_DEFINITION"
  | .unknownArgumentType => "UNKNOWN_ARGUMENT_TYPE"
  | .noSubcommand => "NO_SUBCOMMAND"
  | .missingPermissions => "MISSING_PERMISSIONS"
  | .guardRejected => "GUARD_REJECTED"
  | .missingArgument => "MISSING_ARGUMENT"
  | .invalidArgumentType => "INVALID_ARGUMENT_TYPE"

/-- The code of a name. -/
def ofName? (s : String) : Option FaultCode :=
  all.find? fun c => c.name = s

end FaultCode

/-- The kinds of fault objects: a plain one and one for every code that the engine raises. -/
inductive FaultKind
  | plain
  | malformedDefinition
  | unknownArgumentType
  | noSubcommand
  | missingPermissions
  | missingArgument
  | invalidArgumentType
deriving DecidableEq

/-- The class of a failure: a fault of some kind, one of the general classes, the end of an
iteration or a class below it, or any other class by its name. -/
inductive FailureClass
  | fault (kind : FaultKind)
  | type
  | value
  | key
  | index
  | attribute
  | assertion
  | overflow
  | runtime
  | moduleImport
  | moduleMissing
  | fileMissing
  | directory
  | decoding
  | encoding
  | document
  | system
  | memory
  | recursion
  | iterationEnd
  | other (name : String)
deriving DecidableEq

end ChatCommands
