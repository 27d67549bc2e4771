import ChatCommands.Refusal
import ChatCommands.Value.Entries

/-!
# Faults

A fault is a failure that the engine reports to the author of a message.  It has a kind, a
diagnostic message for operators, and options: those of its kind overridden by the given ones.

## Main definitions

* `Fault` : a fault.
* `FaultKind.defaults` : the options of a kind.
* `Fault.make` : a fault of a kind with given options.
* `Fault.replace` : the fault with some options overridden.
-/

namespace ChatCommands

/-- A failure with a kind, a diagnostic message and options. -/
structure Fault where
  kind : FaultKind
  message : Option String
  options : Entries

namespace FaultKind

/-- The common options of a kind. -/
def described (title : String) (code : FaultCode) (hint : String) : Entries :=
  [("title", .text title), ("code", .code code), ("hint", .text hint)]

/-- The options that a fault of a kind has unless others are given. -/
def defaults : FaultKind → Entries
  | .plain => []
  | .malformedDefinition =>
    described "malformed definition" .malformedDefinition
      "fix the command tree before registering it; dispatch never starts with an invalid tree"
  | .unknownArgumentType =>
    described "unknown argument type" .unknownArgumentType
      "register the type with @converter(...) or validate the tree with isvalid() at startup"
  | .noSubcommand =>
    described "no matching subcommand" .noSubcommand
      "the command only routes to subcommands; one of them must be named"
  | .missingPermissions =>
    described "missing permissions" .missingPermissions
        "grant the listed permissions to the member (or run the command elsewhere)" ++
      [("missing", .tuple []), ("listing", .text ""), ("channel", .null)]
  | .missingArgument =>
    described "missing argument" .missingArgument
        "provide a value for the argument or declare a default" ++
      [("index", .int 0)]
  | .invalidArgumentType =>
    described "invalid argument type" .invalidArgumentType
        "pass a value matching one of the accepted types" ++
      [("index", .int 0)]

end FaultKind

namespace Fault

/-- A fault of a kind: the given options override those of the kind. -/
def make (kind : FaultKind) (message : Option String) (options : Entries) : Fault :=
  ⟨kind, message, Entries.union kind.defaults options⟩

/-- The fault with some options overridden. -/
def replace (f : Fault) (overrides : Entries) : Fault :=
  make f.kind f.message (Entries.union f.options overrides)

/-- A fault from given values; the message has to be a text or `unset`. -/
def ofValues (kind : FaultKind) (message : Value) (options : Entries) : Except Refusal Fault :=
  match message with
  | .text s => .ok (make kind (some s) options)
  | .unset => .ok (make kind none options)
  | _ => .error .faultMessage

/-- Whether an option has the name that what is replaced has itself. -/
def namesReceiver (options : Entries) : Bool :=
  options.any fun e => e.1 = "self"

/-- The fault with some options overridden; values without a name are refused, and so is an option
with the name of the fault itself. -/
def replaceWith (f : Fault) (unnamed : List Value) (overrides : Entries) : Except Refusal Fault :=
  if namesReceiver overrides then .error (.argumentRepeated "CommandException.__replace__" "self")
  else if unnamed.isEmpty then .ok (f.replace overrides)
  else .error .replacementArguments

/-- The value of an option. -/
def option? (f : Fault) (name : String) : Option Value :=
  f.options.lookup name

/-- The diagnostic message as a value: `unset` when there is none. -/
def messageValue (f : Fault) : Value :=
  match f.message with
  | some s => .text s
  | none => .unset

/-- The text of the fault: its message, empty when there is none. -/
def text (f : Fault) : String :=
  f.message.getD ""

end Fault

end ChatCommands
