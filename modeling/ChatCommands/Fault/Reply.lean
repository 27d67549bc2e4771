import ChatCommands.Fault.Basic
import ChatCommands.Locale.Listing

/-!
# Replies to faults

The author of a message is told about a fault by one localized text.  Faults of routing, gating
and arguments have templates of their own in the common section; any other fault shows its
message.

## Main definitions

* `Value.successor` : the number after a given one.
* `Fault.render` : the reply to a fault.
-/

namespace ChatCommands

/-- The number after a given one; other values cannot be added to. -/
def Value.successor (v : Value) : Except Misuse Value :=
  match v.integer?, v with
  | some n, _ => .ok (.int (n + 1))
  | none, .float x => .ok (.float (x.add (Binary64.ofInt 1)))
  | none, .text _ | none, .list _ | none, .tuple _ => .error (.concatenation v.typeName "int")
  | none, .bytes _ => .error (.bytesConcatenation "int")
  | none, _ => .error (.operands "+" v.typeName "int")

namespace Fault

/-- The value of an option that has to be there. -/
def option (f : Fault) (name : String) : Except Misuse Value :=
  match f.option? name with
  | some v => .ok v
  | none => .error (.missingKey (Text.quote name))

/-- What a reply about an argument starts with: the definition, its name and the position of the
token counted from one. -/
def argumentDetails (f : Fault) : Except Misuse (Value × Value × Value) := do
  let definition ← f.option "argument"
  let name ← definition.get "name"
  let index ← f.option "index"
  let position ← index.successor
  return (definition, name, position)

/-- The reply about missing permissions, in a channel or in the guild. -/
def renderPermissions (f : Fault) (l : Locale) : Run String := do
  let channel ← Run.ofExcept (Value.checked (f.option "channel"))
  let names ← Run.ofExcept (Value.checked (f.option "listing"))
  if channel.isNull then l.formatCommon "no_guild_permissions" [names]
  else l.formatCommon "no_channel_permissions" [names, channel]

/-- The reply about a missing argument. -/
def renderMissing (f : Fault) (l : Locale) : Run String := do
  let (_, name, position) ← Run.ofExcept (Value.checked f.argumentDetails)
  l.formatCommon "missing_argument" [name, position]

/-- The reply about an argument of the wrong type. -/
def renderInvalid (f : Fault) (l : Locale) : Run String := do
  let (definition, name, position) ← Run.ofExcept (Value.checked f.argumentDetails)
  let types ← Run.ofExcept (Value.checked (definition.get "types"))
  let listed ← l.listing types "common.argument_types"
  l.formatCommon "invalid_argument_type" [name, position, .text listed]

/-- The reply to a fault. -/
def render (f : Fault) (l : Locale) : Run String :=
  match f.kind with
  | .noSubcommand => l.common "no_subcommand"
  | .missingPermissions => f.renderPermissions l
  | .missingArgument => f.renderMissing l
  | .invalidArgumentType => f.renderInvalid l
  | .plain | .malformedDefinition | .unknownArgumentType => return f.text

end Fault

end ChatCommands
