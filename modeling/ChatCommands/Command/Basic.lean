import ChatCommands.Error
import ChatCommands.Permission.Requirement
import ChatCommands.Text.Blank

/-!
# Commands

A command is a node of a tree: it has a name, may require permissions and a guard's consent, and
leads on to subcommands, to a handler, or to both.  Every field is kept as it was given, but for
containers, of which a snapshot is kept, and permissions, which are resolved to a field.

## Main definitions

* `CommandFields`, `Command.make` : a command from given values.
* `Command.decorate` : a command around a handler.
* `Command.matchValue`, `Command.matchGiven`, `Command.accepts` : whether a token selects a command.
* `tokenize` : the tokens of a message.
-/

namespace ChatCommands

/-- The values given for the fields of a command; only the name is always given. -/
structure CommandFields where
  name : Value
  shortcut : Option Value
  permissions : Option Value
  channel : Option Value
  guard : Option Value
  subcommands : Option Value
  arguments : Option Value
  handler : Option Value

namespace CommandOf

/-- The value of a field that may be absent or `unset`: the null value in either case. -/
def given (v : Option Value) : Value :=
  (v.getD .null).orElse .null

/-- The permissions of a command: none, an integer as it was given, or a resolved field. -/
def permissionsOf (v : Value) : Except Refusal Value :=
  if v.isNull ∨ v.integer?.isSome then .ok v
  else (Permission.resolve v).map Value.permissions

/-- A command from the values given for its fields. -/
def make (serial : Nat) (f : CommandFields) : Except Refusal Command := do
  let required ← permissionsOf (f.permissions.getD .null)
  return ⟨serial, f.name, given f.shortcut, required, f.channel.getD (.bool false), given f.guard,
    (given f.subcommands).frozen, (given f.arguments).frozen, given f.handler⟩

/-- A command around a handler, which must be callable. -/
def decorate (serial : Nat) (f : CommandFields) (handler : Value) : Except Refusal Command :=
  if handler.isCallable then make serial { f with handler := some handler }
  else .error .handlerNotCallable

/-- Whether a token selects a command, as a value: the shortcut counts only when `shortcuts` is
true, and otherwise the answer is `shortcuts` itself. -/
def matchValue (c : Command) (token shortcuts : Value) : Value :=
  if token.equals c.name then .bool true
  else if !shortcuts.isTruthy then shortcuts
  else .bool (!c.shortcut.isNull && token.equals c.shortcut)

/-- Whether given values select a command: a token and, if given, whether shortcuts count. -/
def matchGiven (c : Command) (given : List Value) : Except Refusal Value :=
  match given with
  | [] => .error (.argumentMissing "Command.matches" "token")
  | [token] => .ok (c.matchValue token (.bool false))
  | [token, shortcuts] => .ok (c.matchValue token shortcuts)
  | given => .error (.argumentCount "Command.matches" 2 3 (given.length + 1))

/-- Whether a token selects a command by its name, or by its shortcut when shortcuts count. -/
def accepts (c : Command) (token : Value) (shortcuts : Bool) : Bool :=
  token.equals c.name || (shortcuts && !c.shortcut.isNull && token.equals c.shortcut)

end CommandOf

/-- The tokens of a message: its words. -/
def tokenize (content : Value) : Except Refusal (List String) :=
  match content with
  | .text s => .ok (Text.words s)
  | _ => .error .contentNotText

end ChatCommands
