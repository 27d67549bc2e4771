import ChatCommands.Config.GuildConfig
import ChatCommands.Locale.Basic
import ChatCommands.Message

/-!
# Running callables

A scripted callable reports that it was called, with the view and the arguments it got.  If it
waits, it then sends its replies and the localized texts it formats with its arguments.  It ends
with its failure or with its result.  A routine is run by name.

## Main definitions

* `Routine` : what a named routine does.
* `Script.perform` : runs a scripted callable.
* `performWith` : runs any callable, given the routines.
-/

namespace ChatCommands

/-- What a routine does with a message, a configuration, a view and arguments. -/
abbrev Routine := Message → GuildConfig → Locale → List Value → Run Value

namespace ScriptOf

/-- How a script ends. -/
def ending (s : Script) : Except Error Value :=
  match s.failure with
  | some f => .error f.toError
  | none => .ok s.result

/-- Sends the replies of a script that waits. -/
def answer (s : Script) (l : Locale) (args : List Value) : Run Unit := do
  Run.forAll s.replies Run.reply
  Run.forAll s.formats fun key => do
    let text ← l.format key args
    Run.reply text

/-- Runs a script. -/
def perform (s : Script) (l : Locale) (args : List Value) : Run Value := do
  Run.emit (.call s.label l.pathText args)
  if s.waits then s.answer l args
  Run.ofExcept s.ending

end ScriptOf

/-- Runs a callable; `routines` are the routines by name. -/
def performWith (routines : List (String × Routine)) (m : Message) (config : GuildConfig)
    (l : Locale) (c : Callable) (args : List Value) : Run Value :=
  match c with
  | .script s => s.perform l args
  | .routine name =>
    match routines.lookup name with
    | some run => run m config l args
    | none => Run.done .null

end ChatCommands
