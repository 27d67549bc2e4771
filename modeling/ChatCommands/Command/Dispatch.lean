import ChatCommands.Argument.Parse
import ChatCommands.Command.Basic
import ChatCommands.Config.GuildConfig
import ChatCommands.Permission.Gate

/-!
# Dispatch

The first token of a message names one of the sibling commands; the first sibling that it selects
is committed to.  Its permissions and its guard are checked, then its subcommands are tried with
the remaining tokens, and only when none of them takes over is its own handler run with the
remaining tokens as arguments.

Every command is given the section of the locale that belongs to it.  Below a command without a
section the view is that of the nearest ancestor with one, and is not narrowed again.

## Main definitions

* `Engine` : what dispatch depends on besides the message.
* `select` : the sibling that a token selects.
* `dispatch` : runs the command that the tokens name.
-/

namespace ChatCommands

/-- What dispatch depends on: the host, the strategies, and how callables are run. -/
structure Engine where
  host : Host
  converters : Converters
  invoke : Message → GuildConfig → Locale → Callable → List Value → Run Value

namespace Engine

/-- Calls a value, which must be callable, in a coroutine of its own. -/
def call (E : Engine) (m : Message) (config : GuildConfig) (l : Locale) (f : Value)
    (args : List Value) : Run Value :=
  match f with
  | .callable c => (E.invoke m config l c args).mapError Error.passedOn
  | v => Run.fail (.misuse (.notCallable v.typeName))

end Engine

/-- The first command among siblings that a token selects. -/
def select (shortcuts : Bool) (token : Value) : List Value → Except Misuse (Option Command)
  | [] => .ok none
  | .command c :: rest =>
    if c.accepts token shortcuts then .ok (some c) else select shortcuts token rest
  | v :: _ => .error (.noAttribute v.typeName "matches")

/-- The sibling that a token selects; the siblings are a value that can be gone through. -/
def selectAmong (shortcuts : Bool) (token siblings : Value) : Except Misuse (Option Command) := do
  let items ← siblings.items
  select shortcuts token items

/-- Logs a match. -/
def logMatch (c : Command) (token : Value) : Run Unit :=
  Run.log .debug .commands ("matched " ++ c.name.literal ++ " with " ++ token.literal)

/-- Whether the author is blocked by the permissions of a command. -/
def blocks (E : Engine) (m : Message) (l : Locale) (c : Command) : Run Bool :=
  if c.permissions.isNull then return false
  else Permission.gate E.host m l c.permissions c.channel.isTruthy

/-- The view that is handed to a command, and whether it is the command's own section. -/
def viewFor (l : Locale) (narrows : Bool) (c : Command) : Except Misuse (Locale × Bool) :=
  if narrows then do
    match ← l.sectionOf? c.name with
    | some v => return (v, true)
    | none => return (l, false)
  else .ok (l, false)

/-- Whether the guard of a command rejects the message. -/
def rejects (E : Engine) (m : Message) (config : GuildConfig) (view : Locale) (c : Command) :
    Run Bool :=
  if c.guard.isNull then return false
  else do
    let verdict ← E.call m config view c.guard []
    if verdict.isTruthy then return false
    else
      Run.log .info .commands ("guard of " ++ c.name.literal ++ " rejected the invocation")
      return true

/-- The fault of a command that only leads on to subcommands. -/
def noSubcommandFault (c : Command) : Fault :=
  Fault.make .noSubcommand (some (c.name.literal ++ " requires a subcommand")) []

/-- Whether an error of reading arguments is answered by a reply. -/
def Error.answered? : Error → Option Fault
  | .fault f =>
    match f.kind with
    | .missingArgument | .invalidArgumentType => some f
    | _ => none
  | _ => none

/-- Runs the handler of a command on the remaining tokens. -/
def execute (E : Engine) (m : Message) (config : GuildConfig) (l view : Locale) (c : Command)
    (rest : List Value) : Run Unit :=
  if c.handler.isNull then (noSubcommandFault c).trigger E.host l []
  else
    match parse E.converters rest c.arguments with
    | .ok args => do
      Run.log .debug .commands
        ("running " ++ c.name.literal ++ " with " ++ toString args.length ++ " argument(s)")
      let _ ← E.call m config view c.handler args
    | .error e =>
      match e.answered? with
      | some f => f.trigger E.host l []
      | none => Run.fail e.passedOn

/-- Dispatches tokens among siblings, with the view of the parent level; `narrows` says whether
that view may be narrowed to the section of a command. -/
def dispatchFrom (E : Engine) (m : Message) (config : GuildConfig) :
    List Value → Value → Locale → Bool → Run Bool
  | [], _, _, _ => return false
  | token :: rest, siblings, l, narrows => do
    match ← Run.ofExcept (Value.checked (selectAmong config.shortcuts token siblings)) with
    | none => return false
    | some c =>
      logMatch c token
      if ← blocks E m l c then return true
      let (view, narrowed) ← Run.ofExcept (Value.checked (viewFor l narrows c))
      if ← rejects E m config view c then return true
      let handled ←
        if c.subcommands.isNull then pure false
        else dispatchFrom E m config rest c.subcommands view narrowed
      if handled then return true
      execute E m config l view c rest
      return true

/-- The tokens that a value holds, the first one apart from the others. -/
def tokensOf (tokens : Value) : Except Error (List Value) :=
  if tokens.isTruthy then
    match tokens.elements? with
    | none => .error (.misuse (.notUnpackable tokens.typeName))
    | some [] => .error (.refusal .tooFewTokens)
    | some items => .ok items
  else .ok []

/-- Runs the command that the tokens name.  The answer is false when no command matches. -/
def dispatch (E : Engine) (m : Message) (config : GuildConfig) (l : Locale)
    (tokens siblings : Value) : Run Bool := do
  let tokens ← Run.ofExcept (tokensOf tokens)
  dispatchFrom E m config tokens siblings l true

end ChatCommands
