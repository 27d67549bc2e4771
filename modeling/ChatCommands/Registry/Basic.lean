import ChatCommands.Command.Dispatch
import ChatCommands.Command.Valid

/-!
# The registry

The registry holds the root commands that a host dispatches messages against.  Trees are checked
when they are registered, so that dispatch never meets a malformed one; when several roots have
the same name, the first one registered is the one that is run.

## Main definitions

* `Registry` : the registered roots, in order.
* `Registry.register` : checks roots and appends them.
* `Registry.dispatch` : dispatches a message against the roots.
-/

namespace ChatCommands

/-- The registered roots, in order. -/
structure Registry where
  commands : List Command

namespace Registry

/-- A registry without roots. -/
def empty : Registry := ⟨[]⟩

/-- The roots as values. -/
def values (r : Registry) : List Value :=
  r.commands.map Value.command

/-- The roots as they are dispatched against. -/
def siblings (r : Registry) : Value :=
  .tuple r.values

def malformedFault (v : Value) : Fault :=
  Fault.make .malformedDefinition (some ("malformed command definition " ++ v.literal)) []

/-- The commands among some values, all of which have to be well formed. -/
def checked (table : Converters) : List Value → Except Error (List Command)
  | [] => .ok []
  | v :: rest =>
    match v, isValid table v with
    | .command c, true => do
      let others ← checked table rest
      return c :: others
    | v, _ => .error (.fault (malformedFault v))

/-- Logs the registration of a command, with a warning when its name is taken. -/
def announce (names : List Value) (c : Command) : Run Unit := do
  if c.name.isIn names then
    Run.log .warning .registry
      ("command " ++ c.name.literal ++ " is already registered and shadows the new one")
  Run.log .debug .registry ("registered " ++ c.name.literal)

/-- Logs the registration of commands one after another; each takes its name. -/
def announceAll (names : List Value) : List Command → Run Unit
  | [] => return ()
  | c :: rest => do
    announce names c
    announceAll (names ++ [c.name]) rest

/-- The names of the roots. -/
def names (r : Registry) : List Value :=
  r.commands.map fun c => c.name

/-- Checks roots and appends them; when one is malformed, none is registered. -/
def register (table : Converters) (r : Registry) (roots : List Value) : Run Registry := do
  let commands ← Run.ofExcept (checked table roots)
  announceAll r.names commands
  return ⟨r.commands ++ commands⟩

/-- A registry with some roots. -/
def ofList (table : Converters) (roots : List Value) : Run Registry :=
  if roots.isEmpty then return empty else empty.register table roots

/-- The text of a message after the lead of the guild; a message without the lead is none of the
engine's business. -/
def afterLead (config : GuildConfig) (content : Value) : Except Misuse (Option Value) :=
  match config.lead with
  | none => .ok (some content)
  | some lead =>
    match content with
    | .text s =>
      if lead.toList.isPrefixOf s.toList then
        .ok (some (.text (String.ofList (s.toList.drop lead.length))))
      else .ok none
    | .bytes _ => .error .startForBytes
    | v => .error (.noAttribute v.typeName "startswith")

/-- Dispatches a message against the roots. -/
def dispatch (E : Engine) (r : Registry) (m : Message) (config : GuildConfig) (l : Locale) :
    Run Bool := do
  match ← Run.ofExcept (Value.checked (afterLead config m.content)) with
  | none => return false
  | some content =>
    let tokens ← Run.ofExcept ((tokenize content).mapError .refusal)
    ChatCommands.dispatch E m config l (.list (tokens.map Value.text)) r.siblings

/-- How a registry is shown. -/
def display (r : Registry) : String :=
  Value.recordLiteral "registry" [("commands", Value.tupleText (Value.literals r.values))]

end Registry

end ChatCommands
