import ChatCommands.Config.GuildConfig
import ChatCommands.Value.Part

/-!
# Definitions of all kinds

Commands, arguments and guild configurations are all definitions: they are shown by their type and
their fields, and cannot be changed.  What is in a container when a definition is made stays in
the definition, whatever becomes of the container.

## Main definitions

* `Definition` : a definition of any kind.
* `Definition.display` : how it is shown.
* `Definition.afterEmptying` : a field after the container given for it has been emptied.
-/

namespace ChatCommands

/-- A definition of any kind. -/
inductive Definition
  | command (c : Command)
  | argument (a : Argument)
  | guildConfig (g : GuildConfig)

namespace Definition

/-- The shown name of the type. -/
def typeName : Definition → String
  | .command _ => "command"
  | .argument _ => "argument"
  | .guildConfig _ => "guild-config"

/-- The fields that are shown. -/
def shown : Definition → List (String × Value)
  | .command c => CommandOf.display c
  | .argument a => ArgumentOf.display a
  | .guildConfig g => g.display

/-- What is read under a name. -/
def part (name : String) : Definition → Except Misuse Value
  | .command c => (Value.command c).get name
  | .argument a => (Value.argument a).get name
  | .guildConfig g =>
    let described := [("__typename__", Value.text (typeName (.guildConfig g)))]
    match (g.display ++ Value.slots g.display ++ described).lookup name with
    | some v => .ok v
    | none => .error (.noAttribute "GuildConfig" name)

/-- How a definition is shown. -/
def display (d : Definition) : String :=
  Value.recordLiteral d.typeName (d.shown.map fun f => (f.1, f.2.literal))

/-- The fields of which a snapshot is kept, and the slots that hold them. -/
def snapshots : List String :=
  ["subcommands", "arguments", "default", "_subcommands", "_arguments", "_default"]

/-- A field after the container that was given for it has been emptied: fields of which no
snapshot is kept share their container with whoever gave it. -/
def afterEmptying (field : String) (v : Value) : Value :=
  if snapshots.contains field then v else v.emptied

end Definition

end ChatCommands
