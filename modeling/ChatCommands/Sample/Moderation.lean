import ChatCommands.Package.Source
import ChatCommands.Script

/-!
# A sample package

A package with moderation commands and a command that only answers.

## Main definitions

* `Sample.moderation`, `Sample.utility` : the modules of the package.
* `Sample.routines` : their handlers.
-/

namespace ChatCommands.Sample

/-- A text as a term. -/
def word (s : String) : Term :=
  .const (.text s)

/-- A callable that is run by name. -/
def handler (name : String) : Term :=
  .const (.callable (.routine name))

/-- An argument of one type. -/
def slot (name type : String) (fields : List (String × Term)) : Term :=
  .argument (word name) [word type] fields

/-- The permission of a bit as a term. -/
def permission (bit : Nat) : Term :=
  .const (.permissions (Nat.pow 2 bit))

/-- Commands that put members out; one of them is below another one. -/
def moderation (moduleName : String) : ModuleSource :=
  ⟨none,
    [("kick", .term (.command
        [("name", word "kick"), ("permissions", permission 1),
          ("arguments", .list [slot "member" "user" []]), ("handler", handler "expel")])),
      ("add", .term (.command
        [("name", word "add"),
          ("arguments", .list
            [slot "member" "user" [], slot "reason" "string" [("default", word "no reason")]]),
          ("handler", handler "banish")])),
      ("ban", .term (.command
        [("name", word "ban"), ("permissions", permission 2),
          ("subcommands", .list [.variable moduleName "add"])]))]⟩

/-- A command that only answers. -/
def utility : ModuleSource :=
  ⟨none,
    [("ping", .term (.command
      [("name", word "ping"), ("arguments", .tuple []), ("handler", handler "ping")]))]⟩

/-- Replies and ends without a result. -/
def say (text : String) : Run Value := do
  Run.reply text
  return .null

/-- The handlers. -/
def routines : List (String × Routine) :=
  [("expel", fun _ _ _ args =>
      match args with
      | member :: _ => say ("kicked " ++ member.plain)
      | [] => return .null),
    ("banish", fun _ _ _ args =>
      match args with
      | member :: reason :: _ => say ("banned " ++ member.plain ++ ": " ++ reason.plain)
      | _ => return .null),
    ("ping", fun _ _ _ _ => say "pong")]

end ChatCommands.Sample
