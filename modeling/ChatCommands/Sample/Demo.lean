import ChatCommands.Locale.Listing
import ChatCommands.Locale.Source
import ChatCommands.Registry.Basic
import ChatCommands.Sample.Moderation

/-!
# A demonstration

A small host with a command that adds numbers and one that gives roles.  Its replies are lines on
the console, each after the message that it answers.

## Main definitions

* `Demo.registry` : the commands of the demonstration.
* `Demo.answer` : dispatches one message.
* `Demo.session` : dispatches the messages of the demonstration.
-/

namespace ChatCommands.Demo

open Sample (word handler slot permission)

/-- The command that adds numbers. -/
def calculate : Term :=
  .command
    [("name", word "calculate"), ("shortcut", word "calc"),
      ("arguments", .list [slot "terms" "number" [("variadic", .const (.bool true))]]),
      ("handler", handler "calculate")]

/-- The command that gives roles to members. -/
def role : Term :=
  .command
    [("name", word "role"), ("guard", handler "members_only"),
      ("subcommands", .list
        [.command
          [("name", word "add"), ("permissions", permission 28),
            ("arguments", .list
              [slot "member" "user" [], slot "roles" "role" [("variadic", .const (.bool true))]]),
            ("handler", handler "add")]])]

/-- The texts of the demonstration. -/
def locale : Locale :=
  ⟨.map false
    [("commands", .map false
      [("calculate", .map false [("result", .text "\x7b0\x7d = \x7b1\x7d")]),
        ("role", .map false
          [("subcommands", .map false
            [("add", .map false
              [("added", .text "Gave \x7b0\x7d to <@\x7b1\x7d>.")])])])]),
      ("common", ((Locale.defaults.entry? "common").getD (.map true [])))], []⟩

/-- The sum of numbers from left to right; no numbers have the integer sum zero. -/
def sum (terms : List Value) : Value :=
  terms.foldl
    (fun total v =>
      match total, v with
      | .float x, .float y => .float (x.add y)
      | .int n, .float y => .float ((Binary64.ofInt n).add y)
      | total, _ => total)
    (.int 0)

/-- Formats a text of the view and replies with it. -/
def sayText (l : Locale) (key : String) (args : List Value) : Run Value := do
  let text ← l.format key args
  Sample.say text

/-- The handlers and the guard. -/
def routines : List (String × Routine) :=
  [("calculate", fun _ _ l args => do
      let terms ← Run.ofExcept (Value.checked (args.headD (.list [])).items)
      let listed := String.intercalate " + " (terms.map Value.plain)
      sayText l "result" [.text listed, sum terms]),
    ("members_only", fun m _ _ _ => return .bool !m.isBot),
    ("add", fun _ _ l args =>
      match args with
      | [member, roles] => do
        let listed ← Run.ofExcept (Value.checked
          (joined roles ", " fun r => .ok ("<@&" ++ r.plain ++ ">")))
        sayText l "added" [.text listed, member]
      | _ => return .null)]

/-- The engine of the demonstration. -/
def engine (h : Host) : Engine :=
  ⟨h, Converters.standard, performWith routines⟩

/-- The commands of the demonstration, registered one after the other. -/
def registry : Run Registry := do
  let (values, _) ← Run.ofExcept ((Term.buildAll Scope.empty [calculate, role]).run 0)
  values.foldlM (fun r v => r.register Converters.standard [v]) Registry.empty

/-- What the host of the demonstration sets. -/
def host (environment : Option String) : Host :=
  { Host.bare with program := some (.text "helmsman-demo"), environment }

/-- Shortcuts count in the demonstration. -/
def config : GuildConfig := { GuildConfig.standard with shortcuts := true }

/-- A line on the console after the message that it belongs to. -/
def line (content : Value) (text : String) : Event :=
  .console (.answer content.literal text)

/-- A run whose replies are lines on the console. -/
def onConsole {α : Type} (content : Value) (r : Run α) : Run α :=
  ⟨r.events.map fun e =>
      match e with
      | .reply text => line content text
      | e => e,
    r.outcome⟩

/-- A message of the demonstration. -/
def message (content : Value) (held : Nat) (isBot : Bool) : Message :=
  ⟨content, .int 1, isBot, .permissions held, .permissions held, .text "general"⟩

/-- Dispatches one message. -/
def answer (h : Host) (r : Registry) (m : Message) : Run Bool :=
  onConsole m.content (r.dispatch (engine h) m config locale)

/-- The messages of the demonstration, with what their authors hold. -/
def messages : List (String × Nat) :=
  [("!calc 1 2.5 -3", 0), ("!role add <@42> <@&7> 8", Nat.pow 2 28),
    ("!role add <@42>", 0),
    ("!role add", Permission.administrator), ("!role add 42 admins", Permission.administrator),
    ("!role", 0), ("!unknown", 0)]

/-- Dispatches the messages of the demonstration and reports those that match no command. -/
def session (h : Host) : Run Unit := do
  let r ← registry
  Run.forAll messages fun (content, held) => do
    let handled ← answer h r (message (.text content) held false)
    if handled then return ()
    else Run.emit (line (.text content) "no match")

end ChatCommands.Demo
