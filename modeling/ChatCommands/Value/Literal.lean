import ChatCommands.Text.Quoted
import ChatCommands.Value.Basic

/-!
# Written values

A value has two texts.  Its *literal* shows what it is: texts in quotes, containers in brackets,
definitions with the names of their fields.  Its *plain* text is the same but for texts, which
stand for themselves, for permission fields and fault codes, which are written as numbers, and for
frozen maps, which are written as the maps that they hold.

Both texts are written for people to read, and show an integer with all its digits, however many.
Only where the engine itself goes on with a number that it has written is the limit on digits part
of the model: see `Digits.isWritable` and `Permission.missing`.

## Main definitions

* `Value.literal`, `Value.plain` : the two texts.
* `Value.recordLiteral` : the text of a record with named fields.
* `Command.display`, `Argument.display` : the fields that definitions show.
-/

namespace ChatCommands

namespace Value

/-- Items between commas. -/
def commas (items : List String) : String :=
  String.intercalate ", " items

/-- Items in round brackets, a single one followed by a comma. -/
def tupleText (items : List String) : String :=
  match items with
  | [item] => "(" ++ item ++ ",)"
  | _ => "(" ++ commas items ++ ")"

/-- Text in curly brackets. -/
def braced (s : String) : String :=
  "\x7b" ++ s ++ "\x7d"

/-- A set by its written items; an empty set has no brackets of its own. -/
def setText (isFrozen : Bool) (items : List String) : String :=
  match isFrozen, items.isEmpty with
  | true, true => "frozenset()"
  | true, false => "frozenset(" ++ braced (commas items) ++ ")"
  | false, true => "set()"
  | false, false => braced (commas items)

/-- A map by its written entries. -/
def mapText (entries : List String) : String :=
  braced (commas entries)

/-- A record: the name of its type and its named fields in round brackets. -/
def recordLiteral (name : String) (fields : List (String × String)) : String :=
  name ++ "(" ++ commas (fields.map fun f => f.1 ++ "=" ++ f.2) ++ ")"

/-- A fault code with its name and number. -/
def codeLiteral (c : FaultCode) : String :=
  "<FaultCode." ++ c.name ++ ": " ++ toString c.number ++ ">"

def callableLiteral : Callable → String
  | .script s => "<function " ++ s.label ++ ">"
  | .routine name => "<function " ++ name ++ ">"

def styledLiteral (t : StyledText) : String :=
  let spans := t.spans.map fun s =>
    "Span(" ++ toString s.start ++ ", " ++ toString s.stop ++ ", " ++ Text.quote s.style ++ ")"
  "<text " ++ Text.quote t.plain ++ " [" ++ commas spans ++ "] " ++ Text.quote t.style ++ ">"

mutual

/-- The text that shows what a value is. -/
def literal : Value → String
  | .null => "None"
  | .unset => "Unset"
  | .bool b => if b then "True" else "False"
  | .int n => toString n
  | .float x => x.text
  | .text s => Text.quote s
  | .bytes bs => Text.quoteBytes bs
  | .list items => "[" ++ commas (literals items) ++ "]"
  | .tuple items => tupleText (literals items)
  | .set isFrozen items => setText isFrozen (literals items)
  | .map isFrozen entries =>
    let body := mapText (entryLiterals entries)
    if isFrozen then "mappingproxy(" ++ body ++ ")" else body
  | .stream _ _ => "<list_iterator>"
  | .permissions field => Permission.display field
  | .code c => codeLiteral c
  | .holder content => "namespace(value=" ++ literal content ++ ")"
  | .styled t => styledLiteral t
  | .callable c => callableLiteral c
  | .command ⟨_, name, shortcut, required, channel, _, children, slots, _⟩ =>
    recordLiteral "command"
      [("name", literal name), ("shortcut", literal shortcut), ("permissions", literal required),
        ("channel", literal channel), ("subcommands", literal children),
        ("arguments", literal slots)]
  | .argument ⟨_, name, types, variadic, default⟩ =>
    recordLiteral "argument"
      [("name", literal name), ("types", tupleText (literals types)),
        ("variadic", literal variadic), ("default", literal default)]

/-- The literals of a list of values. -/
def literals : List Value → List String
  | [] => []
  | v :: rest => literal v :: literals rest

/-- The literals of the entries of a map. -/
def entryLiterals : List (String × Value) → List String
  | [] => []
  | (key, v) :: rest => (Text.quote key ++ ": " ++ literal v) :: entryLiterals rest

end

/-- The text that a value is inserted as. -/
def plain : Value → String
  | .text s => s
  | .permissions field => toString field
  | .code c => toString c.number
  | .styled t => t.plain
  | .map _ entries => mapText (entryLiterals entries)
  | v => v.literal

end Value

namespace CommandOf

/-- The fields that a command shows. -/
def display (c : Command) : List (String × Value) :=
  [("name", c.name), ("shortcut", c.shortcut), ("permissions", c.permissions),
    ("channel", c.channel), ("subcommands", c.subcommands), ("arguments", c.arguments)]

/-- Every field of a command. -/
def fields (c : Command) : List (String × Value) :=
  [("name", c.name), ("shortcut", c.shortcut), ("permissions", c.permissions),
    ("channel", c.channel), ("guard", c.guard), ("subcommands", c.subcommands),
    ("arguments", c.arguments), ("handler", c.handler)]

end CommandOf

namespace ArgumentOf

/-- The fields of an argument, all of which it shows. -/
def display (a : Argument) : List (String × Value) :=
  [("name", a.name), ("types", .tuple a.types), ("variadic", a.variadic), ("default", a.default)]

end ArgumentOf

end ChatCommands
