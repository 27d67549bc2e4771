import ChatCommands.Argument.Strategy
import ChatCommands.Run
import ChatCommands.Text.Blank

/-!
# The table of strategies

A type tag names a strategy.  Hosts may add tags and replace the strategy of a tag; tags are never
taken away.

## Main definitions

* `Converters` : tags with their strategies.
* `Converters.standard` : the built-in table.
* `Converters.find` : the strategy of a tag.
* `Converters.register` : the table with a tag set.
-/

namespace ChatCommands

/-- Tags with their strategies. -/
abbrev Converters := List (String × Strategy)

namespace Converters

/-- The built-in table. -/
def standard : Converters :=
  [("string", Strategy.text), ("number", Strategy.number), ("boolean", Strategy.boolean),
    ("channel", Strategy.mention .channel), ("user", Strategy.mention .user),
    ("role", Strategy.mention .role)]

/-- Whether a tag is registered. -/
def has (table : Converters) (tag : String) : Bool :=
  (table.lookup tag).isSome

/-- The strategy of a tag.  Only texts are tags; a value that cannot be a key is refused. -/
def find (table : Converters) (tag : Value) : Except Misuse (Option Strategy) :=
  match tag with
  | .text s => .ok (table.lookup s)
  | v => v.hashable.map fun _ => none

/-- The table with the strategy of a tag set. -/
def put (tag : String) (strategy : Strategy) : Converters → Converters
  | [] => [(tag, strategy)]
  | e :: rest => if e.1 = tag then (tag, strategy) :: rest else e :: put tag strategy rest

/-- The tag that a value names, without blanks at its ends. -/
def tagOf : Value → Except Error String
  | .text s =>
    let tag := Text.trim s
    if tag.isEmpty then .error (.refusal .tagEmpty) else .ok tag
  | _ => .error (.refusal .tagNotText)

/-- Logs that the strategy of a tag is replaced, when it has one. -/
def logReplaced (table : Converters) (tag : String) : Run Unit :=
  if table.has tag then Run.log .debug .arguments ("replacing converter for " ++ Text.quote tag)
  else return ()

/-- Registers a strategy under a tag.  Replacing one is logged. -/
def register (table : Converters) (tag : Value) (strategy : Option Strategy) :
    Converters × Run Unit :=
  match tagOf tag, strategy with
  | .error e, _ => (table, Run.fail e)
  | .ok _, none => (table, Run.fail (.refusal .strategyNotCallable))
  | .ok tag, some strategy => (table.put tag strategy, logReplaced table tag)

/-- The tags in order. -/
def tags (table : Converters) : List String :=
  (table.map Prod.fst).mergeSort fun a b => decide (a ≤ b)

end Converters

end ChatCommands
