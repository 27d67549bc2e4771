import ChatCommands.Host
import ChatCommands.Run

/-!
# The console

A host without a chat shows the events of a run on its console.  What is shown to operators, and
the log from its level on, goes to the error console; answers go to the output.

## Main definitions

* `Display.marked` : an answer with the message in dimmed letters, in console markup.
* `Display.lines` : what is shown, in lines without styles.
* `Event.lines` : where an event is shown, and in which lines.
-/

namespace ChatCommands

/-- A message in dimmed letters and the text that answers it, in console markup. -/
def Display.marked (content text : String) : String :=
  "[dim]" ++ content ++ "[/dim] → " ++ text

/-- What is shown, in lines without styles. -/
def Display.lines : Display → List String
  | .panel title body => (title :: body).map StyledText.plain
  | .group body => body.map StyledText.plain
  | .line s => [s]
  | .answer content text => [content ++ " → " ++ text]

/-- The weight of a level as a number; the log shows the records from its own level on. -/
def LogLevel.weight : LogLevel → Nat
  | .debug => 10
  | .info => 20
  | .warning => 30

/-- Where something is shown. -/
inductive Outlet
  | output
  | error
deriving DecidableEq

/-- Where an event is shown, and in which lines.  Faults are shown to operators. -/
def Event.lines (isDevelopment : Bool) : Event → Outlet × List String
  | .log level source text =>
    if isDevelopment || LogLevel.info.weight ≤ level.weight then
      (.error, [source.name ++ ": " ++ text])
    else (.error, [])
  | .reply text => (.output, [text])
  | .console (.answer content text) => (.output, (Display.answer content text).lines)
  | .console shown => (.error, shown.lines)
  | .call _ _ _ => (.output, [])
  | .replaced _ => (.output, [])
  | .triggered _ => (.output, [])

end ChatCommands
