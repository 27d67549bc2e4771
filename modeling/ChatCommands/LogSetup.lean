import ChatCommands.Config.Environment
import ChatCommands.Error

/-!
# Setting up the log

The log has a level and handlers.  Setting it up sets the level, and puts a handler that writes to
a console behind the others unless one of them does already; an invalid level changes nothing.

## Main definitions

* `LogHandler` : a handler, which writes to a console or elsewhere.
* `LogSetup` : the level and the handlers.
* `LogSetup.configureOn` : sets the log up on a console.
* `LogSetup.configure` : the same for a host with one console.
-/

namespace ChatCommands

/-- A console: the error console, or one of the host's own. -/
inductive LogConsole
  | error
  | own (number : Nat)
deriving DecidableEq

/-- The console for records: the given one, or the error console when none is given. -/
def LogConsole.ofGiven (console : Option Nat) : LogConsole :=
  match console with
  | some n => .own n
  | none => .error

/-- A handler of the log: it writes records in some format to a console, or does something else. -/
inductive LogHandler
  | console (target : LogConsole) (format : String)
  | other (label : String)
deriving DecidableEq

/-- The console that a handler writes to. -/
def LogHandler.console? : LogHandler → Option LogConsole
  | .console target _ => some target
  | .other _ => none

/-- The level of the log and its handlers, in the order in which they were put there. -/
structure LogSetup where
  level : Value
  attached : List LogHandler

namespace LogSetup

/-- A log that has not been set up. -/
def untouched : LogSetup := ⟨.int 0, []⟩

/-- The name of the log. -/
def name : String := "helmsman"

/-- How the handler writes a record. -/
def recordFormat : String := "%(name)s: %(message)s"

/-- The names of levels. -/
def levelNames : List (String × Int) :=
  [("CRITICAL", 50), ("FATAL", 50), ("ERROR", 40), ("WARN", 30), ("WARNING", 30), ("INFO", 20),
    ("DEBUG", 10), ("NOTSET", 0)]

/-- The level of development and the level of production. -/
def standardLevel (environment : Option String) : Value :=
  .int (if Environment.isDevelopment environment then 10 else 20)

/-- The level that a value stands for: an integer as it is, or the level of a name. -/
def levelOf (v : Value) : Except Refusal Value :=
  match v, v.integer? with
  | v, some _ => .ok v
  | .text s, none =>
    match levelNames.lookup s with
    | some n => .ok (.int n)
    | none => .error (.unknownLevel (Text.quote s))
  | v, none => .error (.levelKind v.literal)

/-- The log with a handler on a console; it stays as it is when a handler is on one already. -/
def attach (s : LogSetup) (target : LogConsole) : LogSetup :=
  if s.attached.any fun h => h.console?.isSome then s
  else { s with attached := s.attached ++ [.console target recordFormat] }

/-- Sets the log up with a level, the standard one when it is `unset`, and on a console, the error
console when none is given. -/
def configureOn (s : LogSetup) (environment : Option String) (level : Value)
    (console : Option Nat) : LogSetup × Except Refusal Unit :=
  match levelOf (level.orElse (standardLevel environment)) with
  | .error r => (s, .error r)
  | .ok level => (({ s with level := level } : LogSetup).attach (.ofGiven console), .ok ())

/-- Sets the log up for a host that has a single console of its own. -/
def configure (s : LogSetup) (environment : Option String) (level : Value)
    (hasConsole : Bool) : LogSetup × Except Refusal Unit :=
  s.configureOn environment level (if hasConsole then some 0 else none)

/-- The consoles that the handlers write to. -/
def consoles (s : LogSetup) : List LogConsole :=
  s.attached.filterMap LogHandler.console?

/-- For each handler on a console whether that is the error console. -/
def handlers (s : LogSetup) : List Bool :=
  s.consoles.map fun c => c = .error

end LogSetup

end ChatCommands
