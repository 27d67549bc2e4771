import ChatCommands.Error

/-!
# Runs

A run of the engine is observed by its events, in the order they happen, and by its outcome: a
value, or the error that ended it.  Events in front of an error are kept.

## Main definitions

* `Event` : what can be observed.
* `Run` : events with an outcome.
* `Run.log`, `Run.reply` : the runs of one event.
-/

namespace ChatCommands

/-- The weight of a log record. -/
inductive LogLevel
  | debug
  | info
  | warning
deriving DecidableEq

/-- The parts of the engine that write log records. -/
inductive LogSource
  | arguments
  | commands
  | faults
  | locales
  | permissions
  | registry
  | subscriptions
deriving DecidableEq

namespace LogSource

/-- The name of a source in the log. -/
def name : LogSource → String
  | .arguments => "helmsman.arguments"
  | .commands => "helmsman.commands"
  | .faults => "helmsman.faults"
  | .locales => "helmsman.locales"
  | .permissions => "helmsman.permissions"
  | .registry => "helmsman.registry"
  | .subscriptions => "helmsman.subscriptions"

end LogSource

/-- What is shown on a console: a panel with a title, a group of texts, a plain line, or a message
with the text that answers it. -/
inductive Display
  | panel (title : StyledText) (body : List StyledText)
  | group (body : List StyledText)
  | line (s : String)
  | answer (content text : String)
deriving DecidableEq

/-- What can be observed of a run. -/
inductive Event
  | log (level : LogLevel) (source : LogSource) (text : String)
  | reply (text : String)
  | call (label path : String) (args : List Value)
  | console (shown : Display)
  | replaced (names : List String)
  | triggered (path : String)

/-- The events of an operation and what it ends with. -/
structure Run (α : Type) where
  events : List Event
  outcome : Except Error α

namespace Run

variable {α β : Type}

/-- A run without events. -/
def ofExcept (r : Except Error α) : Run α :=
  ⟨[], r⟩

/-- A run that ends with a value at once. -/
def done (a : α) : Run α :=
  ⟨[], .ok a⟩

/-- A run that ends with an error at once. -/
def fail (e : Error) : Run α :=
  ⟨[], .error e⟩

/-- One run after another; an error ends both. -/
def andThen (r : Run α) (next : α → Run β) : Run β :=
  match r.outcome with
  | .error e => ⟨r.events, .error e⟩
  | .ok a =>
    let s := next a
    ⟨r.events ++ s.events, s.outcome⟩

instance : Monad Run where
  pure := done
  bind := andThen

/-- A run that ends with another error, if it ends with one. -/
def mapError (f : Error → Error) (r : Run α) : Run α :=
  ⟨r.events, r.outcome.mapError f⟩

/-- The run of one event. -/
def emit (e : Event) : Run Unit :=
  ⟨[e], .ok ()⟩

/-- Writes a log record. -/
def log (level : LogLevel) (source : LogSource) (text : String) : Run Unit :=
  emit (.log level source text)

/-- Replies to the message. -/
def reply (text : String) : Run Unit :=
  emit (.reply text)

/-- The runs of a list of operations, one after another. -/
def forAll (items : List α) (operation : α → Run Unit) : Run Unit :=
  match items with
  | [] => done ()
  | a :: rest => (operation a).andThen fun _ => forAll rest operation

/-- The run of each item, one after another, with the list of their values. -/
def mapAll (items : List α) (operation : α → Run β) : Run (List β) :=
  match items with
  | [] => done []
  | a :: rest =>
    (operation a).andThen fun b => (mapAll rest operation).andThen fun bs => done (b :: bs)

end Run

end ChatCommands
