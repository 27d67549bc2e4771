import ChatCommands.Fault.Panel
import ChatCommands.Fault.Reply

/-!
# Surfacing faults

A fault is surfaced to the message that caused it: it is logged, shown on the console in
development, and answered by exactly one reply.  Any other object that can be triggered and
replaced is surfaced by its own means; an object that cannot is refused.

## Main definitions

* `Subject` : what can be asked to be surfaced.
* `Fault.trigger` : surfaces a fault.
* `Subject.trigger` : surfaces anything.
-/

namespace ChatCommands

/-- What can be asked to be surfaced: a fault, an object with means of its own, given by the name of
its type and its text, or one without. -/
inductive Subject
  | fault (f : Fault)
  | foreign (type text : String)
  | inert

/-- How the code of a fault is logged. -/
def Fault.loggedCode (h : Host) (f : Fault) : String :=
  match f.option? "code" with
  | some (.code c) => h.label c
  | _ => "-"

/-- Logs what is surfaced. -/
def logFault (code text : String) : Run Unit :=
  Run.log .info .faults ("fault " ++ code ++ ": " ++ text)

/-- Surfaces a fault with some options overridden. -/
def Fault.trigger (h : Host) (l : Locale) (given : Fault) (options : Entries) : Run Unit := do
  let f := given.replace options
  logFault (f.loggedCode h) f.messageValue.plain
  if h.isDevelopment then
    let shown ← Run.ofExcept (Value.checked (f.panel h))
    Run.emit (.console shown)
  let text ← f.render l
  Run.reply text

/-- Surfaces anything. -/
def Subject.trigger (h : Host) (l : Locale) (s : Subject) (options : Entries) : Run Unit :=
  match s with
  | .fault f => do
    let replaced ← Run.ofExcept ((f.replaceWith [] options).mapError .refusal)
    replaced.trigger h l []
  | .foreign type text => do
    if Fault.namesReceiver options then
      Run.fail (.refusal (.argumentRepeated (type ++ ".__replace__") "self"))
    Run.emit (.replaced ((options.map Prod.fst).mergeSort fun a b => decide (a ≤ b)))
    logFault "-" text
    if h.isDevelopment then Run.emit (.console (.line text))
    Run.emit (.triggered l.pathText)
  | .inert => Run.fail (.refusal .noTrigger)

end ChatCommands
