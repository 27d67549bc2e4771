import ChatCommands.Fault.Basic
import ChatCommands.Document.Error
import ChatCommands.Refusal
import ChatCommands.Template.Error
import ChatCommands.Value.Part

/-!
# Errors

Everything that can end an operation: a fault, a refusal, a misused value, a template or a
document that cannot be read, and whatever a callable raises.

## Main definitions

* `Error` : the causes.
* `Error.message`, `Error.failureClass` : the text and the class of an error.
* `Failure.toError` : what a callable raises, as an error.
* `Error.passedOn` : an error that leaves a coroutine.
-/

namespace ChatCommands

/-- What ended an operation. -/
inductive Error
  | fault (f : Fault)
  | refusal (r : Refusal)
  | misuse (m : Misuse)
  | template (e : TemplateError)
  | document (e : DocumentError)
  | raised (f : Failure)

namespace FailureOf

/-- The text of a raised failure: its single detail, or all of them in round brackets.  A failed
look-up shows its key as a literal. -/
def message (f : Failure) : String :=
  match f.details with
  | [] => ""
  | [v] => if f.kind = .key then v.literal else v.plain
  | details => Value.tupleText (Value.literals details)

/-- What a callable raises, as an error.  A fault takes at most one detail, its message, which
has to be a text or `unset`. -/
def toError (f : Failure) : Error :=
  match f.kind with
  | .fault kind =>
    match f.details with
    | [] => .fault (Fault.make kind none [])
    | [message] =>
      match Fault.ofValues kind message [] with
      | .ok fault => .fault fault
      | .error r => .refusal r
    | details => .refusal (.argumentCount "CommandException.__init__" 1 2 (details.length + 1))
  | _ => .raised f

end FailureOf

namespace Error

def message : Error → String
  | .fault f => f.text
  | .refusal r => r.message
  | .misuse m => m.message
  | .template e => e.message
  | .document e => e.message
  | .raised f => f.message

def failureClass : Error → FailureClass
  | .fault f => .fault f.kind
  | .refusal r => r.failureClass
  | .misuse m => m.failureClass
  | .template e => e.failureClass
  | .document e => e.failureClass
  | .raised f => f.kind

/-- The error of a coroutine in which the end of an iteration was raised. -/
def iterationRaised : Error :=
  .raised ⟨.runtime, [.text "coroutine raised StopIteration"]⟩

/-- What an error is when it leaves a coroutine.  The end of an iteration would pass for the end of
the coroutine, and is turned into an error of its own; any other error is passed on as it is. -/
def passedOn : Error → Error
  | .raised f => if f.kind = .iterationEnd then iterationRaised else .raised f
  | e => e

end Error

instance : Coe Refusal Error := ⟨.refusal⟩
instance : Coe Misuse Error := ⟨.misuse⟩

/-- A failed access as an error. -/
def Value.checked {α : Type} (r : Except Misuse α) : Except Error α :=
  r.mapError .misuse

end ChatCommands
