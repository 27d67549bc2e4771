import ChatCommands.Config.Environment
import ChatCommands.Error

/-!
# Hosts

The program around the engine may set its name, styles for the console, labels and descriptions
for fault codes, and the runtime flags.

## Main definitions

* `Host` : what the host has set.
* `Host.label` : how a fault code is shown.
* `Host.description` : what the host says about a fault code.
-/

namespace ChatCommands

/-- What the host has set. -/
structure Host where
  program : Option Value
  styles : Entries
  labels : List (FaultCode × Value)
  descriptions : List (FaultCode × Value)
  environment : Option String

namespace Host

/-- A host that has set nothing. -/
def bare : Host :=
  ⟨none, [], [], [], none⟩

/-- How a fault code is shown: by its label, else by its number. -/
def label (h : Host) (c : FaultCode) : String :=
  match h.labels.lookup c with
  | some v => v.plain
  | none => toString c.number

/-- What the host says about a fault code; the null value when it says nothing. -/
def description (h : Host) (code : Value) : Except Refusal Value :=
  match code with
  | .code c => .ok ((h.descriptions.lookup c).getD .null)
  | _ => .error .notFaultCode

def isDevelopment (h : Host) : Bool :=
  Environment.isDevelopment h.environment

end Host

end ChatCommands
