import ChatCommands.Error

/-!
# Naming callables

Wrappers are given readable names.  A name is put on a callable at once, or first and the callable
later; callables of the host may refuse a name.

## Main definitions

* `Nameable` : what can be given to be named, and the names themselves.
* `Named` : what has been named.
* `rename` : names a callable, or gives the operation that does.
-/

namespace ChatCommands

/-- What can be given: a fresh function, a callable that refuses names, or any value. -/
inductive Nameable
  | fresh
  | fixed
  | value (v : Value)

/-- What has been named, and whether it is the fresh function. -/
structure Named where
  name : String
  isFresh : Bool

/-- What naming ends with: something named, or the operation that waits for a callable. -/
inductive Naming
  | done (n : Named)
  | waiting (name : String)

namespace Naming

/-- Puts a name on a callable. -/
def put (target name : Nameable) : Except Refusal Named :=
  let isCallable := match target with
    | .fresh | .fixed => true
    | .value v => v.isCallable
  if isCallable then
    match name, target with
    | .value (.text _), .fixed => .error .renameFixed
    | .value (.text s), .fresh => .ok ⟨s, true⟩
    | .value (.text s), .value _ => .ok ⟨s, false⟩
    | _, _ => .error .renameName
  else .error .renameTarget

/-- What is named after all: an operation that waits is itself called `rename`. -/
def result : Naming → Named
  | .done n => n
  | .waiting _ => ⟨"rename", false⟩

end Naming

/-- Names a callable, or gives the operation that puts a name on a callable. -/
def rename (given : List Nameable) : Except Refusal Naming :=
  match given with
  | [.value (.text s)] => .ok (.waiting s)
  | [_] => .error .renameText
  | [target, name] => (Naming.put target name).map .done
  | given => .error (.renameCount given.length)

/-- Gives a callable to an operation that waits for one.  It has its name already, so it takes
nothing else. -/
def Naming.apply (n : Naming) (given : List Nameable) : Except Refusal Naming :=
  match n, given with
  | .waiting s, [target] => (Naming.put target (.value (.text s))).map .done
  | .waiting _, [] => .error (.argumentMissing "_rename" "callable")
  | .waiting _, _ => .error (.argumentRepeated "_rename" "name")
  | .done n, _ => .ok (.done n)

end ChatCommands
