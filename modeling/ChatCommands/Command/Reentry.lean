import ChatCommands.Command.Dispatch
import ChatCommands.Script

/-!
# Dispatch as a callable

A host may make dispatch itself a guard or a handler.  Called with tokens and siblings it dispatches
them, with the message, the configuration and the view that it is handed like any other callable;
called with fewer arguments or with more of them it refuses them.

## Main definitions

* `Error.tooDeep` : dispatches run too deep inside one another.
* `dispatching` : the routine.
* `Engine.reentrant` : an engine whose callables may dispatch in their turn.
-/

namespace ChatCommands

/-- Why a dispatch does not run inside too many other ones. -/
def Error.tooDeep : Error :=
  .raised ⟨.recursion, [.text "maximum recursion depth exceeded"]⟩

/-- Dispatch as a routine, beside other routines; `depth` bounds how many dispatches run inside one
another. -/
def dispatching (h : Host) (table : Converters) (routines : List (String × Routine)) :
    Nat → Routine
  | 0, _, _, _, _ => Run.fail .tooDeep
  | depth + 1, m, config, l, args =>
    match args with
    | [] => Run.fail (.refusal (.argumentsMissing "dispatch" "tokens" "commands"))
    | [_] => Run.fail (.refusal (.argumentMissing "dispatch" "commands"))
    | [tokens, siblings] => do
      let inner := ("dispatch", dispatching h table routines depth)
      let handled ← dispatch ⟨h, table, performWith (inner :: routines)⟩ m config l tokens siblings
      return .bool handled
    | args => Run.fail (.refusal (.argumentsExceeding "dispatch" 5 (args.length + 3)))

namespace Engine

/-- The engine with some routines, of which dispatch is one. -/
def reentrant (h : Host) (table : Converters) (routines : List (String × Routine)) (depth : Nat) :
    Engine :=
  ⟨h, table, performWith (("dispatch", dispatching h table routines depth) :: routines)⟩

end Engine

end ChatCommands
