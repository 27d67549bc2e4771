import ChatCommands.Fault.Basic

/-!
# Faults in memory

A map is an object that others may refer to and that could be changed.  A fault refers to the map
of its options, every kind to the map of its defaults, and whoever gives options to a map of those.
Making or replacing a fault overrides one map by another, each time in a new map.

## Main definitions

* `Memory` : the maps that there are.
* `Memory.overridden` : a new map with one overridden by another.
* `StoredFault` : a fault with a reference to its options.
* `StoredFault.make`, `StoredFault.replace` : a fault is made, and replaced.
* `StoredFault.fault?` : the fault that is stored.
-/

namespace ChatCommands

/-- The maps that there are; a reference is the place of a map. -/
abbrev Memory := List Entries

namespace FaultKind

/-- Every kind of fault. -/
def all : List FaultKind :=
  [.plain, .malformedDefinition, .unknownArgumentType, .noSubcommand, .missingPermissions,
    .missingArgument, .invalidArgumentType]

/-- The place of the map of the defaults of a kind. -/
def place (kind : FaultKind) : Nat :=
  all.idxOf kind

end FaultKind

namespace Memory

/-- The maps of the defaults of the kinds, which are there from the beginning. -/
def opening : Memory :=
  FaultKind.all.map FaultKind.defaults

/-- The map at a place. -/
def find (place : Nat) : StateM Memory Entries := do
  return (← get)[place]?.getD []

/-- A new map; the value is its place. -/
def allocate (entries : Entries) : StateM Memory Nat := do
  let place := (← get).length
  modify fun m => m ++ [entries]
  return place

/-- A new map: that at `base` overridden by that at `overrides`. -/
def overridden (base overrides : Nat) : StateM Memory Nat := do
  allocate ((← find base).union (← find overrides))

end Memory

/-- A fault in memory, with the place of its options. -/
structure StoredFault where
  kind : FaultKind
  message : Option String
  options : Nat

namespace StoredFault

/-- A fault is made with the options at a place. -/
def make (kind : FaultKind) (message : Option String) (given : Nat) : StateM Memory StoredFault :=
  return ⟨kind, message, ← Memory.overridden kind.place given⟩

/-- A fault is replaced by one with the options at a place overriding its own. -/
def replace (f : StoredFault) (overrides : Nat) : StateM Memory StoredFault := do
  make f.kind f.message (← Memory.overridden f.options overrides)

/-- The fault that is stored, if its options are there. -/
def fault? (m : Memory) (f : StoredFault) : Option Fault :=
  m[f.options]?.map fun options => ⟨f.kind, f.message, options⟩

end StoredFault

end ChatCommands
