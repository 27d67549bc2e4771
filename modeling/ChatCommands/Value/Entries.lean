import ChatCommands.Value.Basic

/-!
# Entries of maps

A map keeps its entries in the order in which their keys were first put.

## Main definitions

* `Entries` : keys with values.
* `Entries.put` : sets a key, in its place when it is there and at the end when it is not.
* `Entries.union` : the entries of one map overridden by those of another.
* `Value.merge` : the union that goes down into maps below a common key.
-/

namespace ChatCommands

/-- Keys with their values, in order. -/
abbrev Entries := List (String × Value)

namespace Entries

/-- Sets a key: in its place when it is there, at the end when it is not. -/
def put (key : String) (v : Value) : Entries → Entries
  | [] => [(key, v)]
  | e :: rest => if e.1 = key then (key, v) :: rest else e :: put key v rest

/-- The entries of `base` overridden by those of `overrides`, one after another. -/
def union (base overrides : Entries) : Entries :=
  overrides.foldl (fun merged e => put e.1 e.2 merged) base

/-- The entries with each key once: it stands where it came first and has its last value. -/
def ofList (entries : List (String × Value)) : Entries :=
  union [] entries

end Entries

namespace Value

mutual

/-- The value of a key in a merged map: where both sides have a map the two are merged, and
otherwise the override is taken. -/
def merge (base : Value) (override : Value) : Value :=
  match override, base with
  | .map _ overrides, .map _ entries => .map false (mergeEntries entries overrides)
  | v, _ => v

/-- The entries of `base` with each override merged in. -/
def mergeEntries (base : Entries) : List (String × Value) → Entries
  | [] => base
  | (key, v) :: rest =>
    let merged := match base.lookup key with
      | some w => merge w v
      | none => v
    mergeEntries (Entries.put key merged base) rest

end

end Value

end ChatCommands
