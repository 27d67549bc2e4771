import ChatCommands.Subscriptions

/-!
# Operations on subscriptions, step by step

An operation takes the lock, does its work on the keys, gives the lock back, and then writes its
record.  An error ends the work where it comes up, and nothing that was done until then is undone;
the lock is given back on the way out.  An operation that finds the lock taken waits for its turn,
forever when nobody gives the lock back; so the operations of several tasks are one sequence too.

## Main definitions

* `Subscriptions.Store` : what the operations share.
* `Subscriptions.Steps` : steps on it, which an error can end.
* `Subscriptions.guarded` : steps that are done under the lock.
* `Subscriptions.gather` : a new set, item by item.
* `Subscriptions.Operation.steps` : the steps of an operation.
* `Subscriptions.Store.performAll` : operations one after another.
-/

namespace ChatCommands.Subscriptions

/-- What the operations share: whether the lock is taken, the keys, and the records. -/
structure Store where
  isLocked : Bool
  keys : List Value
  records : List Event

/-- How steps end that do not get to their last one: with an error, or waiting for a lock. -/
inductive Halt
  | raised (e : Error)
  | waiting

/-- Steps on what the operations share.  What they have changed when they halt stays changed. -/
abbrev Steps := EStateM Halt Store

section Parts

variable {α : Type}

/-- A step that may be refused. -/
def attempt (x : Except Misuse α) : Steps α :=
  match x with
  | .ok a => pure a
  | .error e => throw (.raised (.misuse e))

/-- Takes the lock, or waits for it. -/
def acquire : Steps Unit := do
  if (← get).isLocked then throw .waiting
  modify fun st => { st with isLocked := true }

/-- Gives the lock back. -/
def release : Steps Unit :=
  modify fun st => { st with isLocked := false }

/-- Steps under the lock, which is given back however they end. -/
def guarded (work : Steps α) : Steps α := do
  acquire
  try work finally release

/-- Writes the records of a run. -/
def note (r : Run Unit) : Steps Unit :=
  modify fun st => { st with records := st.records ++ r.events }

end Parts

/-- Asks whether a key is subscribed. -/
def ask (key : Value) : Steps Bool := do
  attempt (contains ⟨(← get).keys⟩ key)

/-- Adds a key to the set. -/
def insert (key : Value) : Steps Unit := do
  attempt key.hashable
  modify fun st => { st with keys := st.keys ++ [key] }

/-- Takes a key out of the set. -/
def discard (key : Value) : Steps Unit :=
  modify fun st => { st with keys := st.keys.filter fun k => !key.same k }

/-- Goes through items and gathers them in a set that starts with some keys. -/
def gather (kept : List Value) : List Value → Steps (List Value)
  | [] => return kept
  | v :: rest => do
    attempt v.hashable
    gather (if v.isIn kept then kept else kept ++ [v]) rest

/-- Gathers a new set and puts it in place of the old one. -/
def replace (keys : Value) : Steps Nat := do
  let items ← attempt keys.items
  let kept ← gather [] items
  modify fun st => { st with keys := kept }
  return kept.length

/-- The steps of a subscribe. -/
def subscribing (key : Value) : Steps Bool := do
  let isNew ← guarded do
    if ← ask key then return false
    insert key
    return true
  if isNew then note (logKey "subscribed" key)
  return isNew

/-- The steps of an unsubscribe. -/
def unsubscribing (key : Value) : Steps Bool := do
  let isOld ← guarded do
    if !(← ask key) then return false
    discard key
    return true
  if isOld then note (logKey "unsubscribed" key)
  return isOld

/-- The steps of a sync. -/
def syncing (keys : Value) : Steps Unit := do
  let count ← guarded (replace keys)
  note (logCount count)

/-- The steps of an operation, with its answer as a value. -/
def Operation.steps : Operation → Steps Value
  | .subscribe key => Value.bool <$> subscribing key
  | .unsubscribe key => Value.bool <$> unsubscribing key
  | .sync keys => (fun _ => Value.null) <$> syncing keys
  | .has key => Value.bool <$> guarded (ask key)
  | .snapshot => guarded do return .set true (← get).keys

namespace Store

/-- What is shared when no operation is under way: the lock is free. -/
def idle (s : Subscriptions) (records : List Event) : Store :=
  ⟨false, s.keys, records⟩

/-- What is shared after some operations, and how each of them has ended. -/
def performAll (st : Store) : List Operation → Store × List (Except Halt Value)
  | [] => (st, [])
  | op :: rest =>
    match op.steps st with
    | .ok v after => ((performAll after rest).1, .ok v :: (performAll after rest).2)
    | .error h after => ((performAll after rest).1, .error h :: (performAll after rest).2)

end Store

end ChatCommands.Subscriptions
