import ChatCommands.Run

/-!
# Subscriptions

A set of keys that handlers share.  Keys are the same when one is the other or they are equal, so
that numbers of different kinds can be the same key; of keys that are the same the first one stays.
An operation that fails changes nothing.

## Main definitions

* `Subscriptions` : the keys.
* `Subscriptions.subscribe`, `Subscriptions.unsubscribe`, `Subscriptions.sync` : the changes.
* `Subscriptions.has`, `Subscriptions.snapshot` : the questions.
* `Subscriptions.perform`, `Subscriptions.performAll` : operations one after another.
-/

namespace ChatCommands

/-- The subscribed keys, each once. -/
structure Subscriptions where
  keys : List Value

namespace Subscriptions

/-- Whether a key is subscribed.  A set stands for its frozen self here. -/
def contains (s : Subscriptions) (key : Value) : Except Misuse Bool :=
  match key with
  | .set _ _ => .ok (key.isIn s.keys)
  | key => key.hashable.map fun _ => key.isIn s.keys

/-- The keys that a value goes through, each once. -/
def keysOf (keys : Value) : Except Misuse (List Value) := do
  let items ← keys.items
  items.forM Value.hashable
  return Value.distinct items

/-- Subscriptions with some keys. -/
def ofValue (keys : Value) : Except Misuse Subscriptions :=
  (keysOf keys).map Subscriptions.mk

/-- Logs a change of one key. -/
def logKey (verb : String) (key : Value) : Run Unit :=
  Run.log .debug .subscriptions (verb ++ " " ++ key.literal)

/-- Logs how many keys there are after a replacement. -/
def logCount (count : Nat) : Run Unit :=
  Run.log .debug .subscriptions ("synced " ++ toString count ++ " subscription(s)")

/-- Adds a key.  The answer says whether it is new.  A set that can change may be asked for, but
not added. -/
def subscribe (s : Subscriptions) (key : Value) : Subscriptions × Run Bool :=
  match s.contains key with
  | .error e => (s, Run.fail (.misuse e))
  | .ok true => (s, Run.done false)
  | .ok false =>
    match key.hashable with
    | .error e => (s, Run.fail (.misuse e))
    | .ok () => (⟨s.keys ++ [key]⟩, (logKey "subscribed" key).andThen fun _ => Run.done true)

/-- Removes a key.  The answer says whether it was there. -/
def unsubscribe (s : Subscriptions) (key : Value) : Subscriptions × Run Bool :=
  match s.contains key with
  | .error e => (s, Run.fail (.misuse e))
  | .ok false => (s, Run.done false)
  | .ok true =>
    (⟨s.keys.filter fun k => !key.same k⟩,
      (logKey "unsubscribed" key).andThen fun _ => Run.done true)

/-- Replaces all keys. -/
def sync (s : Subscriptions) (keys : Value) : Subscriptions × Run Unit :=
  match keysOf keys with
  | .error e => (s, Run.fail (.misuse e))
  | .ok items => (⟨items⟩, logCount items.length)

/-- Whether a key is subscribed. -/
def has (s : Subscriptions) (key : Value) : Run Bool :=
  Run.ofExcept (Value.checked (s.contains key))

/-- The keys as they are now. -/
def snapshot (s : Subscriptions) : Value :=
  .set true s.keys

/-- How subscriptions are shown. -/
def display (s : Subscriptions) : String :=
  Value.recordLiteral "subscriptions" [("keys", toString s.keys.length)]

/-- What can be done with subscriptions. -/
inductive Operation
  | subscribe (key : Value)
  | unsubscribe (key : Value)
  | sync (keys : Value)
  | has (key : Value)
  | snapshot

/-- The subscriptions after an operation, and its run with its answer as a value. -/
def perform (s : Subscriptions) : Operation → Subscriptions × Run Value
  | .subscribe key => ((s.subscribe key).1, Value.bool <$> (s.subscribe key).2)
  | .unsubscribe key => ((s.unsubscribe key).1, Value.bool <$> (s.unsubscribe key).2)
  | .sync keys => ((s.sync keys).1, (fun _ => Value.null) <$> (s.sync keys).2)
  | .has key => (s, Value.bool <$> s.has key)
  | .snapshot => (s, Run.done s.snapshot)

/-- The subscriptions after some operations, taken one at a time, and their runs.  Concurrent
operations take turns, so that they too are such a sequence. -/
def performAll (s : Subscriptions) : List Operation → Subscriptions × List (Run Value)
  | [] => (s, [])
  | op :: rest =>
    let (after, run) := s.perform op
    let (last, runs) := performAll after rest
    (last, run :: runs)

end Subscriptions

end ChatCommands
