import ChatCommands.Proofs.Subscriptions.Membership
import ChatCommands.Subscriptions.Steps
import Mathlib.Data.List.InsertIdx

/-!
# Failed operations leave no trace

Step by step an operation can fail at several points: when it asks for a key, when it adds a key
that it could ask for, or in the middle of the items of a new set.  At each of them the lock is
taken, no key has changed, and nothing is recorded; the lock is given back on the way out.  So a
failed operation leaves what the operations share as it was, and all operations after it answer as
if it had never been there.

## Main definitions

* `Subscriptions.settled` : how steps end that do what an operation does at once.
* `Subscriptions.Operation.IsRefused` : the operations that fail.
* `Subscriptions.Store.after`, `Subscriptions.Store.answers` : what operations leave, and how each
  of them ends.

## Main results

* `Subscriptions.steps_idle` : step by step an operation does what it does at once.
* `Subscriptions.Store.performAll_idle` : so do operations one after another.
* `Subscriptions.steps_of_locked` : an operation waits for a lock that is taken.
* `Subscriptions.perform_of_isRefused`, `Subscriptions.exists_outcome_of_not_isRefused` : which
  operations fail.
* `Subscriptions.failures_leave_no_trace` : what a failed operation leaves.
-/

namespace ChatCommands.Subscriptions

/-! ### How steps go -/

section Steps

variable {α β : Type}

theorem Steps.bind_eq (x : Steps α) (next : α → Steps β) (st : Store) :
    (x >>= next) st =
      match x st with
      | .ok a st' => next a st'
      | .error h st' => .error h st' := by
  cases hx : x st <;> simp only [bind, EStateM.bind, hx]

theorem attempt_eq (x : Except Misuse α) (st : Store) :
    attempt x st =
      match x with
      | .ok a => .ok a st
      | .error e => .error (.raised (.misuse e)) st := by
  cases x <;> rfl

/-- Steps under a free lock take it and give it back, whether or not they fail. -/
theorem guarded_idle (work : Steps α) (s : Subscriptions) (records : List Event) :
    guarded work (.idle s records) =
      match work ⟨true, s.keys, records⟩ with
      | .ok a st => .ok a { st with isLocked := false }
      | .error h st => .error h { st with isLocked := false } := by
  have htaken : guarded work (.idle s records) =
      (try work finally release : Steps α) ⟨true, s.keys, records⟩ := rfl
  rw [htaken]
  cases hwork : work ⟨true, s.keys, records⟩ with
  | ok a st =>
    simp only [tryFinally, tryFinally', Functor.map, EStateM.map, hwork]
    rfl
  | error h st =>
    simp only [tryFinally, tryFinally', Functor.map, EStateM.map, hwork]
    rfl

theorem ask_eq (key : Value) (st : Store) :
    ask key st =
      match contains ⟨st.keys⟩ key with
      | .ok b => .ok b st
      | .error e => .error (.raised (.misuse e)) st := by
  change attempt (contains ⟨st.keys⟩ key) st = _
  cases contains ⟨st.keys⟩ key <;> rfl

/-- Items are gathered until one cannot be a key.  Nothing that is shared changes meanwhile. -/
theorem gather_eq (kept items : List Value) (st : Store) :
    gather kept items st =
      match items.forM Value.hashable with
      | .ok () =>
        .ok (items.foldl (fun kept v => if v.isIn kept then kept else kept ++ [v]) kept) st
      | .error e => .error (.raised (.misuse e)) st := by
  induction items generalizing kept with
  | nil => rfl
  | cons v rest ih =>
    change (attempt v.hashable >>= fun _ => gather _ rest) st =
      match v.hashable >>= fun _ => rest.forM Value.hashable with
      | .ok () => _
      | .error e => _
    cases v.hashable with
    | error e => rfl
    | ok => exact ih _

/-- The old set stays until all items of the new one are gathered. -/
theorem replace_eq (value : Value) (st : Store) :
    replace value st =
      match keysOf value with
      | .ok kept => .ok kept.length { st with keys := kept }
      | .error e => .error (.raised (.misuse e)) st := by
  rw [keysOf, replace, Steps.bind_eq, attempt_eq]
  cases value.items with
  | error e => rfl
  | ok items =>
    simp only [Steps.bind_eq, gather_eq]
    cases hcheck : items.forM Value.hashable with
    | error e => simp [bind, Except.bind, hcheck]
    | ok =>
      simp only [bind, Except.bind, hcheck]
      rfl

end Steps

/-! ### What an operation does step by step -/

section Operations

variable {α β : Type}

/-- How steps end that do what an operation does at once: the lock is free. -/
def settled (records : List Event) (x : Subscriptions × Run α) : EStateM.Result Halt Store α :=
  match x.2.outcome with
  | .ok a => .ok a (.idle x.1 (records ++ x.2.events))
  | .error e => .error (.raised e) (.idle x.1 (records ++ x.2.events))

theorem settled_fail (s : Subscriptions) (records : List Event) (e : Error) :
    settled records (s, (Run.fail e : Run α)) = .error (.raised e) (.idle s records) := by
  simp [settled, Run.fail]

theorem settled_done (s : Subscriptions) (records : List Event) (a : α) :
    settled records (s, Run.done a) = .ok a (.idle s records) := by
  simp [settled, Run.done]

/-- A function of the answer can be taken step by step or at once. -/
theorem settled_map {x : Steps α} {st : Store} {records : List Event} {s : Subscriptions}
    {r : Run α} (f : α → β) (h : x st = settled records (s, r)) :
    (f <$> x) st = settled records (s, f <$> r) := by
  rcases r with ⟨events, e | a⟩ <;>
    simp [settled, Functor.map, EStateM.map, Run.andThen, Run.done, h] at h ⊢

variable (s : Subscriptions) (records : List Event) (key : Value)

theorem subscribing_idle :
    subscribing key (.idle s records) = settled records (s.subscribe key) := by
  rw [subscribing, Steps.bind_eq, guarded_idle, Steps.bind_eq, ask_eq, subscribe]
  cases s.contains key with
  | error e => exact (settled_fail s records _).symm
  | ok isOld =>
    cases isOld with
    | true => exact (settled_done s records _).symm
    | false =>
      simp only [Bool.false_eq_true, if_false]
      rw [Steps.bind_eq, insert, Steps.bind_eq, attempt_eq]
      cases key.hashable with
      | error e => exact (settled_fail s records _).symm
      | ok => rfl

theorem unsubscribing_idle :
    unsubscribing key (.idle s records) = settled records (s.unsubscribe key) := by
  rw [unsubscribing, Steps.bind_eq, guarded_idle, Steps.bind_eq, ask_eq, unsubscribe]
  cases s.contains key with
  | error e => exact (settled_fail s records _).symm
  | ok isOld =>
    cases isOld with
    | true => rfl
    | false => exact (settled_done s records _).symm

theorem syncing_idle (keys : Value) :
    syncing keys (.idle s records) = settled records (s.sync keys) := by
  rw [syncing, Steps.bind_eq, guarded_idle, replace_eq, sync]
  cases keysOf keys with
  | error e => exact (settled_fail s records _).symm
  | ok kept => rfl

theorem guarded_ask_idle :
    guarded (ask key) (.idle s records) = settled records (s, s.has key) := by
  rw [guarded_idle, ask_eq, has]
  cases s.contains key with
  | error e => exact (settled_fail s records _).symm
  | ok b => exact (settled_done s records _).symm

/-- Step by step an operation does what it does at once. -/
theorem steps_idle (op : Operation) :
    op.steps (.idle s records) = settled records (s.perform op) := by
  cases op with
  | subscribe key => exact settled_map _ (subscribing_idle s records key)
  | unsubscribe key => exact settled_map _ (unsubscribing_idle s records key)
  | sync keys => exact settled_map _ (syncing_idle s records keys)
  | has key => exact settled_map _ (guarded_ask_idle s records key)
  | snapshot =>
    rw [Operation.steps, guarded_idle]
    exact (settled_done s records _).symm

/-- An operation that finds the lock taken waits for it, and changes nothing. -/
theorem steps_of_locked (op : Operation) (keys : List Value) :
    op.steps ⟨true, keys, records⟩ = .error .waiting ⟨true, keys, records⟩ := by
  cases op <;> rfl

end Operations

/-! ### Operations one after another -/

namespace Store

/-- What is shared after some operations. -/
def after (st : Store) (ops : List Operation) : Store :=
  (st.performAll ops).1

/-- How some operations end. -/
def answers (st : Store) (ops : List Operation) : List (Except Halt Value) :=
  (st.performAll ops).2

/-- Step by step operations do what they do at once, and each of them leaves the lock free. -/
theorem performAll_idle (s : Subscriptions) (records : List Event) (ops : List Operation) :
    (idle s records).performAll ops =
      (idle (s.after ops) (records ++ (s.answers ops).flatMap Run.events),
        (s.answers ops).map fun answer => answer.outcome.mapError Halt.raised) := by
  induction ops generalizing s records with
  | nil => simp [performAll]
  | cons op rest ih =>
    rw [performAll, steps_idle, settled]
    cases houtcome : (s.perform op).2.outcome <;> simp [ih, houtcome, Except.mapError]

theorem after_idle (s : Subscriptions) (records : List Event) (ops : List Operation) :
    (idle s records).after ops =
      idle (s.after ops) (records ++ (s.answers ops).flatMap Run.events) :=
  congrArg Prod.fst (performAll_idle s records ops)

theorem answers_idle (s : Subscriptions) (records : List Event) (ops : List Operation) :
    (idle s records).answers ops =
      (s.answers ops).map fun answer => answer.outcome.mapError Halt.raised :=
  congrArg Prod.snd (performAll_idle s records ops)

end Store

/-! ### Operations that fail -/

section Failures

variable {s : Subscriptions} {op : Operation}

/-- An operation fails for a key that cannot be asked for; a subscribe also for one that can be
asked for and is not there, but cannot be added; a sync for a value without items, or with an item
that cannot be a key. -/
def Operation.IsRefused (s : Subscriptions) : Operation → Prop
  | .subscribe key => ¬ key.CanBeAsked ∨ key.unhashableType? ≠ none ∧ s.member key = false
  | .unsubscribe key | .has key => ¬ key.CanBeAsked
  | .sync keys => ∀ items, keys.elements? = some items → ∃ v ∈ items, v.unhashableType? ≠ none
  | .snapshot => False

theorem exists_contains_eq_error {key : Value} (h : ¬ key.CanBeAsked) :
    ∃ e, s.contains key = .error e := by
  cases hcontains : s.contains key with
  | error e => exact ⟨e, rfl⟩
  | ok b => exact absurd (contains_eq_ok_iff.1 hcontains).1 h

theorem exists_hashable_eq_error {key : Value} (h : key.unhashableType? ≠ none) :
    ∃ e, key.hashable = .error e := by
  obtain ⟨obstacle, hobstacle⟩ := Option.ne_none_iff_exists'.1 h
  exact ⟨.unhashable obstacle, by rw [Value.hashable, hobstacle]⟩

/-- A refused operation fails, changes no key, and writes no record. -/
theorem perform_of_isRefused (h : op.IsRefused s) :
    ∃ e, s.perform op = (s, Run.fail (.misuse e)) := by
  cases op with
  | subscribe key =>
    by_cases hasked : key.CanBeAsked
    case pos =>
      obtain ⟨hunhashable, hout⟩ := h.resolve_left (not_not_intro hasked)
      obtain ⟨e, he⟩ := exists_hashable_eq_error hunhashable
      refine ⟨e, ?_⟩
      simp only [perform, subscribe, contains_eq_ok hasked, hout, he]
      rfl
    case neg =>
      obtain ⟨e, he⟩ := exists_contains_eq_error (s := s) hasked
      refine ⟨e, ?_⟩
      simp only [perform, subscribe, he]
      rfl
  | unsubscribe key =>
    obtain ⟨e, he⟩ := exists_contains_eq_error (s := s) h
    refine ⟨e, ?_⟩
    simp only [perform, unsubscribe, he]
    rfl
  | sync keys =>
    cases hkept : keysOf keys with
    | error e =>
      refine ⟨e, ?_⟩
      simp only [perform, sync, hkept]
      rfl
    | ok kept =>
      obtain ⟨items, hitems, hall, -⟩ := keysOf_eq_ok_iff.1 hkept
      obtain ⟨v, hv, hunhashable⟩ := h items hitems
      exact absurd (hall v hv) hunhashable
  | has key =>
    obtain ⟨e, he⟩ := exists_contains_eq_error (s := s) h
    refine ⟨e, ?_⟩
    simp only [perform, has, he]
    rfl
  | snapshot => exact h.elim

/-- An operation that is not refused answers. -/
theorem exists_outcome_of_not_isRefused (h : ¬ op.IsRefused s) :
    ∃ v, (s.perform op).2.outcome = .ok v := by
  cases op with
  | subscribe key =>
    obtain ⟨hasked, hout⟩ := not_or.1 h
    have hasked := not_not.1 hasked
    cases hmember : s.member key with
    | true =>
      refine ⟨.bool false, ?_⟩
      simp only [perform, subscribe, contains_eq_ok hasked, hmember]
      rfl
    | false =>
      have hhashable : key.unhashableType? = none := by
        by_contra hne
        exact hout ⟨hne, hmember⟩
      refine ⟨.bool true, ?_⟩
      simp only [perform, subscribe, contains_eq_ok hasked, hmember, Value.hashable, hhashable]
      rfl
  | unsubscribe key =>
    refine ⟨.bool (s.member key), ?_⟩
    simp only [perform, unsubscribe, contains_eq_ok (not_not.1 h)]
    cases s.member key <;> rfl
  | sync keys =>
    have hitems : ∃ items, keys.elements? = some items ∧ ∀ v ∈ items, v.unhashableType? = none := by
      by_contra hne
      refine h fun items hitems => ?_
      by_contra hall
      exact hne ⟨items, hitems, by simpa using hall⟩
    obtain ⟨items, hitems, hall⟩ := hitems
    refine ⟨.null, ?_⟩
    simp only [perform, sync, keysOf_eq_ok_iff.2 ⟨items, hitems, hall, rfl⟩]
    rfl
  | has key =>
    refine ⟨.bool (s.member key), ?_⟩
    simp only [perform, has, contains_eq_ok (not_not.1 h)]
    rfl
  | snapshot => exact ⟨s.snapshot, rfl⟩

/-- Step by step an operation that does not come to its end has been refused, and leaves
everything as it was. -/
theorem steps_idle_eq_error {records : List Event} {h : Halt} {st : Store}
    (hfails : op.steps (.idle s records) = .error h st) :
    op.IsRefused s ∧ ∃ e, s.perform op = (s, Run.fail (.misuse e)) ∧
      h = .raised (.misuse e) ∧ st = .idle s records := by
  rw [steps_idle] at hfails
  by_cases hrefused : op.IsRefused s
  case pos =>
    obtain ⟨e, he⟩ := perform_of_isRefused hrefused
    rw [he, settled_fail] at hfails
    cases hfails
    exact ⟨hrefused, e, he, rfl, rfl⟩
  case neg =>
    obtain ⟨v, hv⟩ := exists_outcome_of_not_isRefused hrefused
    simp [settled, hv] at hfails

end Failures

/-! ### What a failed operation leaves -/

/-- An operation between others that ends in `st` for a reason `h` has failed with an error, changed
nothing that the operations share, and given the lock back.  Step by step and at once, the others
end as they do without it, with the same records, and leave the same. -/
structure LeavesNoTrace (s : Subscriptions) (records : List Event) (before later : List Operation)
    (op : Operation) (h : Halt) (st : Store) : Prop where
  raised : ∃ e, h = .raised (.misuse e) ∧
    (s.after before).perform op = (s.after before, Run.fail (.misuse e))
  unchanged : st = (Store.idle s records).after before
  free : st.isLocked = false
  failure : ((Store.idle s records).answers (before ++ op :: later))[before.length]? =
    some (.error h)
  others : ((Store.idle s records).answers (before ++ op :: later)).eraseIdx before.length =
    (Store.idle s records).answers (before ++ later)
  runs : (s.answers (before ++ op :: later)).eraseIdx before.length = s.answers (before ++ later)
  leaves : (Store.idle s records).after (before ++ op :: later) =
    (Store.idle s records).after (before ++ later)

/-- Step by step an operation that finds the lock free does not come to its end exactly when it is
refused, and then leaves no trace. -/
theorem failures_leave_no_trace (s : Subscriptions) (records : List Event)
    (before later : List Operation) (op : Operation) :
    ((∃ h st, op.steps ((Store.idle s records).after before) = .error h st) ↔
        op.IsRefused (s.after before)) ∧
      ∀ h st, op.steps ((Store.idle s records).after before) = .error h st →
        LeavesNoTrace s records before later op h st := by
  rw [Store.after_idle]
  refine ⟨⟨?_, ?_⟩, ?_⟩
  · rintro ⟨h, st, hfails⟩
    exact (steps_idle_eq_error hfails).1
  · intro hrefused
    obtain ⟨e, he⟩ := perform_of_isRefused hrefused
    exact ⟨_, _, by rw [steps_idle, he, settled_fail]⟩
  · intro h st hfails
    obtain ⟨-, e, he, rfl, rfl⟩ := steps_idle_eq_error hfails
    have hanswers : s.answers (before ++ op :: later) =
        s.answers before ++ Run.fail (.misuse e) :: (s.after before).answers later := by
      rw [answers_append, answers_cons, he]
    have hwithout : (s.answers (before ++ op :: later)).eraseIdx before.length =
        s.answers (before ++ later) := by
      rw [hanswers, answers_append, ← length_answers s before,
        List.eraseIdx_append_of_length_le le_rfl, Nat.sub_self, List.eraseIdx_cons_zero]
    have hafter : s.after (before ++ op :: later) = s.after (before ++ later) := by
      rw [after_append, after_append, after_cons, he]
    have hrecords : (s.answers (before ++ op :: later)).flatMap Run.events =
        (s.answers (before ++ later)).flatMap Run.events := by
      simp [hanswers, answers_append, Run.fail]
    exact
      { raised := ⟨e, rfl, he⟩
        unchanged := (Store.after_idle s records before).symm
        free := rfl
        failure := by
          rw [Store.answers_idle, List.getElem?_map, getElem?_answers, he]
          rfl
        others := by rw [Store.answers_idle, Store.answers_idle, ← hwithout, List.eraseIdx_map]
        runs := hwithout
        leaves := by rw [Store.after_idle, Store.after_idle, hafter, hrecords] }

/-- A sync fails at its second key, after a channel that it has already gathered. -/
theorem failures_leave_no_trace_channels :
    let s : Subscriptions := ⟨[.text "UC1"]⟩
    let op : Operation := .sync (.list [.text "UC2", .list []])
    let later : List Operation := [.has (.text "UC1"), .has (.text "UC2")]
    op.IsRefused s ∧
      op.steps (.idle s []) =
        .error (.raised (.misuse (.unhashable "list"))) (.idle s []) ∧
      LeavesNoTrace s [] [] later op (.raised (.misuse (.unhashable "list"))) (.idle s []) ∧
      (Store.idle s []).answers later = [.ok (.bool true), .ok (.bool false)] := by
  intro s op later
  have hfails : op.steps (.idle s []) =
      .error (.raised (.misuse (.unhashable "list"))) (.idle s []) := rfl
  obtain ⟨hrefused, hleaves⟩ := failures_leave_no_trace s [] [] later op
  refine ⟨hrefused.1 ⟨_, _, hfails⟩, hfails, hleaves _ _ hfails, ?_⟩
  simp [Store.answers_idle, s, later, perform, has, contains, Value.hashable, Value.unhashableType?,
    Value.isIn, Value.same, Value.checked, Except.map, Except.mapError, Run.ofExcept,
    Functor.map, Run.andThen, Run.done]

end ChatCommands.Subscriptions
