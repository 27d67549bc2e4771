import ChatCommands.Subscriptions
import ChatCommands.Proofs.Value.Equality

/-!
# What the answers of subscriptions say

Operations take turns, so that a concurrent use of subscriptions is one sequence of operations,
each of which sees what the ones in front of it left.  For a key, the calls that answer *true* are
its turns: a subscribe ends its absence, an unsubscribe ends its presence, and no other answer
goes with a change.  The turns of a stretch without a replacement therefore alternate, and they
account for the membership of the key at its end.

## Main definitions

* `Subscriptions.member` : whether a key is subscribed.
* `Subscriptions.after`, `Subscriptions.answers` : the outcome of a sequence of operations.
* `Subscriptions.turns` : the changes of a key that the answers report.
* `Accounts` : what turns say about two memberships.

## Main results

* `Subscriptions.turn?_perform` : one operation reports exactly the change that it makes.
* `Subscriptions.accounts_turns` : a stretch without a replacement.
* `Subscriptions.member_ofValue`, `Subscriptions.member_sync` : the membership in a starting or
  synced set.
* `Subscriptions.perform_has` : the answer to the question for a key.
-/

namespace ChatCommands

/-- Whether a run answers *true*. -/
def Run.answersTrue (r : Run Value) : Bool :=
  match r.outcome with
  | .ok (.bool b) => b
  | _ => false

theorem Run.answersTrue_map_bool (r : Run Bool) :
    (Value.bool <$> r).answersTrue = true ↔ r.outcome = .ok true := by
  rcases r with ⟨events, e | b⟩ <;>
    simp [Functor.map, Run.andThen, Run.done, Run.answersTrue]

namespace Subscriptions

variable {s : Subscriptions} {k key : Value}

/-- Whether a key is subscribed. -/
def member (s : Subscriptions) (k : Value) : Bool :=
  k.isIn s.keys

/-! ### The set of a value -/

theorem isIn_cons (k v : Value) (rest : List Value) :
    k.isIn (v :: rest) = (k.same v || k.isIn rest) :=
  rfl

theorem isIn_append (k : Value) (xs ys : List Value) :
    k.isIn (xs ++ ys) = (k.isIn xs || k.isIn ys) :=
  List.any_append

theorem isIn_singleton (k v : Value) : k.isIn [v] = k.same v :=
  Bool.or_false _

/-- What is the same as something that is in a list is in it too. -/
theorem isIn_of_same {v : Value} {items : List Value} (hk : k.IsKey) (h : k.same v = true)
    (hv : v.isIn items = true) : k.isIn items = true := by
  obtain ⟨w, hw, hvw⟩ := List.any_eq_true.1 hv
  exact List.any_eq_true.2 ⟨w, hw, hk.same_trans h hvw⟩

/-- A key is among the values that are kept exactly when it is among all. -/
theorem isIn_distinct (hk : k.IsKey) (items : List Value) :
    k.isIn (Value.distinct items) = k.isIn items := by
  -- The values that are kept so far stand for all that were seen.
  have hfold : ∀ items kept, k.isIn (items.foldl
      (fun kept v => if v.isIn kept then kept else kept ++ [v]) kept) =
        (k.isIn kept || k.isIn items) := by
    intro items
    induction items with
    | nil => simp [Value.isIn]
    | cons v rest ih =>
      intro kept
      rw [List.foldl_cons, ih, isIn_cons, ← Bool.or_assoc]
      congr 1
      split
      case isTrue h =>
        cases hv : k.same v with
        | false => rw [Bool.or_false]
        | true => rw [isIn_of_same hk hv h, Bool.true_or]
      case isFalse => rw [isIn_append, isIn_singleton]
  exact (hfold items []).trans (Bool.false_or _)

theorem forM_hashable_eq_ok_iff (items : List Value) :
    items.forM Value.hashable = .ok () ↔ ∀ v ∈ items, v.unhashableType? = none := by
  induction items with
  | nil => simp [pure, Except.pure]
  | cons v rest ih =>
    change (v.hashable >>= fun _ => rest.forM Value.hashable) = .ok () ↔ _
    rw [Value.hashable]
    cases h : v.unhashableType? with
    | none => simpa [h, bind, Except.bind] using ih
    | some obstacle => simp [h, bind, Except.bind]

theorem keysOf_eq_ok_iff {keys : Value} {kept : List Value} :
    keysOf keys = .ok kept ↔ ∃ items, keys.elements? = some items ∧
      (∀ v ∈ items, v.unhashableType? = none) ∧ kept = Value.distinct items := by
  rw [keysOf, Value.items]
  cases keys.elements? with
  | none => simp [bind, Except.bind]
  | some items =>
    cases hcheck : items.forM Value.hashable with
    | error e =>
      have hnot : ¬ ∀ v ∈ items, v.unhashableType? = none := by
        rw [← forM_hashable_eq_ok_iff, hcheck]
        nofun
      simp only [bind, Except.bind, hcheck, Option.some.injEq, exists_eq_left', hnot, false_and]
      exact ⟨nofun, nofun⟩
    | ok =>
      have hall := (forM_hashable_eq_ok_iff items).1 hcheck
      simp only [bind, Except.bind, hcheck, Option.some.injEq, exists_eq_left', pure, Except.pure,
        Except.ok.injEq]
      exact ⟨fun h => ⟨hall, h.symm⟩, fun h => h.2.symm⟩

/-- A key is subscribed at the start exactly when it is among the given values. -/
theorem member_ofValue {given : Value} {items : List Value} (h : ofValue given = .ok s)
    (hitems : given.elements? = some items) (hk : k.IsKey) : s.member k = k.isIn items := by
  rw [ofValue] at h
  cases hkept : keysOf given with
  | error e => simp [hkept, Except.map] at h
  | ok kept =>
    obtain ⟨items', hitems', -, rfl⟩ := keysOf_eq_ok_iff.1 hkept
    obtain rfl := Option.some.inj (hitems'.symm.trans hitems)
    simp only [hkept, Except.map, Except.ok.injEq] at h
    rw [← h, member, isIn_distinct hk]

/-! ### One operation -/

theorem contains_eq_ok (h : key.CanBeAsked) : s.contains key = .ok (s.member key) := by
  rcases h with h | ⟨isFrozen, items, rfl⟩
  · unfold contains
    split
    case h_1 => rfl
    case h_2 => simp [Value.hashable, h, Except.map, member]
  · rfl

theorem contains_eq_ok_iff {b : Bool} :
    s.contains key = .ok b ↔ key.CanBeAsked ∧ s.member key = b := by
  by_cases hasked : key.CanBeAsked
  · simp [contains_eq_ok hasked, hasked]
  · have hhashable : key.unhashableType? ≠ none := fun hnone => hasked (.inl hnone)
    obtain ⟨obstacle, hobstacle⟩ := Option.ne_none_iff_exists'.1 hhashable
    unfold contains
    split
    case h_1 => exact absurd (.inr ⟨_, _, rfl⟩) hasked
    case h_2 => simp [Value.hashable, hobstacle, Except.map, hasked]

/-- Whether a subscribe adds its key. -/
def adds (s : Subscriptions) (key : Value) : Bool :=
  key.unhashableType?.isNone && !s.member key

/-- Whether an unsubscribe removes a key. -/
def removes (s : Subscriptions) (key : Value) : Bool :=
  decide (s.contains key = .ok true)

theorem adds_eq_true_iff :
    s.adds key = true ↔ key.unhashableType? = none ∧ s.member key = false := by
  simp [adds]

theorem removes_eq_true_iff :
    s.removes key = true ↔ key.CanBeAsked ∧ s.member key = true := by
  simp [removes, contains_eq_ok_iff]

/-- A subscribe adds its key and answers *true*, or changes nothing and does not. -/
theorem subscribe_cases (s : Subscriptions) (key : Value) :
    (s.subscribe key).1 = (if s.adds key then ⟨s.keys ++ [key]⟩ else s) ∧
      ((s.subscribe key).2.outcome = .ok true ↔ s.adds key = true) := by
  unfold subscribe
  split
  case h_1 e he =>
    have hnot : key.unhashableType? ≠ none := by
      intro hhashable
      rw [contains_eq_ok (.inl hhashable)] at he
      cases he
    simp [adds, hnot, Run.fail]
  case h_2 he =>
    obtain ⟨-, hmember⟩ := contains_eq_ok_iff.1 he
    simp [adds, hmember, Run.done]
  case h_3 he =>
    obtain ⟨-, hmember⟩ := contains_eq_ok_iff.1 he
    cases h : key.unhashableType? with
    | none =>
      simp [adds, hmember, Value.hashable, h, logKey, Run.log, Run.emit, Run.andThen, Run.done]
    | some obstacle => simp [adds, Value.hashable, h, Run.fail]

/-- An unsubscribe removes what is the same as its key and answers *true*, or changes nothing and
does not. -/
theorem unsubscribe_cases (s : Subscriptions) (key : Value) :
    (s.unsubscribe key).1 =
        (if s.removes key then ⟨s.keys.filter fun v => !key.same v⟩ else s) ∧
      ((s.unsubscribe key).2.outcome = .ok true ↔ s.removes key = true) := by
  unfold unsubscribe
  split
  case h_1 e he => simp [removes, he, Run.fail]
  case h_2 he => simp [removes, he, Run.done]
  case h_3 he => simp [removes, he, logKey, Run.log, Run.emit, Run.andThen, Run.done]

/-! ### Membership -/

theorem member_subscribe (s : Subscriptions) (key k : Value) :
    (s.subscribe key).1.member k = (s.member k || (s.adds key && k.same key)) := by
  rw [(subscribe_cases s key).1]
  cases s.adds key <;> simp [member, isIn_append, isIn_singleton]

/-- A key is still subscribed unless it is the same as the one that is removed. -/
theorem member_unsubscribe (s : Subscriptions) (hkey : key.CanBeAsked → key.IsKey) (hk : k.IsKey) :
    (s.unsubscribe key).1.member k = (s.member k && !(s.removes key && k.same key)) := by
  rw [(unsubscribe_cases s key).1]
  cases hremoves : s.removes key with
  | false => simp [member]
  | true =>
    have hkey := hkey (removes_eq_true_iff.1 hremoves).1
    -- The values that are the same as `k` are the same as the removed key exactly when `k` is.
    have hsame (v : Value) : (!key.same v && k.same v) = (k.same v && !k.same key) := by
      cases hv : k.same v with
      | false => rw [Bool.and_false, Bool.false_and]
      | true =>
        rw [Bool.and_true, Bool.true_and, hk.same_comm hkey]
        congr 1
        exact Bool.eq_iff_iff.2 ⟨fun h => hkey.same_trans h (hk.same_symm hv),
          fun h => hkey.same_trans h hv⟩
    simp only [if_true, member, Value.isIn, List.any_filter, Bool.true_and,
      List.any_congr rfl hsame]
    cases k.same key <;> simp

/-- After a sync a key is subscribed exactly when it is among the new values. -/
theorem member_sync (s : Subscriptions) {keys : Value} {items : List Value} (hk : k.IsKey)
    (hitems : keys.elements? = some items)
    (hhashable : ∀ v ∈ items, v.unhashableType? = none) :
    (s.sync keys).1.member k = k.isIn items := by
  have hkept := keysOf_eq_ok_iff.2 ⟨items, hitems, hhashable, rfl⟩
  simp only [sync, hkept, member, isIn_distinct hk]

/-! ### Turns -/

/-- What an operation is given is a proper value. -/
def Operation.IsProper : Operation → Prop
  | .subscribe v | .unsubscribe v | .sync v | .has v => v.IsProper
  | .snapshot => True

/-- An operation puts other keys in place of all. -/
def Operation.Replaces (op : Operation) : Prop :=
  ∃ keys kept, op = .sync keys ∧ keysOf keys = .ok kept

/-- The change of the membership of a key that the answer to an operation reports: to be in after a
subscribe of the same key that answers *true*, to be out after such an unsubscribe. -/
def turn? (k : Value) : Operation → Run Value → Option Bool
  | .subscribe key, answer => if key.same k && answer.answersTrue then some true else none
  | .unsubscribe key, answer => if key.same k && answer.answersTrue then some false else none
  | _, _ => none

theorem answersTrue_subscribe (s : Subscriptions) (key : Value) :
    (s.perform (.subscribe key)).2.answersTrue = s.adds key :=
  Bool.eq_iff_iff.2 ((Run.answersTrue_map_bool _).trans (subscribe_cases s key).2)

theorem answersTrue_unsubscribe (s : Subscriptions) (key : Value) :
    (s.perform (.unsubscribe key)).2.answersTrue = s.removes key :=
  Bool.eq_iff_iff.2 ((Run.answersTrue_map_bool _).trans (unsubscribe_cases s key).2)

/-- A subscribe reports the change that it makes. -/
theorem turn?_subscribe (hkey : key.CanBeAsked → key.IsKey) (hk : k.IsKey) :
    turn? k (.subscribe key) (s.perform (.subscribe key)).2 =
      if (s.subscribe key).1.member k = s.member k then none
      else some ((s.subscribe key).1.member k) := by
  rw [turn?, answersTrue_subscribe, member_subscribe]
  cases hadds : s.adds key with
  | false => simp
  | true =>
    obtain ⟨hhashable, hmember⟩ := adds_eq_true_iff.1 hadds
    have hkey := hkey (.inl hhashable)
    rw [hkey.same_comm hk]
    cases hsame : k.same key with
    | false => simp
    | true =>
      have hout : s.member k = false := (hk.isIn_congr hkey hsame s.keys).trans hmember
      simp [hout]

/-- An unsubscribe reports the change that it makes. -/
theorem turn?_unsubscribe (hkey : key.CanBeAsked → key.IsKey) (hk : k.IsKey) :
    turn? k (.unsubscribe key) (s.perform (.unsubscribe key)).2 =
      if (s.unsubscribe key).1.member k = s.member k then none
      else some ((s.unsubscribe key).1.member k) := by
  rw [turn?, answersTrue_unsubscribe, member_unsubscribe s hkey hk]
  cases hremoves : s.removes key with
  | false => simp
  | true =>
    obtain ⟨hasked, hmember⟩ := removes_eq_true_iff.1 hremoves
    have hkey := hkey hasked
    rw [hkey.same_comm hk]
    cases hsame : k.same key with
    | false => simp
    | true =>
      have hin : s.member k = true := (hk.isIn_congr hkey hsame s.keys).trans hmember
      simp [hin]

/-- An operation that does not replace all keys reports exactly the change that it makes. -/
theorem turn?_perform {op : Operation} (hop : op.IsProper) (hreplaces : ¬ op.Replaces)
    (hk : k.IsKey) :
    turn? k op (s.perform op).2 =
      if (s.perform op).1.member k = s.member k then none
      else some ((s.perform op).1.member k) := by
  cases op with
  | subscribe key => exact turn?_subscribe (Value.IsProper.isKey key hop) hk
  | unsubscribe key => exact turn?_unsubscribe (Value.IsProper.isKey key hop) hk
  | sync keys =>
    have hsame : (s.sync keys).1 = s := by
      unfold sync
      split
      case h_1 => rfl
      case h_2 kept hkept => exact absurd ⟨keys, kept, rfl, hkept⟩ hreplaces
    simp [turn?, perform, hsame]
  | has key => simp [turn?, perform]
  | snapshot => simp [turn?, perform]

/-! ### Sequences of operations -/

/-- The subscriptions after some operations. -/
def after (s : Subscriptions) (ops : List Operation) : Subscriptions :=
  (s.performAll ops).1

/-- The answers to some operations. -/
def answers (s : Subscriptions) (ops : List Operation) : List (Run Value) :=
  (s.performAll ops).2

@[simp] theorem after_nil (s : Subscriptions) : s.after [] = s := rfl

@[simp] theorem after_cons (s : Subscriptions) (op : Operation) (rest : List Operation) :
    s.after (op :: rest) = (s.perform op).1.after rest := rfl

@[simp] theorem answers_nil (s : Subscriptions) : s.answers [] = [] := rfl

@[simp] theorem answers_cons (s : Subscriptions) (op : Operation) (rest : List Operation) :
    s.answers (op :: rest) = (s.perform op).2 :: (s.perform op).1.answers rest := rfl

theorem after_append (s : Subscriptions) (xs ys : List Operation) :
    s.after (xs ++ ys) = (s.after xs).after ys := by
  induction xs generalizing s with
  | nil => rfl
  | cons op rest ih => exact ih _

theorem answers_append (s : Subscriptions) (xs ys : List Operation) :
    s.answers (xs ++ ys) = s.answers xs ++ (s.after xs).answers ys := by
  induction xs generalizing s with
  | nil => rfl
  | cons op rest ih => simp [ih]

@[simp] theorem length_answers (s : Subscriptions) (ops : List Operation) :
    (s.answers ops).length = ops.length := by
  induction ops generalizing s with
  | nil => rfl
  | cons op rest ih => simp [ih]

/-- The answer to an operation depends on what is in front of it alone. -/
theorem getElem?_answers (s : Subscriptions) (before later : List Operation) (op : Operation) :
    (s.answers (before ++ op :: later))[before.length]? = some ((s.after before).perform op).2 := by
  rw [answers_append, ← length_answers s before, List.getElem?_append_right (le_refl _)]
  simp

/-- The changes of a key that the answers to some operations report, in order. -/
def turns (s : Subscriptions) (k : Value) (ops : List Operation) : List Bool :=
  (ops.zip (s.answers ops)).filterMap fun call => turn? k call.1 call.2

theorem turns_cons (s : Subscriptions) (k : Value) (op : Operation) (rest : List Operation) :
    s.turns k (op :: rest) =
      (turn? k op (s.perform op).2).toList ++ (s.perform op).1.turns k rest := by
  simp only [turns, answers_cons, List.zip_cons_cons, List.filterMap_cons]
  cases turn? k op (s.perform op).2 <;> rfl

end Subscriptions

/-- The turns of a key between two times, in at the first time or not, and in at the second or not:
they alternate, the first of them ending what holds at the first time, and the times that the key
came in less the times that it went out are what the two times differ by. -/
structure Accounts (start : Bool) (turns : List Bool) (now : Bool) : Prop where
  alternates : (start :: turns).IsChain (· ≠ ·)
  balance : (turns.count true : Int) - turns.count false = now.toNat - start.toNat

theorem Accounts.nil (b : Bool) : Accounts b [] b :=
  ⟨.singleton b, by simp⟩

theorem Accounts.cons {start next now : Bool} {turns : List Bool} (h : Accounts next turns now)
    (hne : next ≠ start) : Accounts start (next :: turns) now := by
  refine ⟨List.isChain_cons_cons.2 ⟨hne.symm, h.alternates⟩, ?_⟩
  have hbalance := h.balance
  cases start <;> cases next <;> simp at hne hbalance ⊢ <;> omega

namespace Subscriptions

variable {s : Subscriptions} {k : Value}

/-- The turns of a key in a stretch without a replacement account for its membership. -/
theorem accounts_turns {ops : List Operation} (hops : ∀ op ∈ ops, op.IsProper)
    (hstretch : ∀ op ∈ ops, ¬ op.Replaces) (hk : k.IsKey) :
    Accounts (s.member k) (s.turns k ops) ((s.after ops).member k) := by
  induction ops generalizing s with
  | nil => exact .nil _
  | cons op rest ih =>
    obtain ⟨hop, hrest⟩ := List.forall_mem_cons.1 hops
    obtain ⟨hreplaces, hstretch⟩ := List.forall_mem_cons.1 hstretch
    have hturns := ih (s := (s.perform op).1) hrest hstretch
    rw [turns_cons, turn?_perform hop hreplaces hk, after_cons]
    split
    case isTrue hsame =>
      rw [hsame] at hturns
      exact hturns
    case isFalse hchanged => exact hturns.cons hchanged

/-- The question for a key is answered with its membership. -/
theorem perform_has (s : Subscriptions) (hk : k.IsKey) :
    (s.perform (.has k)).2 = Run.done (.bool (s.member k)) := by
  simp only [perform, has, contains_eq_ok hk.canBeAsked]
  rfl

end Subscriptions

end ChatCommands
