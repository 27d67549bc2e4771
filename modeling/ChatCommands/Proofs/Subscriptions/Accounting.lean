import ChatCommands.Proofs.Subscriptions.Membership

/-!
# Accounting for subscriptions

The keys of subscriptions are a set at every time: hashable and pairwise different.  Two lists of
keys are the same set when they have equally many members and the same keys are in them.
Operations that only subscribe lead to the same set, with the same number of answers *true*, in
whatever order they take turns; so the tasks that subscribe concurrently agree on which keys were
new.

## Main definitions

* `SameKeys` : lists of keys that are the same set.
* `Subscriptions.countTrue` : how many operations answer *true*.
* `Subscriptions.AreAlike` : sequences of operations that do the same.
* `IsInterleaving` : the orders in which the operations of tasks can take turns.
* `IsAccount` : what the answers say about every key at every time.

## Main results

* `Subscriptions.isProper_snapshot_after` : the keys are a set at every time.
* `Subscriptions.sameKeys_swap` : two subscribes in either order.
* `Subscriptions.areAlike_of_perm` : subscribes in any order.
* `subscriptions_account` : what the answers account for.
-/

namespace ChatCommands

open Subscriptions

/-! ### The same keys -/

/-- Two lists of keys are the same set: equally long, with the same keys in them. -/
structure SameKeys (xs ys : List Value) : Prop where
  length : xs.length = ys.length
  isIn : ∀ k : Value, k.IsKey → k.isIn xs = k.isIn ys

namespace SameKeys

variable {xs ys zs : List Value}

theorem refl (xs : List Value) : SameKeys xs xs :=
  ⟨rfl, fun _ _ => rfl⟩

theorem trans (h : SameKeys xs ys) (h' : SameKeys ys zs) : SameKeys xs zs :=
  ⟨h.length.trans h'.length, fun k hk => (h.isIn k hk).trans (h'.isIn k hk)⟩

theorem append_singleton (h : SameKeys xs ys) (v : Value) : SameKeys (xs ++ [v]) (ys ++ [v]) := by
  refine ⟨by simp [h.length], fun k hk => ?_⟩
  rw [isIn_append, isIn_append, h.isIn k hk]

/-- Of two keys that are the same either one may be added. -/
theorem append_of_same {a b : Value} (ha : a.IsKey) (h : a.same b = true)
    (xs : List Value) : SameKeys (xs ++ [a]) (xs ++ [b]) := by
  refine ⟨by simp, fun k hk => ?_⟩
  have hsame : k.same a = k.same b :=
    Bool.eq_iff_iff.2 ⟨fun hka => hk.same_trans hka h,
      fun hkb => hk.same_trans hkb (ha.same_symm h)⟩
  rw [isIn_append, isIn_append, isIn_singleton, isIn_singleton, hsame]

theorem append_swap (a b : Value) (xs : List Value) :
    SameKeys (xs ++ [a] ++ [b]) (xs ++ [b] ++ [a]) := by
  refine ⟨by simp, fun k _ => ?_⟩
  simp only [isIn_append, isIn_singleton, Bool.or_assoc, Bool.or_comm (k.same a)]

/-- Snapshots of the same keys are equal. -/
theorem equals_set (h : SameKeys xs ys) (hkeys : ∀ v ∈ xs, v.IsKey) :
    (Value.set true xs).equals (.set true ys) = true := by
  refine (Value.same_set_iff true xs _).2 ⟨true, ys, rfl, h.length, fun v hv => ?_⟩
  have hin : v.isIn ys = true := by
    rw [← h.isIn v (hkeys v hv)]
    exact List.any_eq_true.2 ⟨v, hv, (hkeys v hv).same_refl⟩
  exact List.any_eq_true.1 hin

end SameKeys

namespace Subscriptions

variable {s t : Subscriptions} {a b key : Value}

/-! ### The keys are a set -/

theorem isProper_set_iff (isFrozen : Bool) (items : List Value) :
    (Value.set isFrozen items).IsProper ↔ (∀ v ∈ items, v.IsProper) ∧
      (∀ v ∈ items, v.unhashableType? = none) ∧
      items.Pairwise fun v w => v.same w = false := by
  simp [Value.IsProper, Value.areProper_iff]

theorem forall_mem_map_isProper {α : Type} {f : α → Value} (hf : ∀ x, (f x).IsProper)
    (xs : List α) : ∀ w ∈ xs.map f, w.IsProper :=
  List.forall_mem_map.2 fun x _ => hf x

/-- What a proper value goes through is proper. -/
theorem isProper_elements {v : Value} {items : List Value} (hv : v.IsProper)
    (hitems : v.elements? = some items) : ∀ w ∈ items, w.IsProper := by
  cases v <;> simp only [Value.elements?, Option.some.injEq, reduceCtorEq] at hitems <;>
    subst hitems
  case text => exact forall_mem_map_isProper (fun _ => by simp [Value.IsProper]) _
  case bytes => exact forall_mem_map_isProper (fun _ => by simp [Value.IsProper]) _
  case list => simpa [Value.IsProper, Value.areProper_iff] using hv
  case tuple => simpa [Value.IsProper, Value.areProper_iff] using hv
  case set => exact ((isProper_set_iff _ _).1 hv).1
  case map => exact forall_mem_map_isProper (fun _ => by simp [Value.IsProper]) _
  case stream => simpa [Value.IsProper, Value.areProper_iff] using hv
  case permissions => exact forall_mem_map_isProper (fun _ => by simp [Value.IsProper]) _
  case styled => exact forall_mem_map_isProper (fun _ => by simp [Value.IsProper]) _

theorem isProper_set_append {items : List Value} (h : (Value.set true items).IsProper)
    (hkey : key.IsProper) (hhashable : key.unhashableType? = none)
    (hnew : key.isIn items = false) : (Value.set true (items ++ [key])).IsProper := by
  obtain ⟨hproper, hall, hdifferent⟩ := (isProper_set_iff true items).1 h
  refine (isProper_set_iff true _).2 ⟨?_, ?_, ?_⟩
  · simpa [or_imp, forall_and] using ⟨hproper, hkey⟩
  · simpa [or_imp, forall_and] using ⟨hall, hhashable⟩
  · refine List.pairwise_append.2 ⟨hdifferent, List.pairwise_singleton _ _, fun v hv w hw => ?_⟩
    obtain rfl := List.mem_singleton.1 hw
    have hv_key := Value.IsProper.isKey v (hproper v hv) (.inl (hall v hv))
    have hne := List.any_eq_false.1 hnew v hv
    exact Bool.eq_false_iff.2 fun hvw => hne (hv_key.same_symm hvw)

theorem isProper_set_distinct {items : List Value} (hproper : ∀ v ∈ items, v.IsProper)
    (hhashable : ∀ v ∈ items, v.unhashableType? = none) :
    (Value.set true (Value.distinct items)).IsProper := by
  have hfold : ∀ kept, (Value.set true kept).IsProper →
      (Value.set true (items.foldl
        (fun kept v => if v.isIn kept then kept else kept ++ [v]) kept)).IsProper := by
    induction items with
    | nil => exact fun kept hkept => hkept
    | cons v rest ih =>
      intro kept hkept
      obtain ⟨hv, hproper⟩ := List.forall_mem_cons.1 hproper
      obtain ⟨hv', hhashable⟩ := List.forall_mem_cons.1 hhashable
      refine ih hproper hhashable _ ?_
      dsimp only
      split
      case isTrue => exact hkept
      case isFalse hnew => exact isProper_set_append hkept hv hv' (Bool.eq_false_iff.2 hnew)
  exact hfold [] (by simp [isProper_set_iff])

theorem isProper_set_keysOf {keys : Value} {kept : List Value} (hkeys : keys.IsProper)
    (h : keysOf keys = .ok kept) : (Value.set true kept).IsProper := by
  obtain ⟨items, hitems, hhashable, rfl⟩ := keysOf_eq_ok_iff.1 h
  exact isProper_set_distinct (isProper_elements hkeys hitems) hhashable

theorem isProper_snapshot_ofValue {given : Value} (hgiven : given.IsProper)
    (h : ofValue given = .ok s) : s.snapshot.IsProper := by
  rw [ofValue] at h
  cases hkept : keysOf given with
  | error e => simp [hkept, Except.map] at h
  | ok kept =>
    simp only [hkept, Except.map, Except.ok.injEq] at h
    rw [← h]
    exact isProper_set_keysOf hgiven hkept

/-- An operation leaves a set of keys. -/
theorem isProper_snapshot_perform (hs : s.snapshot.IsProper) {op : Operation}
    (hop : op.IsProper) : (s.perform op).1.snapshot.IsProper := by
  cases op with
  | subscribe key =>
    rw [perform, (subscribe_cases s key).1]
    split
    case isTrue hadds =>
      obtain ⟨hhashable, hmember⟩ := adds_eq_true_iff.1 hadds
      exact isProper_set_append hs hop hhashable hmember
    case isFalse => exact hs
  | unsubscribe key =>
    rw [perform, (unsubscribe_cases s key).1]
    split
    case isTrue =>
      obtain ⟨hproper, hall, hdifferent⟩ := (isProper_set_iff true s.keys).1 hs
      exact (isProper_set_iff true _).2 ⟨fun v hv => hproper v (List.mem_of_mem_filter hv),
        fun v hv => hall v (List.mem_of_mem_filter hv), hdifferent.filter _⟩
    case isFalse => exact hs
  | sync keys =>
    simp only [perform, sync]
    split
    case h_1 => exact hs
    case h_2 kept hkept => exact isProper_set_keysOf hop hkept
  | has => exact hs
  | snapshot => exact hs

/-- The keys are a set after any operations. -/
theorem isProper_snapshot_after (hs : s.snapshot.IsProper) {ops : List Operation}
    (hops : ∀ op ∈ ops, op.IsProper) : (s.after ops).snapshot.IsProper := by
  induction ops generalizing s with
  | nil => exact hs
  | cons op rest ih =>
    obtain ⟨hop, hrest⟩ := List.forall_mem_cons.1 hops
    exact ih (isProper_snapshot_perform hs hop) hrest

theorem isKey_of_mem_keys (hs : s.snapshot.IsProper) : ∀ v ∈ s.keys, v.IsKey := by
  obtain ⟨hproper, hall, -⟩ := (isProper_set_iff true s.keys).1 hs
  exact fun v hv => Value.IsProper.isKey v (hproper v hv) (.inl (hall v hv))

/-! ### Subscribing in any order -/

/-- How many operations answer *true*. -/
def countTrue (s : Subscriptions) (ops : List Operation) : Nat :=
  (s.answers ops).countP Run.answersTrue

theorem countTrue_subscribe (s : Subscriptions) (key : Value) (rest : List Operation) :
    s.countTrue (.subscribe key :: rest) =
      (s.adds key).toNat + (s.subscribe key).1.countTrue rest := by
  rw [countTrue, answers_cons, List.countP_cons, answersTrue_subscribe, Nat.add_comm]
  cases s.adds key <;> rfl

theorem subscribe_of_adds (h : s.adds key = true) :
    (s.subscribe key).1 = ⟨s.keys ++ [key]⟩ := by
  rw [(subscribe_cases s key).1, if_pos h]

theorem subscribe_of_not_adds (h : s.adds key = false) : (s.subscribe key).1 = s := by
  rw [(subscribe_cases s key).1, h]
  rfl

/-- A subscribe does the same to the same keys. -/
theorem sameKeys_subscribe (h : SameKeys s.keys t.keys) (hkey : key.IsProper) :
    s.adds key = t.adds key ∧ SameKeys (s.subscribe key).1.keys (t.subscribe key).1.keys := by
  have hadds : s.adds key = t.adds key := by
    cases hhashable : key.unhashableType? with
    | some obstacle => simp [adds, hhashable]
    | none =>
      have hmember := h.isIn key (Value.IsProper.isKey key hkey (.inl hhashable))
      simp only [adds, hhashable, member, hmember]
  refine ⟨hadds, ?_⟩
  cases hs : s.adds key with
  | false =>
    rw [subscribe_of_not_adds hs, subscribe_of_not_adds (hadds.symm.trans hs)]
    exact h
  | true =>
    rw [subscribe_of_adds hs, subscribe_of_adds (hadds.symm.trans hs)]
    exact h.append_singleton key

/-- After a subscribe of `a`, a subscribe of `b` adds it when it did so before and is not the same
as `a`, should that be new. -/
theorem adds_subscribe (s : Subscriptions) (a b : Value) :
    (s.subscribe a).1.adds b = (s.adds b && !(s.adds a && b.same a)) := by
  simp only [adds, member_subscribe, Bool.not_or, Bool.and_assoc]

/-- Two subscribes in either order answer *true* equally often and lead to the same keys. -/
theorem sameKeys_swap (s : Subscriptions) (ha : a.IsProper) (hb : b.IsProper) :
    (s.adds a).toNat + ((s.subscribe a).1.adds b).toNat =
        (s.adds b).toNat + ((s.subscribe b).1.adds a).toNat ∧
      SameKeys ((s.subscribe a).1.subscribe b).1.keys ((s.subscribe b).1.subscribe a).1.keys := by
  have hab := adds_subscribe s a b
  have hba := adds_subscribe s b a
  cases hadds_a : s.adds a with
  | false =>
    rw [hadds_a, Bool.false_and, Bool.not_false, Bool.and_true] at hab
    rw [hadds_a, Bool.false_and] at hba
    rw [hab, hba, subscribe_of_not_adds hadds_a, subscribe_of_not_adds hba]
    exact ⟨Nat.add_comm _ _, .refl _⟩
  | true =>
    cases hadds_b : s.adds b with
    | false =>
      rw [hadds_b, Bool.false_and] at hab
      rw [hadds_a, hadds_b, Bool.false_and, Bool.not_false, Bool.and_true] at hba
      rw [hab, hba, subscribe_of_not_adds hab, subscribe_of_not_adds hadds_b]
      exact ⟨Nat.add_comm _ _, .refl _⟩
    | true =>
      have ha_key := Value.IsProper.isKey a ha (.inl (adds_eq_true_iff.1 hadds_a).1)
      have hb_key := Value.IsProper.isKey b hb (.inl (adds_eq_true_iff.1 hadds_b).1)
      rw [hadds_a, hadds_b, Bool.true_and, Bool.true_and] at hab hba
      rw [hb_key.same_comm ha_key] at hab
      cases hsame : a.same b with
      | true =>
        rw [hsame] at hab hba
        rw [hab, hba, subscribe_of_not_adds hab, subscribe_of_not_adds hba,
          subscribe_of_adds hadds_a, subscribe_of_adds hadds_b]
        exact ⟨rfl, .append_of_same ha_key hsame _⟩
      | false =>
        rw [hsame] at hab hba
        rw [hab, hba, subscribe_of_adds hab, subscribe_of_adds hba, subscribe_of_adds hadds_a,
          subscribe_of_adds hadds_b]
        exact ⟨rfl, .append_swap a b s.keys⟩

/-- An operation is a subscribe. -/
def Operation.IsSubscribe (op : Operation) : Prop :=
  ∃ key, op = .subscribe key

/-- Two sequences of operations answer *true* equally often and lead to the same keys when they
start from the same keys. -/
def AreAlike (ops ops' : List Operation) : Prop :=
  ∀ s t : Subscriptions, SameKeys s.keys t.keys →
    s.countTrue ops = t.countTrue ops' ∧ SameKeys (s.after ops).keys (t.after ops').keys

theorem AreAlike.nil : AreAlike [] [] :=
  fun _ _ h => ⟨rfl, h⟩

theorem AreAlike.cons {ops ops' : List Operation} (h : AreAlike ops ops') (hkey : key.IsProper) :
    AreAlike (.subscribe key :: ops) (.subscribe key :: ops') := by
  intro s t hst
  obtain ⟨hadds, hsame⟩ := sameKeys_subscribe hst hkey
  obtain ⟨hcount, hafter⟩ := h _ _ hsame
  exact ⟨by rw [countTrue_subscribe, countTrue_subscribe, hadds, hcount], hafter⟩

theorem AreAlike.trans {xs ys zs : List Operation} (h : AreAlike xs ys) (h' : AreAlike ys zs) :
    AreAlike xs zs := by
  intro s t hst
  obtain ⟨hcount, hafter⟩ := h s t hst
  obtain ⟨hcount', hafter'⟩ := h' t t (.refl t.keys)
  exact ⟨hcount.trans hcount', hafter.trans hafter'⟩

theorem areAlike_refl {ops : List Operation}
    (hops : ∀ op ∈ ops, op.IsProper ∧ op.IsSubscribe) : AreAlike ops ops := by
  induction ops with
  | nil => exact .nil
  | cons op rest ih =>
    obtain ⟨⟨hop, key, rfl⟩, hrest⟩ := List.forall_mem_cons.1 hops
    exact (ih hrest).cons hop

theorem areAlike_swap (ha : a.IsProper) (hb : b.IsProper) {rest : List Operation}
    (hrest : AreAlike rest rest) :
    AreAlike (.subscribe a :: .subscribe b :: rest) (.subscribe b :: .subscribe a :: rest) := by
  intro s t hst
  obtain ⟨hcount, hsame⟩ := sameKeys_swap s ha hb
  obtain ⟨hcount_rest, hafter⟩ := hrest _ _ hsame
  obtain ⟨hcount', hafter'⟩ := ((hrest.cons ha).cons hb) s t hst
  refine ⟨Eq.trans ?_ hcount', hafter.trans hafter'⟩
  simp only [countTrue_subscribe, ← Nat.add_assoc, hcount, hcount_rest]

/-- Subscribes in any order do the same to the same keys. -/
theorem areAlike_of_perm {ops ops' : List Operation} (hperm : ops.Perm ops')
    (hops : ∀ op ∈ ops, op.IsProper ∧ op.IsSubscribe) : AreAlike ops ops' := by
  induction hperm with
  | nil => exact .nil
  | cons op _ ih =>
    obtain ⟨⟨hop, key, rfl⟩, hrest⟩ := List.forall_mem_cons.1 hops
    exact (ih hrest).cons hop
  | swap op op' rest =>
    obtain ⟨⟨ha, a, rfl⟩, ⟨hb, b, rfl⟩, hrest⟩ := by simpa only [List.forall_mem_cons] using hops
    exact areAlike_swap ha hb (areAlike_refl hrest)
  | trans hfirst _ ih ih' =>
    exact (ih hops).trans (ih' fun op hop => hops op (hfirst.mem_iff.2 hop))

end Subscriptions

/-! ### Tasks -/

/-- The orders in which the operations of tasks can take turns: whenever it is somebody's turn, one
of the tasks goes on with its next operation. -/
inductive IsInterleaving : List (List Operation) → List Operation → Prop
  | done {tasks : List (List Operation)} (h : ∀ task ∈ tasks, task = []) : IsInterleaving tasks []
  | turn {front back : List (List Operation)} {op : Operation} {rest ops : List Operation}
      (h : IsInterleaving (front ++ rest :: back) ops) :
      IsInterleaving (front ++ (op :: rest) :: back) (op :: ops)

theorem IsInterleaving.perm {tasks : List (List Operation)} {ops : List Operation}
    (h : IsInterleaving tasks ops) : ops.Perm tasks.flatten := by
  induction h with
  | done h => rw [List.flatten_eq_nil_iff.2 h]
  | @turn front back op rest ops _ ih =>
    rw [List.flatten_append, List.flatten_cons] at ih ⊢
    exact (ih.cons op).trans List.perm_middle.symm

/-! ### The account -/

/-- What the answers to operations on subscriptions that start with given keys say about every key
at every time.  A key is subscribed at the start, and after a sync, exactly when it is among the
given values; the turns of a key in any stretch without a replacement account for its membership;
and a question is answered with the membership at its time, whatever comes later. -/
structure IsAccount (given : Value) (s : Subscriptions) (ops : List Operation) : Prop where
  starts : ∀ (k : Value) (items : List Value), k.IsKey → given.elements? = some items →
    s.member k = k.isIn items
  syncs : ∀ (before later : List Operation) (keys k : Value) (items : List Value),
    ops = before ++ .sync keys :: later → k.IsKey → keys.elements? = some items →
    (∀ v ∈ items, v.unhashableType? = none) →
    (s.after (before ++ [.sync keys])).member k = k.isIn items
  accounts : ∀ (before stretch later : List Operation) (k : Value),
    ops = before ++ stretch ++ later → k.IsKey → (∀ op ∈ stretch, ¬ op.Replaces) →
    Accounts ((s.after before).member k) ((s.after before).turns k stretch)
      ((s.after (before ++ stretch)).member k)
  has : ∀ (before later : List Operation) (k : Value), ops = before ++ .has k :: later →
    k.IsKey → (s.answers ops)[before.length]? = some (Run.done (.bool ((s.after before).member k)))
  snapshot : ∀ before later : List Operation, ops = before ++ .snapshot :: later →
    ∃ items, (s.answers ops)[before.length]? = some (Run.done (.set true items)) ∧
      (Value.set true items).IsProper ∧
      ∀ k : Value, k.IsKey → k.isIn items = (s.after before).member k
  detached : ∀ before later : List Operation, ops = before ++ later →
    s.answers ops = s.answers before ++ (s.after before).answers later

theorem isAccount {given : Value} {s : Subscriptions} (hgiven : given.IsProper)
    (hs : ofValue given = .ok s) {ops : List Operation} (hops : ∀ op ∈ ops, op.IsProper) :
    IsAccount given s ops where
  starts k items hk hitems := member_ofValue hs hitems hk
  syncs before later keys k items hsplit hk hitems hhashable := by
    rw [after_append]
    exact member_sync _ hk hitems hhashable
  accounts before stretch later k hsplit hk hstretch := by
    have hproper : ∀ op ∈ stretch, op.IsProper := by
      rintro op hop
      exact hops op (by simp [hsplit, hop])
    rw [after_append]
    exact accounts_turns hproper hstretch hk
  has before later k hsplit hk := by
    rw [hsplit, getElem?_answers, perform_has _ hk]
  snapshot before later hsplit := by
    have hproper : ∀ op ∈ before, op.IsProper := by
      rintro op hop
      exact hops op (by simp [hsplit, hop])
    refine ⟨(s.after before).keys, by rw [hsplit, getElem?_answers]; rfl, ?_, fun _ _ => rfl⟩
    exact isProper_snapshot_after (isProper_snapshot_ofValue hgiven hs) hproper
  detached before later hsplit := by
    rw [hsplit, answers_append]

/-- Subscriptions that start with given keys answer the operations of tasks, in whatever order these
take turns, so that the answers account for the membership of every key.  When the tasks only
subscribe, any other order answers *true* equally often and leads to the same keys, so that the
last snapshots are equal. -/
theorem subscriptions_account {given : Value} {s : Subscriptions} (hgiven : given.IsProper)
    (hs : ofValue given = .ok s) {tasks : List (List Operation)}
    (htasks : ∀ task ∈ tasks, ∀ op ∈ task, op.IsProper) {ops : List Operation}
    (hops : IsInterleaving tasks ops) :
    IsAccount given s ops ∧
      ((∀ task ∈ tasks, ∀ op ∈ task, op.IsSubscribe) →
        ∀ ops' : List Operation, IsInterleaving tasks ops' →
          s.countTrue ops = s.countTrue ops' ∧
            SameKeys (s.after ops).keys (s.after ops').keys ∧
            (s.after ops).snapshot.equals (s.after ops').snapshot = true) := by
  have hmem : ∀ op ∈ ops, ∃ task ∈ tasks, op ∈ task := fun op hop =>
    List.mem_flatten.1 (hops.perm.mem_iff.1 hop)
  have hproper : ∀ op ∈ ops, op.IsProper := by
    rintro op hop
    obtain ⟨task, htask, hin⟩ := hmem op hop
    exact htasks task htask op hin
  refine ⟨isAccount hgiven hs hproper, fun hsubscribe ops' hops' => ?_⟩
  have hall : ∀ op ∈ ops, op.IsProper ∧ op.IsSubscribe := by
    rintro op hop
    obtain ⟨task, htask, hin⟩ := hmem op hop
    exact ⟨hproper op hop, hsubscribe task htask op hin⟩
  obtain ⟨hcount, hsame⟩ :=
    areAlike_of_perm (hops.perm.trans hops'.perm.symm) hall s s (.refl s.keys)
  have hset := isProper_snapshot_after (isProper_snapshot_ofValue hgiven hs) hproper
  exact ⟨hcount, hsame, hsame.equals_set (isKey_of_mem_keys hset)⟩

/-- Two tasks subscribe a callable, and one of them a channel that is subscribed from the start. -/
theorem subscriptions_account_channels :
    let given : Value := .list [.text "UC1"]
    let s : Subscriptions := ⟨[.text "UC1"]⟩
    let first : Operation := .subscribe (.text "UC1")
    let second : Operation := .subscribe (.callable (.routine "feed"))
    given.IsProper ∧ ofValue given = .ok s ∧
      IsInterleaving [[second, first], [second]] [second, second, first] ∧
      IsAccount given s [second, second, first] ∧
      s.countTrue [second, second, first] = s.countTrue [second, first, second] ∧
      (s.after [second, second, first]).snapshot.equals
        (s.after [second, first, second]).snapshot = true := by
  intro given s first second
  have hgiven : given.IsProper := by simp [given, Value.IsProper, Value.AreProper]
  have hs : ofValue given = .ok s := rfl
  have htasks : ∀ task ∈ [[second, first], [second]], ∀ op ∈ task, op.IsProper := by
    simp [first, second, Operation.IsProper, Value.IsProper]
  have hsubscribe : ∀ task ∈ [[second, first], [second]], ∀ op ∈ task, op.IsSubscribe := by
    simp [first, second, Operation.IsSubscribe]
  have hdone : IsInterleaving [[], []] [] := .done (by simp)
  have hops : IsInterleaving [[second, first], [second]] [second, second, first] :=
    @IsInterleaving.turn [] [[second]] second [first] _
      (@IsInterleaving.turn [[first]] [] second [] _
        (@IsInterleaving.turn [] [[]] first [] _ hdone))
  have hops' : IsInterleaving [[second, first], [second]] [second, first, second] :=
    @IsInterleaving.turn [] [[second]] second [first] _
      (@IsInterleaving.turn [] [[second]] first [] _
        (@IsInterleaving.turn [[]] [] second [] _ hdone))
  have haccount := subscriptions_account hgiven hs htasks hops
  obtain ⟨hcount, -, hsnapshots⟩ := haccount.2 hsubscribe _ hops'
  exact ⟨hgiven, hs, hops, haccount.1, hcount, hsnapshots⟩

end ChatCommands
