import ChatCommands.Proofs.Dispatch.Path
import ChatCommands.Proofs.Permission.Gate
import Mathlib.Data.List.Basic

/-!
# The stages of a descent

A stage is open to a message when its author holds what the command requires and its guard
consents.  A descent passes the open stages; the first stage that is not open ends it, and what
happens there is all that happens after the stages in front.

## Main definitions

* `Message.Permits`, `Engine.Consents`, `Stage.IsOpen` : the conditions of a stage.

## Main results

* `outcome_admits_eq_true_iff` : exactly the open stages admit a message.
* `descend_of_isOpen`, `descend_of_not_isOpen` : a descent through open stages only, and one that
  a stage ends.
* `isOpen_or_exists_split` : these are all descents.
-/

namespace ChatCommands

/-- The author of a message holds what a command requires, in the scope of the command. -/
def Message.Permits (m : Message) (c : Command) : Prop :=
  c.permissions.isNull = true ∨
    Permission.missing (m.held c.channel.isTruthy) c.permissions = .ok []

/-- The guard of a command, where there is one, answers with a truthy value. -/
def Engine.Consents (E : Engine) (m : Message) (config : GuildConfig) (view : Locale)
    (c : Command) : Prop :=
  c.guard.isNull = true ∨
    ∃ v, (E.call m config view c.guard []).outcome = .ok v ∧ v.isTruthy = true

/-- The permissions and the guard of a stage let a message through. -/
structure Stage.IsOpen (E : Engine) (m : Message) (config : GuildConfig) (s : Stage) : Prop where
  permits : m.Permits s.command
  consents : E.Consents m config s.view s.command

section Stage

variable {E : Engine} {m : Message} {config : GuildConfig} {l view : Locale} {c : Command}
  {s : Stage}

/-- A call that returns is not touched. -/
theorem Engine.outcome_call_of_ok {f : Callable} {args : List Value} {v : Value}
    (h : (E.invoke m config view f args).outcome = .ok v) :
    (E.call m config view (.callable f) args).outcome = .ok v := by
  simp only [Engine.call, Run.mapError, h, Except.mapError]

/-! ### Permissions -/

theorem blocks_of_isNull (h : c.permissions.isNull = true) : blocks E m l c = pure false := by
  rw [blocks, if_pos h]

theorem blocks_eq_gate (h : ¬ c.permissions.isNull = true) :
    blocks E m l c = Permission.gate E.host m l c.permissions c.channel.isTruthy := by
  rw [blocks, if_neg h]

theorem outcome_blocks_eq_false_iff : (blocks E m l c).outcome = .ok false ↔ m.Permits c := by
  by_cases hnull : c.permissions.isNull = true
  · rw [blocks_of_isNull hnull]
    exact ⟨fun _ => .inl hnull, fun _ => rfl⟩
  · rw [blocks_eq_gate hnull, Permission.outcome_gate_eq_false_iff]
    exact ⟨.inr, fun h => h.resolve_left hnull⟩

theorem blocks_of_permits (h : m.Permits c) : blocks E m l c = pure false := by
  by_cases hnull : c.permissions.isNull = true
  · exact blocks_of_isNull hnull
  · rw [blocks_eq_gate hnull]
    exact Permission.gate_of_nil (h.resolve_left hnull)

/-- A blocked message is answered by exactly one reply. -/
theorem replies_blocks_of_true (ht : (blocks E m l c).outcome = .ok true) :
    ∃ text, (blocks E m l c).replies = [text] := by
  by_cases hnull : c.permissions.isNull = true
  · rw [blocks_of_isNull hnull] at ht
    cases ht
  · rw [blocks_eq_gate hnull] at ht ⊢
    exact Permission.replies_gate_of_true ht

theorem emits_isOwn_blocks (E : Engine) (m : Message) (l : Locale) (c : Command) :
    (blocks E m l c).Emits Event.IsOwn := by
  unfold blocks
  split
  · exact .pure _
  · exact Permission.emits_isOwn_gate _ _ _ _ _

/-! ### Guards -/

/-- What follows on the answer of a guard. -/
def heed (c : Command) (verdict : Value) : Run Bool :=
  if verdict.isTruthy then return false
  else do
    Run.log .info .commands ("guard of " ++ c.name.literal ++ " rejected the invocation")
    return true

theorem quiet_heed (c : Command) (verdict : Value) : (heed c verdict).Quiet := by
  unfold heed
  split
  · exact .pure _
  · exact (Run.quiet_log _ _ _).bind fun _ => .pure _

theorem outcome_heed (c : Command) (verdict : Value) :
    (heed c verdict).outcome = .ok (!verdict.isTruthy) := by
  unfold heed
  cases verdict.isTruthy <;> rfl

theorem rejects_of_isNull (h : c.guard.isNull = true) : rejects E m config view c = pure false := by
  rw [rejects, if_pos h]

theorem rejects_eq_heed (h : ¬ c.guard.isNull = true) :
    rejects E m config view c = E.call m config view c.guard [] >>= heed c := by
  rw [rejects, if_neg h]
  rfl

/-- A guard rejects a message exactly if its call ends with a value that is not truthy. -/
theorem outcome_rejects_of_ok (h : ¬ c.guard.isNull = true) {v : Value}
    (hv : (E.call m config view c.guard []).outcome = .ok v) :
    (rejects E m config view c).outcome = .ok (!v.isTruthy) := by
  rw [rejects_eq_heed h, Run.bind_of_ok hv]
  exact outcome_heed c v

theorem outcome_rejects_of_error (h : ¬ c.guard.isNull = true) {e : Error}
    (he : (E.call m config view c.guard []).outcome = .error e) :
    (rejects E m config view c).outcome = .error e := by
  rw [rejects_eq_heed h, Run.bind_of_error he]

theorem outcome_rejects_eq_false_iff :
    (rejects E m config view c).outcome = .ok false ↔ E.Consents m config view c := by
  by_cases hnull : c.guard.isNull = true
  · rw [rejects_of_isNull hnull]
    exact ⟨fun _ => .inl hnull, fun _ => rfl⟩
  · cases hv : (E.call m config view c.guard []).outcome with
    | error e =>
      rw [outcome_rejects_of_error hnull hv]
      refine ⟨fun hf => (by cases hf), fun h => ?_⟩
      obtain ⟨v, hv', -⟩ := h.resolve_left hnull
      rw [hv] at hv'
      cases hv'
    | ok v =>
      rw [outcome_rejects_of_ok hnull hv]
      constructor
      · intro hf
        exact .inr ⟨v, hv, by simpa using hf⟩
      · intro h
        obtain ⟨w, hw, htruthy⟩ := h.resolve_left hnull
        rw [hv] at hw
        cases hw
        rw [htruthy]
        rfl

/-! ### What a stage does -/

/-- A stage whose permissions let the message through leaves the decision to its guard. -/
theorem admits_of_permits (h : m.Permits s.command) :
    s.admits E m config = logMatch s.command s.token >>= fun _ =>
      rejects E m config s.view s.command >>= fun isRejected => pure !isRejected := by
  rw [Stage.admits, blocks_of_permits h]
  refine bind_congr fun _ => ?_
  rw [pure_bind, if_neg Bool.false_ne_true]
  refine bind_congr fun isRejected => ?_
  cases isRejected <;> rfl

/-- A stage whose permissions do not let the message through does nothing after its gate. -/
theorem admits_of_not_permits (h : ¬ m.Permits s.command) :
    s.admits E m config = logMatch s.command s.token >>= fun _ =>
      blocks E m s.outer s.command >>= fun _ => pure false := by
  rw [Stage.admits]
  refine bind_congr fun _ => ?_
  cases hblocks : (blocks E m s.outer s.command).outcome with
  | error e => rw [Run.bind_of_error hblocks, Run.bind_of_error hblocks]
  | ok isBlocked =>
    cases isBlocked with
    | false => exact absurd (outcome_blocks_eq_false_iff.mp hblocks) h
    | true => rw [Run.bind_of_ok hblocks, Run.bind_of_ok hblocks]; rfl

/-- Exactly the open stages admit a message. -/
theorem outcome_admits_eq_true_iff :
    (s.admits E m config).outcome = .ok true ↔ s.IsOpen E m config := by
  by_cases hpermits : m.Permits s.command
  · have hconsents : (rejects E m config s.view s.command).outcome = .ok false ↔
        E.Consents m config s.view s.command := outcome_rejects_eq_false_iff
    rw [admits_of_permits hpermits, logMatch, Run.outcome_log_bind]
    constructor
    · intro ht
      obtain ⟨isRejected, hrejects, hnot⟩ := Run.exists_of_bind_ok ht
      cases isRejected with
      | false => exact ⟨hpermits, hconsents.mp hrejects⟩
      | true => cases hnot
    · intro hopen
      rw [Run.bind_of_ok (hconsents.mpr hopen.consents)]
      rfl
  · rw [admits_of_not_permits hpermits, logMatch, Run.outcome_log_bind]
    refine ⟨fun ht => ?_, fun hopen => absurd hopen.permits hpermits⟩
    obtain ⟨_, -, hfalse⟩ := Run.exists_of_bind_ok ht
    cases hfalse

end Stage

/-! ### What a descent does -/

section Descent

variable {E : Engine} {m : Message} {config : GuildConfig}

/-- Everything that some stages do, one after another. -/
def admissions (E : Engine) (m : Message) (config : GuildConfig) (path : List Stage) : List Event :=
  path.flatMap fun s => (s.admits E m config).events

/-- A descent through open stages only comes to its end. -/
theorem descend_of_isOpen {path : List Stage} (hopen : ∀ s ∈ path, s.IsOpen E m config)
    (final : Run Unit) :
    descend E m config final path =
      ⟨admissions E m config path ++ final.events, final.outcome⟩ := by
  induction path with
  | nil => rfl
  | cons s later ih =>
    obtain ⟨hs, hlater⟩ := List.forall_mem_cons.mp hopen
    rw [descend, Run.bind_of_ok (outcome_admits_eq_true_iff.mpr hs), if_pos rfl, ih hlater]
    simp only [admissions, List.flatMap_cons, List.append_assoc]

/-- The first stage that is not open ends a descent. -/
theorem descend_of_not_isOpen {front : List Stage} {s : Stage}
    (hfront : ∀ t ∈ front, t.IsOpen E m config) (hs : ¬ s.IsOpen E m config)
    (later : List Stage) (final : Run Unit) :
    descend E m config final (front ++ s :: later) =
      ⟨admissions E m config front ++ (s.admits E m config).events,
        (s.admits E m config).outcome.map fun _ => ()⟩ := by
  induction front with
  | nil =>
    rw [List.nil_append, descend]
    cases hadmits : (s.admits E m config).outcome with
    | error e => rw [Run.bind_of_error hadmits]; rfl
    | ok isAdmitted =>
      rw [Run.bind_of_ok hadmits]
      cases isAdmitted with
      | false => simp [admissions, Except.map]
      | true => exact absurd (outcome_admits_eq_true_iff.mp hadmits) hs
  | cons t front ih =>
    obtain ⟨ht, hfront⟩ := List.forall_mem_cons.mp hfront
    rw [List.cons_append, descend, Run.bind_of_ok (outcome_admits_eq_true_iff.mpr ht), if_pos rfl,
      ih hfront]
    simp only [admissions, List.flatMap_cons, List.append_assoc]

/-- Either all stages of a path are open or a first one is not. -/
theorem isOpen_or_exists_split (E : Engine) (m : Message) (config : GuildConfig)
    (path : List Stage) :
    (∀ s ∈ path, s.IsOpen E m config) ∨
      ∃ front s later, path = front ++ s :: later ∧ (∀ t ∈ front, t.IsOpen E m config) ∧
        ¬ s.IsOpen E m config := by
  classical
  cases hfind : path.find? fun s => ¬ s.IsOpen E m config with
  | none =>
    refine .inl fun s hs => ?_
    simpa using List.find?_eq_none.mp hfind s hs
  | some s =>
    obtain ⟨hs, front, later, hpath, hfront⟩ := List.find?_eq_some_iff_append.mp hfind
    exact .inr ⟨front, s, later, hpath, fun t ht => by simpa using hfront t ht, by simpa using hs⟩

end Descent

end ChatCommands
