import ChatCommands.Run

/-!
# Events of runs

A run followed by another keeps its events, and the second run counts only when the first one
ends with a value.  Runs are a lawful monad, so that a run may be regrouped into steps without
changing what it does.

## Main definitions

* `Event.reply?`, `Run.replies` : the replies among the events of a run, in order.
* `Event.IsRecord` : log records and what is shown on a console.
* `Event.IsOwn` : everything but the report of a call.
* `Run.Emits`, `Run.Quiet` : every event of a run satisfies a condition; is a record.
* `Run.IsCompositional` : a condition on runs that sequencing keeps.

## Main results

* `Run.bind_of_ok`, `Run.bind_of_error` : a run followed by another, by the outcome of the first.
* `Run.exists_of_bind_ok` : the steps of a run that ends with a value.
* `Run.bind_congr_of_ok` : two continuations that agree on the value of a run.
* `Run.Emits.bind` : a condition on the events of both runs holds of one after the other.
-/

namespace ChatCommands

/-- The reply that an event sends. -/
def Event.reply? : Event → Option String
  | .reply text => some text
  | _ => none

/-- Whether an event only leaves a record for operators. -/
def Event.IsRecord : Event → Prop
  | .log _ _ _ | .console _ => True
  | _ => False

/-- Whether an event does not report a call. -/
def Event.IsOwn : Event → Prop
  | .call _ _ _ => False
  | _ => True

theorem Event.IsRecord.reply?_eq_none {e : Event} (h : e.IsRecord) : e.reply? = none := by
  cases e <;> first | rfl | exact h.elim

theorem Event.IsRecord.isOwn {e : Event} (h : e.IsRecord) : e.IsOwn := by
  cases e <;> trivial

theorem Value.checked_eq_ok_iff {α : Type} {x : Except Misuse α} {a : α} :
    Value.checked x = .ok a ↔ x = .ok a := by
  cases x with
  | error e => exact ⟨nofun, nofun⟩
  | ok b => exact ⟨fun h => by cases h; rfl, fun h => by cases h; rfl⟩

attribute [ext] Run

namespace Run

variable {α β γ : Type}

/-- The replies that a run sends, in order. -/
def replies (r : Run α) : List String :=
  r.events.filterMap Event.reply?

/-- Every event of the run satisfies a condition. -/
def Emits (p : Event → Prop) (r : Run α) : Prop :=
  ∀ e ∈ r.events, p e

/-- The run only leaves records. -/
def Quiet (r : Run α) : Prop :=
  r.Emits Event.IsRecord

/-! ### Steps without successor -/

@[simp] theorem events_pure (a : α) : (pure a : Run α).events = [] := rfl

@[simp] theorem outcome_pure (a : α) : (pure a : Run α).outcome = .ok a := rfl

@[simp] theorem outcome_ofExcept (x : Except Error α) : (ofExcept x).outcome = x := rfl

@[simp] theorem replies_pure (a : α) : (pure a : Run α).replies = [] := rfl

@[simp] theorem replies_reply (text : String) : (reply text).replies = [text] := rfl

/-! ### One run after another -/

theorem bind_of_ok {r : Run α} {a : α} (h : r.outcome = .ok a) (f : α → Run β) :
    r >>= f = ⟨r.events ++ (f a).events, (f a).outcome⟩ := by
  change r.andThen f = _
  simp only [andThen, h]

theorem bind_of_error {r : Run α} {e : Error} (h : r.outcome = .error e) (f : α → Run β) :
    r >>= f = ⟨r.events, .error e⟩ := by
  change r.andThen f = _
  simp only [andThen, h]

/-- A run followed by another ends with a value only if the first one does. -/
theorem exists_of_bind_ok {r : Run α} {f : α → Run β} {b : β}
    (h : (r >>= f).outcome = .ok b) : ∃ a, r.outcome = .ok a ∧ (f a).outcome = .ok b := by
  cases hr : r.outcome with
  | error e => rw [bind_of_error hr] at h; cases h
  | ok a => rw [bind_of_ok hr] at h; exact ⟨a, rfl, h⟩

/-- What follows on a run counts only for the value that the run ends with. -/
theorem bind_congr_of_ok {r : Run α} {f g : α → Run β} (h : ∀ a, r.outcome = .ok a → f a = g a) :
    r >>= f = r >>= g := by
  cases hr : r.outcome with
  | error e => rw [bind_of_error hr, bind_of_error hr]
  | ok a => rw [bind_of_ok hr, bind_of_ok hr, h a hr]

theorem bind_pure_eq (r : Run α) (f : α → β) :
    (r >>= fun a => pure (f a)) = ⟨r.events, r.outcome.map f⟩ := by
  cases hr : r.outcome with
  | error e => rw [bind_of_error hr]; rfl
  | ok a => rw [bind_of_ok hr, events_pure, List.append_nil]; rfl

@[simp] theorem ofExcept_ok_bind (a : α) (f : α → Run β) : ofExcept (.ok a) >>= f = f a := rfl

@[simp] theorem ofExcept_checked_ok (a : α) : ofExcept (Value.checked (.ok a)) = pure a := rfl

theorem ofExcept_checked_map_bind (x : Except Misuse α) (g : α → β) (f : β → Run γ) :
    ofExcept (Value.checked (x.map g)) >>= f = ofExcept (Value.checked x) >>= fun a => f (g a) := by
  cases x <;> rfl

private theorem id_map_run (r : Run α) : id <$> r = r := by
  change r.andThen _ = r
  rcases r with ⟨events, _ | a⟩
  · rfl
  · simp [andThen, done]

private theorem bind_assoc_run (r : Run α) (f : α → Run β) (g : β → Run γ) :
    r >>= f >>= g = r >>= fun a => f a >>= g := by
  cases hr : r.outcome with
  | error e =>
    simp only [bind_of_error hr]
    rfl
  | ok a =>
    rw [bind_of_ok hr, bind_of_ok hr]
    cases hf : (f a).outcome with
    | error e =>
      rw [bind_of_error hf]
      rfl
    | ok b =>
      rw [bind_of_ok hf, bind_of_ok (a := b) rfl]
      simp only [List.append_assoc]

instance : LawfulMonad Run :=
  LawfulMonad.mk' Run id_map_run (fun _ _ => rfl) bind_assoc_run

theorem replies_bind_of_ok {r : Run α} {a : α} (h : r.outcome = .ok a) (f : α → Run β) :
    (r >>= f).replies = r.replies ++ (f a).replies := by
  rw [bind_of_ok h]
  exact List.filterMap_append

theorem outcome_log_bind (level : LogLevel) (source : LogSource) (text : String)
    (f : Unit → Run β) : (log level source text >>= f).outcome = (f ()).outcome := rfl

theorem replies_log_bind (level : LogLevel) (source : LogSource) (text : String)
    (f : Unit → Run β) : (log level source text >>= f).replies = (f ()).replies := rfl

/-! ### Conditions on every event -/

theorem Emits.mono {p q : Event → Prop} {r : Run α} (h : r.Emits p) (hpq : ∀ e, p e → q e) :
    r.Emits q :=
  fun e he => hpq e (h e he)

theorem Emits.pure {p : Event → Prop} (a : α) : (Pure.pure a : Run α).Emits p :=
  fun _ he => absurd he List.not_mem_nil

theorem Emits.ofExcept {p : Event → Prop} (x : Except Error α) : (ofExcept x).Emits p :=
  fun _ he => absurd he List.not_mem_nil

theorem Emits.emit {p : Event → Prop} {e : Event} (h : p e) : (emit e).Emits p :=
  fun _ he => List.mem_singleton.mp he ▸ h

theorem Emits.bind {p : Event → Prop} {r : Run α} {f : α → Run β} (hr : r.Emits p)
    (hf : ∀ a, (f a).Emits p) : (r >>= f).Emits p := by
  intro e he
  cases h : r.outcome with
  | error x =>
    rw [bind_of_error h] at he
    exact hr e he
  | ok a =>
    rw [bind_of_ok h] at he
    rcases List.mem_append.mp he with he | he
    · exact hr e he
    · exact hf a e he

theorem Emits.of_bind_left {p : Event → Prop} {r : Run α} {f : α → Run β}
    (h : (r >>= f).Emits p) : r.Emits p := by
  intro e he
  cases hr : r.outcome with
  | error x => exact h e (by rwa [bind_of_error hr])
  | ok a => exact h e (by rw [bind_of_ok hr]; exact List.mem_append_left _ he)

theorem Emits.of_bind_right {p : Event → Prop} {r : Run α} {f : α → Run β}
    (h : (r >>= f).Emits p) {a : α} (hr : r.outcome = .ok a) : (f a).Emits p := by
  intro e he
  exact h e (by rw [bind_of_ok hr]; exact List.mem_append_right _ he)

/-- A condition on whole runs that holds of the engine's own runs, and of one run after another if
it holds of both. -/
structure IsCompositional (P : {α : Type} → Run α → Prop) : Prop where
  own : ∀ {α : Type} {r : Run α}, r.Emits Event.IsOwn → P r
  bind : ∀ {α β : Type} {r : Run α} {f : α → Run β}, P r → (∀ a, P (f a)) → P (r >>= f)

/-- A condition on every event is one on whole runs. -/
theorem isCompositional_emits {p : Event → Prop} (hown : ∀ e : Event, e.IsOwn → p e) :
    IsCompositional fun r => r.Emits p where
  own h := h.mono hown
  bind := Emits.bind

/-- A log record is a record. -/
theorem quiet_log (level : LogLevel) (source : LogSource) (text : String) :
    (log level source text).Quiet :=
  Emits.emit trivial

/-- A run that only leaves records sends no reply. -/
theorem Quiet.replies_eq_nil {r : Run α} (h : r.Quiet) : r.replies = [] :=
  List.filterMap_eq_nil_iff.mpr fun e he => (h e he).reply?_eq_none

end Run

end ChatCommands
