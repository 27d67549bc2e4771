import ChatCommands.Proofs.Dispatch.Stage
import Mathlib.Data.List.Basic

/-!
# The calls of a dispatch

Dispatch depends on guards and handlers only through how their calls end.  An *observed* engine
therefore puts a mark in the place of everything that a callable does, and ends the call as the
callable would: the marks among the events of an observed run are the calls that dispatch makes, in
order, and putting back what the callables do gives the run itself.

## Main definitions

* `Call` : a callable with the view and the arguments that it gets.
* `Engine.observed` : the engine whose callables leave marks.
* `Run.calls` : the calls that an observed run has marked.
* `Run.replay` : a marked run with what the callables do in the places of the marks.
* `callsOf`, `repliesOf` : the calls of a dispatch, and the replies that it sends itself.

## Main results

* `replay_dispatch` : a dispatch is the replay of its observed run.
* `holds_dispatch` : what sequencing keeps holds of a dispatch if it holds of its calls.
* `emits_dispatch_observed` : besides the marks there are only events of the engine itself.
-/

namespace ChatCommands

/-- A call of a guard or of a handler. -/
structure Call where
  callee : Callable
  view : Locale
  args : List Value

namespace Call

/-- The event that an observed call leaves. -/
def mark (c : Call) : Event :=
  .call "" c.view.pathText
    [.callable c.callee, c.view.data, Value.names c.view.path, .list c.args]

end Call

/-- The text that a value is. -/
def Value.text? : Value → Option String
  | .text s => some s
  | _ => none

/-- The call that an event marks. -/
def Event.call? : Event → Option Call
  | .call _ _ [.callable callee, data, .tuple path, .list args] =>
    some ⟨callee, ⟨data, path.filterMap Value.text?⟩, args⟩
  | _ => none

@[simp] theorem Event.call?_mark (c : Call) : c.mark.call? = some c := by
  have hpath : (c.view.path.map Value.text).filterMap Value.text? = c.view.path := by
    rw [List.filterMap_map]
    exact List.filterMap_some
  simp only [Call.mark, Value.names, Event.call?, hpath]

theorem Event.IsOwn.call?_eq_none {e : Event} (h : e.IsOwn) : e.call? = none := by
  cases e <;> first | rfl | exact h.elim

namespace Engine

/-- The engine whose callables leave marks and end as they would. -/
def observed (E : Engine) : Engine where
  host := E.host
  converters := E.converters
  invoke m config l c args := ⟨[Call.mark ⟨c, l, args⟩], (E.invoke m config l c args).outcome⟩

/-- What the callables do at an event: at a mark what the marked callable does. -/
def replayed (E : Engine) (m : Message) (config : GuildConfig) (e : Event) : List Event :=
  match e.call? with
  | some c => (E.invoke m config c.view c.callee c.args).events
  | none => [e]

end Engine

namespace Run

variable {α β : Type}

/-- The calls that a run has marked, in order. -/
def calls (r : Run α) : List Call :=
  r.events.filterMap Event.call?

/-- A marked run with what the callables do in the places of the marks. -/
def replay (E : Engine) (m : Message) (config : GuildConfig) (r : Run α) : Run α :=
  ⟨r.events.flatMap (E.replayed m config), r.outcome⟩

@[simp] theorem calls_pure (a : α) : (pure a : Run α).calls = [] := rfl

theorem calls_bind_of_ok {r : Run α} {a : α} (h : r.outcome = .ok a) (f : α → Run β) :
    (r >>= f).calls = r.calls ++ (f a).calls := by
  rw [bind_of_ok h]
  exact List.filterMap_append

theorem calls_bind_of_error {r : Run α} {e : Error} (h : r.outcome = .error e) (f : α → Run β) :
    (r >>= f).calls = r.calls := by
  rw [bind_of_error h]
  rfl

theorem calls_log_bind (level : LogLevel) (source : LogSource) (text : String)
    (f : Unit → Run β) : (log level source text >>= f).calls = (f ()).calls := rfl

/-- A run of the engine alone marks no call. -/
theorem calls_eq_nil_of_isOwn {r : Run α} (h : r.Emits Event.IsOwn) : r.calls = [] :=
  List.filterMap_eq_nil_iff.mpr fun e he => (h e he).call?_eq_none

theorem Quiet.calls_eq_nil {r : Run α} (h : r.Quiet) : r.calls = [] :=
  calls_eq_nil_of_isOwn (h.mono fun _ => Event.IsRecord.isOwn)

/-! ### Replaying a run -/

variable (E : Engine) (m : Message) (config : GuildConfig)

theorem replay_bind (r : Run α) (f : α → Run β) :
    (r >>= f).replay E m config = r.replay E m config >>= fun a => (f a).replay E m config := by
  cases h : r.outcome with
  | error e =>
    rw [bind_of_error h, bind_of_error (r := r.replay E m config) h]
    rfl
  | ok a =>
    rw [bind_of_ok h, bind_of_ok (r := r.replay E m config) h]
    simp only [replay, List.flatMap_append]

/-- A run of the engine alone is its own replay. -/
theorem replay_eq_self {r : Run α} (h : r.Emits Event.IsOwn) : r.replay E m config = r := by
  have hevents : r.events.flatMap (E.replayed m config) = r.events.flatMap fun e => [e] :=
    List.flatMap_congr fun e he => by
      rw [Engine.replayed, (h e he).call?_eq_none]
  rw [replay, hevents, List.flatMap_singleton']

theorem replay_ofExcept (x : Except Error α) : (ofExcept x).replay E m config = ofExcept x := rfl

end Run

namespace Engine

variable (E : Engine) (m : Message) (config : GuildConfig)

/-- Observing a call does not change how it ends. -/
@[simp] theorem outcome_observed_call (l : Locale) (f : Value) (args : List Value) :
    (E.observed.call m config l f args).outcome = (E.call m config l f args).outcome := by
  cases f <;> rfl

@[simp] theorem replies_observed_call (l : Locale) (f : Value) (args : List Value) :
    (E.observed.call m config l f args).replies = [] := by
  cases f <;> rfl

theorem replay_observed_call (l : Locale) (f : Value) (args : List Value) :
    (E.observed.call m config l f args).replay E m config = E.call m config l f args := by
  cases f with
  | callable c =>
    simp only [call, observed, Run.mapError, Run.replay, replayed, List.flatMap_cons,
      List.flatMap_nil, Event.call?_mark, List.append_nil]
  | _ => rfl

end Engine

/-! ### Dispatch is the replay of its observed run -/

section Replay

variable (E : Engine) (m : Message) (config : GuildConfig)

theorem replay_rejects (view : Locale) (c : Command) :
    (rejects E.observed m config view c).replay E m config = rejects E m config view c := by
  unfold rejects
  split
  · rfl
  · rw [Run.replay_bind, E.replay_observed_call]
    refine bind_congr fun verdict => ?_
    split <;> rfl

theorem replay_execute (l view : Locale) (c : Command) (rest : List Value) :
    (execute E.observed m config l view c rest).replay E m config =
      execute E m config l view c rest := by
  unfold execute
  split
  · exact Run.replay_eq_self E m config (Fault.emits_isOwn_trigger _ _ _ _)
  · have hconverters : E.observed.converters = E.converters := rfl
    rw [hconverters]
    split
    · rw [Run.replay_bind, Run.replay_bind, E.replay_observed_call]
      rfl
    · split
      · exact Run.replay_eq_self E m config (Fault.emits_isOwn_trigger _ _ _ _)
      · rfl

theorem replay_dispatchFrom (tokens : List Value) (siblings : Value) (l : Locale) (narrows : Bool) :
    (dispatchFrom E.observed m config tokens siblings l narrows).replay E m config =
      dispatchFrom E m config tokens siblings l narrows := by
  induction tokens generalizing siblings l narrows with
  | nil => rfl
  | cons token rest ih =>
    rw [dispatchFrom, dispatchFrom, Run.replay_bind, Run.replay_ofExcept]
    refine bind_congr fun selected => ?_
    cases selected with
    | none => rfl
    | some c =>
      have hblocks : (blocks E.observed m l c).replay E m config = blocks E m l c :=
        Run.replay_eq_self E m config (emits_isOwn_blocks E.observed m l c)
      have htail (view : Locale) (handled : Bool) :
          (if handled then pure true
            else execute E.observed m config l view c rest >>= fun _ => pure true :
              Run Bool).replay E m config =
          (if handled then pure true
            else execute E m config l view c rest >>= fun _ => pure true) := by
        cases handled with
        | false =>
          rw [if_neg Bool.false_ne_true, if_neg Bool.false_ne_true, Run.replay_bind,
            replay_execute]
          rfl
        | true => rfl
      -- Both sides take the same steps, and each step is the replay of its observed one.
      dsimp only
      rw [Run.replay_bind]
      refine bind_congr fun _ => ?_
      rw [Run.replay_bind, hblocks]
      refine bind_congr fun isBlocked => ?_
      split
      · rfl
      · rw [Run.replay_bind, Run.replay_ofExcept]
        refine bind_congr fun viewed => ?_
        obtain ⟨view, narrowed⟩ := viewed
        dsimp only
        rw [Run.replay_bind, replay_rejects]
        refine bind_congr fun isRejected => ?_
        split
        · rfl
        · split
          · exact htail view false
          · rw [Run.replay_bind, ih]
            refine bind_congr fun handled => ?_
            exact htail view handled

/-- Putting back what the callables do turns the observed run of a dispatch into the run
itself. -/
theorem replay_dispatch (l : Locale) (tokens siblings : Value) :
    (dispatch E.observed m config l tokens siblings).replay E m config =
      dispatch E m config l tokens siblings := by
  unfold dispatch
  rw [Run.replay_bind, Run.replay_ofExcept]
  refine bind_congr fun items => ?_
  exact replay_dispatchFrom E m config items siblings l true

/-- The calls of guards and handlers that a dispatch makes, in order. -/
def callsOf (l : Locale) (tokens siblings : Value) : List Call :=
  (dispatch E.observed m config l tokens siblings).calls

/-- The replies that a dispatch sends itself, in order: those of its callables are left out. -/
def repliesOf (l : Locale) (tokens siblings : Value) : List String :=
  (dispatch E.observed m config l tokens siblings).replies

end Replay

/-! ### Conditions on the runs of a dispatch -/

section Compositional

variable {E : Engine} {m : Message} {config : GuildConfig} {P : {α : Type} → Run α → Prop}
  (hP : Run.IsCompositional P) (hcall : ∀ l f args, P (E.call m config l f args))

include hP hcall

theorem holds_rejects (view : Locale) (c : Command) : P (rejects E m config view c) := by
  by_cases hnull : c.guard.isNull = true
  · rw [rejects_of_isNull hnull]
    exact hP.own (.pure _)
  · rw [rejects_eq_heed hnull]
    exact hP.bind (hcall _ _ _) fun verdict =>
      hP.own ((quiet_heed c verdict).mono fun _ => Event.IsRecord.isOwn)

theorem holds_execute (l view : Locale) (c : Command) (rest : List Value) :
    P (execute E m config l view c rest) := by
  unfold execute
  split
  · exact hP.own (Fault.emits_isOwn_trigger _ _ _ _)
  · split
    · exact hP.bind (hP.own (.emit trivial)) fun _ =>
        hP.bind (hcall _ _ _) fun _ => hP.own (.pure _)
    · split
      · exact hP.own (Fault.emits_isOwn_trigger _ _ _ _)
      · exact hP.own (.ofExcept _)

/-- What sequencing keeps holds of a dispatch if it holds of the calls that a dispatch can make:
everything else is the engine's own. -/
theorem holds_dispatchFrom (tokens : List Value) (siblings : Value) (l : Locale) (narrows : Bool) :
    P (dispatchFrom E m config tokens siblings l narrows) := by
  induction tokens generalizing siblings l narrows with
  | nil => exact hP.own (.pure _)
  | cons token rest ih =>
    have htail (view : Locale) (c : Command) (handled : Bool) :
        P (if handled then pure true
          else execute E m config l view c rest >>= fun _ => pure true : Run Bool) := by
      split
      · exact hP.own (.pure _)
      · exact hP.bind (holds_execute hP hcall _ _ _ _) fun _ => hP.own (.pure _)
    rw [dispatchFrom]
    refine hP.bind (hP.own (.ofExcept _)) fun selected => ?_
    cases selected with
    | none => exact hP.own (.pure _)
    | some c =>
      refine hP.bind (hP.own (.emit trivial)) fun _ => ?_
      refine hP.bind (hP.own (emits_isOwn_blocks E m l c)) fun isBlocked => ?_
      split
      · exact hP.own (.pure _)
      · refine hP.bind (hP.own (.ofExcept _)) fun viewed => ?_
        obtain ⟨view, narrowed⟩ := viewed
        refine hP.bind (holds_rejects hP hcall _ _) fun isRejected => ?_
        split
        · exact hP.own (.pure _)
        · split
          · exact htail view c false
          · exact hP.bind (ih _ _ _) fun handled => htail view c handled

/-- The same for a whole dispatch. -/
theorem holds_dispatch (l : Locale) (tokens siblings : Value) :
    P (dispatch E m config l tokens siblings) :=
  hP.bind (hP.own (.ofExcept _)) fun items => holds_dispatchFrom hP hcall items siblings l true

end Compositional

/-- An observed run consists of the marks of its calls and of what the engine itself emits. -/
theorem emits_dispatch_observed (E : Engine) (m : Message) (config : GuildConfig) (l : Locale)
    (tokens siblings : Value) :
    (dispatch E.observed m config l tokens siblings).Emits
      fun e => e.IsOwn ∨ ∃ c : Call, e = c.mark := by
  refine holds_dispatch (Run.isCompositional_emits fun _ => .inl) (fun l f args => ?_) _ _ _
  cases f with
  | callable c => exact .emit (.inr ⟨⟨c, l, args⟩, rfl⟩)
  | _ => exact .ofExcept _

end ChatCommands
