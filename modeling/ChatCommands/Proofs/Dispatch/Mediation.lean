import ChatCommands.Proofs.Dispatch.Calls
import ChatCommands.Script
import Mathlib.Data.List.Infix

/-!
# Complete mediation of handlers

The tokens of a message fix a path of commands.  Dispatch calls the guards of this path from the
root on, as far as it gets, and at most one handler: the one at the end of the path, and only
after every command of the path has let the message through and the arguments could be read.

## Main definitions

* `Stage.guardCalls` : the call of the guard of a stage.
* `IsAuthorised` : what has to hold before the handler at the end of a path is called.

## Main results

* `callsOf_of_isAuthorised`, `callsOf_isPrefix` : the calls of a dispatch, by whether a handler is
  authorised.
* `dispatch_mediates` : no callable is called unless everything in front of it lets the message
  pass.
-/

namespace ChatCommands

/-- The call of a value, if it is callable. -/
def callsFor (f : Value) (view : Locale) (args : List Value) : List Call :=
  match f with
  | .callable c => [⟨c, view, args⟩]
  | _ => []

/-- The call of the guard of a stage. -/
def Stage.guardCalls (s : Stage) : List Call :=
  callsFor s.command.guard s.view []

/-- The handler at the end of a path may be called with some arguments: every stage is open, and
the arguments are what the remaining tokens are read as. -/
structure IsAuthorised (E : Engine) (m : Message) (config : GuildConfig) (path : List Stage)
    (rest : List Value) (s : Stage) (handler : Callable) (args : List Value) : Prop where
  last : path.getLast? = some s
  handler : s.command.handler = .callable handler
  isOpen : ∀ t ∈ path, t.IsOpen E m config
  parsed : parse E.converters rest s.command.arguments = .ok args

/-! ### The calls of a stage -/

section Stage

variable {E : Engine} {m : Message} {config : GuildConfig} {s : Stage}

theorem callsFor_of_isNull {f : Value} (h : f.isNull = true) (view : Locale) (args : List Value) :
    callsFor f view args = [] := by
  rw [Value.eq_null_of_isNull h]
  rfl

theorem eq_callable_or_callsFor_eq_nil (f : Value) :
    (∃ c, f = .callable c) ∨ ∀ view args, callsFor f view args = [] := by
  cases f with
  | callable c => exact .inl ⟨c, rfl⟩
  | _ => exact .inr fun _ _ => rfl

@[simp] theorem calls_observed_call (E : Engine) (m : Message) (config : GuildConfig)
    (l : Locale) (f : Value) (args : List Value) :
    (E.observed.call m config l f args).calls = callsFor f l args := by
  cases f with
  | callable c => exact List.filterMap_cons_some (Event.call?_mark _)
  | _ => rfl

theorem isOpen_observed_iff : s.IsOpen E.observed m config ↔ s.IsOpen E m config := by
  have hconsents : E.observed.Consents m config s.view s.command ↔
      E.Consents m config s.view s.command := by
    simp only [Engine.Consents, Engine.outcome_observed_call]
  exact ⟨fun h => ⟨h.permits, hconsents.mp h.consents⟩,
    fun h => ⟨h.permits, hconsents.mpr h.consents⟩⟩

theorem calls_rejects (view : Locale) (c : Command) :
    (rejects E.observed m config view c).calls = callsFor c.guard view [] := by
  by_cases hnull : c.guard.isNull = true
  · rw [rejects_of_isNull hnull, callsFor_of_isNull hnull, Run.calls_pure]
  · rw [rejects_eq_heed hnull]
    cases hv : (E.observed.call m config view c.guard []).outcome with
    | error e => rw [Run.calls_bind_of_error hv, calls_observed_call]
    | ok v =>
      rw [Run.calls_bind_of_ok hv, calls_observed_call, (quiet_heed c v).calls_eq_nil,
        List.append_nil]

/-- A stage calls its guard once if the author holds what is required. -/
theorem calls_admits_of_permits (h : m.Permits s.command) :
    (s.admits E.observed m config).calls = s.guardCalls := by
  rw [admits_of_permits h, logMatch, Run.calls_log_bind, Stage.guardCalls,
    ← calls_rejects (E := E) (m := m)]
  cases hr : (rejects E.observed m config s.view s.command).outcome with
  | error e => rw [Run.calls_bind_of_error hr]
  | ok isRejected => rw [Run.calls_bind_of_ok hr, Run.calls_pure, List.append_nil]

/-- A stage whose requirement is not met calls nothing. -/
theorem calls_admits_of_not_permits (h : ¬ m.Permits s.command) :
    (s.admits E.observed m config).calls = [] := by
  rw [admits_of_not_permits h]
  refine Run.calls_eq_nil_of_isOwn (Run.Emits.bind (.emit trivial) fun _ => ?_)
  exact (emits_isOwn_blocks _ _ _ _).bind fun _ => .pure _

theorem calls_admits_isPrefix (E : Engine) (m : Message) (config : GuildConfig) (s : Stage) :
    (s.admits E.observed m config).calls <+: s.guardCalls := by
  by_cases h : m.Permits s.command
  · exact (calls_admits_of_permits h).symm ▸ List.prefix_rfl
  · exact (calls_admits_of_not_permits h).symm ▸ List.nil_prefix

/-- What is executed at the end of a path calls the handler if the arguments can be read. -/
theorem calls_finish_of_ok {rest args : List Value}
    (h : parse E.converters rest s.command.arguments = .ok args) :
    (s.finish E.observed m config rest).calls = callsFor s.command.handler s.view args := by
  rw [Stage.finish, execute]
  by_cases hnull : s.command.handler.isNull = true
  · rw [if_pos hnull, callsFor_of_isNull hnull]
    exact Run.calls_eq_nil_of_isOwn (Fault.emits_isOwn_trigger _ _ _ _)
  · have hconverters : E.observed.converters = E.converters := rfl
    rw [if_neg hnull, hconverters, h]
    dsimp only
    rw [Run.calls_log_bind]
    cases hv : (E.observed.call m config s.view s.command.handler args).outcome with
    | error e => rw [Run.calls_bind_of_error hv, calls_observed_call]
    | ok v =>
      rw [Run.calls_bind_of_ok hv, calls_observed_call, Run.calls_pure, List.append_nil]

theorem calls_finish_of_error {rest : List Value} {e : Error}
    (h : parse E.converters rest s.command.arguments = .error e) :
    (s.finish E.observed m config rest).calls = [] := by
  have hconverters : E.observed.converters = E.converters := rfl
  rw [Stage.finish, execute, hconverters, h]
  split
  · exact Run.calls_eq_nil_of_isOwn (Fault.emits_isOwn_trigger _ _ _ _)
  · dsimp only
    split
    · exact Run.calls_eq_nil_of_isOwn (Fault.emits_isOwn_trigger _ _ _ _)
    · rfl

end Stage

/-! ### The calls of a descent -/

section Descent

variable {E : Engine} {m : Message} {config : GuildConfig}

/-- Open stages call their guards, each once and in order. -/
theorem calls_admissions {path : List Stage} (hopen : ∀ s ∈ path, s.IsOpen E m config) :
    (admissions E.observed m config path).filterMap Event.call? =
      path.flatMap Stage.guardCalls := by
  rw [admissions, List.filterMap_flatMap]
  exact List.flatMap_congr fun s hs => calls_admits_of_permits (hopen s hs).permits

theorem calls_descend_of_isOpen {path : List Stage} (hopen : ∀ s ∈ path, s.IsOpen E m config)
    (final : Run Unit) :
    (descend E.observed m config final path).calls =
      path.flatMap Stage.guardCalls ++ final.calls := by
  have hobserved : ∀ s ∈ path, s.IsOpen E.observed m config :=
    fun s hs => isOpen_observed_iff.mpr (hopen s hs)
  rw [descend_of_isOpen hobserved, Run.calls, List.filterMap_append, calls_admissions hopen]
  rfl

theorem calls_descend_of_not_isOpen {front : List Stage} {s : Stage}
    (hfront : ∀ t ∈ front, t.IsOpen E m config) (hs : ¬ s.IsOpen E m config) (later : List Stage)
    (final : Run Unit) :
    (descend E.observed m config final (front ++ s :: later)).calls =
      front.flatMap Stage.guardCalls ++ (s.admits E.observed m config).calls := by
  have hobserved : ∀ t ∈ front, t.IsOpen E.observed m config :=
    fun t ht => isOpen_observed_iff.mpr (hfront t ht)
  rw [descend_of_not_isOpen hobserved (fun h => hs (isOpen_observed_iff.mp h)), Run.calls,
    List.filterMap_append, calls_admissions hfront]
  rfl

/-- A descent that does not come to its end calls guards only, those of the path in order. -/
theorem calls_descend_isPrefix {path : List Stage} (hclosed : ¬ ∀ s ∈ path, s.IsOpen E m config)
    (final : Run Unit) :
    (descend E.observed m config final path).calls <+: path.flatMap Stage.guardCalls := by
  rcases isOpen_or_exists_split E m config path with hopen | ⟨front, s, later, rfl, hfront, hs⟩
  · exact absurd hopen hclosed
  · rw [calls_descend_of_not_isOpen hfront hs, List.flatMap_append, List.flatMap_cons]
    refine List.prefix_append_right_inj _ |>.mpr ?_
    exact (calls_admits_isPrefix E m config s).trans (List.prefix_append _ _)

end Descent

/-! ### The calls of a dispatch -/

section Dispatch

variable {E : Engine} {m : Message} {config : GuildConfig} {l : Locale} {ts : List Value}
  {siblings : Value}

theorem callsOf_eq_of_last (hforest : IsForest siblings) {s : Stage}
    (hlast : (planned config ts siblings l).getLast? = some s) :
    callsOf E m config l (.list ts) siblings =
      (descend E.observed m config (s.finish E.observed m config (leftover config ts siblings))
        (planned config ts siblings l)).calls := by
  rw [callsOf, dispatch_eq_descend _ _ _ _ _ hforest, hlast]
  dsimp only
  cases h : (descend E.observed m config
      (s.finish E.observed m config (leftover config ts siblings))
      (planned config ts siblings l)).outcome with
  | error e => rw [Run.calls_bind_of_error h]
  | ok _ => rw [Run.calls_bind_of_ok h, Run.calls_pure, List.append_nil]

/-- An authorised handler is called once, after the guards of the path. -/
theorem callsOf_of_isAuthorised (hforest : IsForest siblings) {s : Stage} {handler : Callable}
    {args : List Value}
    (h : IsAuthorised E m config (planned config ts siblings l) (leftover config ts siblings) s
      handler args) :
    callsOf E m config l (.list ts) siblings =
      (planned config ts siblings l).flatMap Stage.guardCalls ++ [⟨handler, s.view, args⟩] := by
  rw [callsOf_eq_of_last hforest h.last, calls_descend_of_isOpen h.isOpen,
    calls_finish_of_ok h.parsed, h.handler]
  rfl

/-- Where no handler is authorised, nothing but guards of the path is called. -/
theorem callsOf_isPrefix (hforest : IsForest siblings)
    (hnone : ∀ s handler args, ¬ IsAuthorised E m config (planned config ts siblings l)
      (leftover config ts siblings) s handler args) :
    callsOf E m config l (.list ts) siblings <+:
      (planned config ts siblings l).flatMap Stage.guardCalls := by
  cases hlast : (planned config ts siblings l).getLast? with
  | none =>
    have hnil : callsOf E m config l (.list ts) siblings = [] := by
      rw [callsOf, dispatch_eq_descend _ _ _ _ _ hforest, hlast]
      rfl
    rw [hnil]
    exact List.nil_prefix
  | some s =>
    rw [callsOf_eq_of_last hforest hlast]
    by_cases hopen : ∀ t ∈ planned config ts siblings l, t.IsOpen E m config
    · rw [calls_descend_of_isOpen hopen]
      cases hargs : parse E.converters (leftover config ts siblings) s.command.arguments with
      | error e => rw [calls_finish_of_error hargs, List.append_nil]
      | ok args =>
        rw [calls_finish_of_ok hargs]
        rcases eq_callable_or_callsFor_eq_nil s.command.handler with ⟨handler, hhandler⟩ | hnil
        · exact absurd ⟨hlast, hhandler, hopen, hargs⟩ (hnone s handler args)
        · rw [hnil, List.append_nil]
    · exact calls_descend_isPrefix hopen _

end Dispatch

/-- Complete mediation.  The path of a dispatch is the committed one, its run consists of marked
calls and of the engine's own events, and the calls are these: if the handler at the end of the
path is authorised, the guards of the path from the root on and then this handler with the
arguments that were read; otherwise some of these guards from the root on, and no handler. -/
theorem dispatch_mediates (E : Engine) (m : Message) (config : GuildConfig) (l : Locale)
    (ts : List Value) {siblings : Value} (hforest : IsForest siblings) :
    (planned config ts siblings l).map Stage.command = committed config.shortcuts ts siblings ∧
    (dispatch E.observed m config l (.list ts) siblings).replay E m config =
      dispatch E m config l (.list ts) siblings ∧
    ((dispatch E.observed m config l (.list ts) siblings).Emits
      fun e => e.IsOwn ∨ ∃ c : Call, e = c.mark) ∧
    (∀ s handler args,
      IsAuthorised E m config (planned config ts siblings l) (leftover config ts siblings) s handler
        args →
      callsOf E m config l (.list ts) siblings =
        (planned config ts siblings l).flatMap Stage.guardCalls ++ [⟨handler, s.view, args⟩]) ∧
    ((∀ s handler args, ¬ IsAuthorised E m config (planned config ts siblings l)
        (leftover config ts siblings) s handler args) →
      callsOf E m config l (.list ts) siblings <+:
        (planned config ts siblings l).flatMap Stage.guardCalls) :=
  ⟨map_command_route ts siblings l true, replay_dispatch E m config l _ siblings,
    emits_dispatch_observed E m config l _ siblings,
    fun _ _ _ h => callsOf_of_isAuthorised hforest h, callsOf_isPrefix hforest⟩

/-! ### A moderation tree -/

/-- A callable that ends at once with a value. -/
def answering (serial : Nat) (label : String) (result : Value) : Callable :=
  .script ⟨serial, label, false, result, none, [], []⟩

/-- A command that reads one argument. -/
def kick : Command :=
  ⟨1, .text "kick", .text "k", .int 4, .bool true, .null, .null,
    .tuple [.argument ⟨2, .text "who", [.text "string"], .bool false, .unset⟩],
    .callable (answering 3 "kick" .null)⟩

/-- A guarded group around that command. -/
def moderation : Command :=
  ⟨0, .text "mod", .null, .int 2, .bool false, .callable (answering 4 "isOpen" (.bool true)),
    .tuple [.command kick], .null, .null⟩

/-- A moderator, who holds what both commands require. -/
def moderator : Message :=
  ⟨.text "mod k ann", .text "bea", false, .int 2, .int 4, .text "hall"⟩

/-- The engine that runs scripts, with the built-in strategies. -/
def scripted : Engine :=
  ⟨Host.bare, Converters.standard, performWith []⟩

/-- A locale without any text. -/
def silent : Locale :=
  ⟨.map false [], []⟩

theorem isValid_moderation :
    ∀ w ∈ [Value.command moderation], isValid Converters.standard w = true := by
  decide

theorem isForest_moderation : IsForest (.list [.command moderation]) :=
  isForest_of_valid rfl isValid_moderation

theorem nodes_moderation : nodes (.list [.command moderation]) = [moderation, kick] := by
  cbv

/-- The message `mod k ann`, with shortcuts, leads through the group to its command. -/
theorem committed_moderation :
    committed true [.text "mod", .text "k", .text "ann"] (.list [.command moderation]) =
      [moderation, kick] := by
  cbv

theorem planned_moderation :
    planned ⟨true, none, "en"⟩ [.text "mod", .text "k", .text "ann"]
      (.list [.command moderation]) silent =
      [⟨moderation, .text "mod", silent, silent⟩, ⟨kick, .text "k", silent, silent⟩] := by
  rw [planned, route, committed_moderation]
  rfl

theorem leftover_moderation :
    leftover ⟨true, none, "en"⟩ [.text "mod", .text "k", .text "ann"]
      (.list [.command moderation]) = [.text "ann"] := by
  rw [leftover, committed_moderation]
  rfl

/-- The moderator's `mod k ann` asks the guard of the group and then runs the command. -/
theorem dispatch_mediates_moderation :
    IsForest (.list [.command moderation]) ∧
    callsOf scripted moderator ⟨true, none, "en"⟩ silent
        (.list [.text "mod", .text "k", .text "ann"]) (.list [.command moderation]) =
      [⟨answering 4 "isOpen" (.bool true), silent, []⟩,
        ⟨answering 3 "kick" .null, silent, [.text "ann"]⟩] := by
  refine ⟨isForest_moderation, ?_⟩
  have hcalls := (dispatch_mediates scripted moderator ⟨true, none, "en"⟩ silent
    [.text "mod", .text "k", .text "ann"] isForest_moderation).2.2.2.1
  rw [planned_moderation, leftover_moderation] at hcalls
  refine hcalls ⟨kick, .text "k", silent, silent⟩ (answering 3 "kick" .null) [.text "ann"]
    ⟨rfl, rfl, ?_, rfl⟩
  intro t ht
  rcases List.mem_pair.mp ht with rfl | rfl
  · exact ⟨.inr rfl, .inr ⟨.bool true, rfl, rfl⟩⟩
  · exact ⟨.inr rfl, .inl rfl⟩

end ChatCommands
