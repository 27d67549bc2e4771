import ChatCommands.Proofs.Dispatch.Mediation

/-!
# The endings of a dispatch

A dispatch that does not fail ends in one of four ways: no command matches and nothing happens at
all, it sends one reply and runs no handler, it runs one handler, or a guard declines without a
word.  Only the stage that ends a descent, or the command at the end of the path, can reply; the
stages in front of it are silent.

## Main definitions

* `Ending`, `Ending.Holds` : the four endings.
* `AreSilent` : guards and handlers that send no replies of their own.

## Main results

* `exists_holds_of_last`, `Ending.eq_of_holds` : some ending holds, and at most one.
* `dispatch_ends` : exactly one ending holds.
-/

namespace ChatCommands

/-- The guards and the handlers of some siblings send no replies of their own. -/
def AreSilent (E : Engine) (m : Message) (config : GuildConfig) (siblings : Value) : Prop :=
  ∀ c ∈ nodes siblings, ∀ view args,
    (E.call m config view c.guard args).replies = [] ∧
      (E.call m config view c.handler args).replies = []

/-- The ways in which a dispatch ends. -/
inductive Ending
  | unmatched
  | answered
  | executed
  | declined

/-- What is observed of an ending: the run and the calls of a dispatch along a path. -/
def Ending.Holds (E : Engine) (m : Message) (config : GuildConfig) (path : List Stage)
    (run : Run Bool) (calls : List Call) : Ending → Prop
  | .unmatched => run.outcome = .ok false ∧ run.events = [] ∧ calls = []
  | .answered =>
    run.outcome = .ok true ∧ (∃ text, run.replies = [text]) ∧
      calls <+: path.flatMap Stage.guardCalls
  | .executed =>
    run.outcome = .ok true ∧ run.replies = [] ∧
      ∃ s handler args, path.getLast? = some s ∧ s.command.handler = .callable handler ∧
        calls = path.flatMap Stage.guardCalls ++ [⟨handler, s.view, args⟩]
  | .declined =>
    run.outcome = .ok true ∧ run.replies = [] ∧
      ∃ front s later guardian v, path = front ++ s :: later ∧
        s.command.guard = .callable guardian ∧
        calls = front.flatMap Stage.guardCalls ++ [⟨guardian, s.view, []⟩] ∧
        (E.call m config s.view s.command.guard []).outcome = .ok v ∧ v.isTruthy = false

/-! ### Endings exclude each other -/

section Exclusive

variable {E : Engine} {m : Message} {config : GuildConfig} {path : List Stage} {run : Run Bool}
  {calls : List Call}

/-- A guard that declines is one of the guards of the path, and no handler is called. -/
theorem Ending.Holds.isPrefix_of_declined (h : Ending.declined.Holds E m config path run calls) :
    calls <+: path.flatMap Stage.guardCalls := by
  obtain ⟨-, -, front, s, later, guardian, v, rfl, hguard, rfl, -⟩ := h
  have hcalls : s.guardCalls = [⟨guardian, s.view, []⟩] := by
    rw [Stage.guardCalls, hguard, callsFor]
  rw [List.flatMap_append, List.flatMap_cons, hcalls, ← List.append_assoc]
  exact List.prefix_append _ _

/-- At most one ending holds. -/
theorem Ending.eq_of_holds {e e' : Ending} (h : e.Holds E m config path run calls)
    (h' : e'.Holds E m config path run calls) : e = e' := by
  have hmatched {b b' : Bool} (hb : run.outcome = .ok b) (hb' : run.outcome = .ok b') : b = b' :=
    Except.ok.inj (hb.symm.trans hb')
  have hreplied (ht : ∃ text, run.replies = [text]) (hn : run.replies = []) : False := by
    obtain ⟨text, htext⟩ := ht
    rw [hn] at htext
    cases htext
  have hcalled (hp : calls <+: path.flatMap Stage.guardCalls)
      (he : ∃ s handler args, path.getLast? = some s ∧ s.command.handler = .callable handler ∧
        calls = path.flatMap Stage.guardCalls ++ [⟨handler, s.view, args⟩]) : False := by
    obtain ⟨s, handler, args, -, -, rfl⟩ := he
    have hlength := hp.length_le
    rw [List.length_append, List.length_singleton] at hlength
    omega
  -- The answer tells an unmatched ending apart, the replies an answered one, and the last call an
  -- executed one from a declined one.
  cases e <;> cases e' <;> first
    | rfl
    | exact absurd (hmatched h.1 h'.1) (by decide)
    | exact (hreplied h.2.1 h'.2.1).elim
    | exact (hreplied h'.2.1 h.2.1).elim
    | exact (hcalled h.isPrefix_of_declined h'.2.2).elim
    | exact (hcalled h'.isPrefix_of_declined h.2.2).elim

end Exclusive

/-! ### The replies of a stage -/

section Stage

variable {E : Engine} {m : Message} {config : GuildConfig} {s : Stage}

theorem exists_callable_of_call {l : Locale} {f : Value} {args : List Value} {v : Value}
    (h : (E.call m config l f args).outcome = .ok v) : ∃ c, f = .callable c := by
  cases f with
  | callable c => exact ⟨c, rfl⟩
  | _ => cases h

/-- An open stage replies only if its guard does. -/
theorem replies_admits_of_isOpen (hs : s.IsOpen E m config)
    (hguard : (E.call m config s.view s.command.guard []).replies = []) :
    (s.admits E m config).replies = [] := by
  have hconsents : (rejects E m config s.view s.command).outcome = .ok false :=
    outcome_rejects_eq_false_iff.mpr hs.consents
  rw [admits_of_permits hs.permits, logMatch, Run.replies_log_bind,
    Run.replies_bind_of_ok hconsents, Run.replies_pure, List.append_nil]
  by_cases hnull : s.command.guard.isNull = true
  · rw [rejects_of_isNull hnull, Run.replies_pure]
  · obtain ⟨v, hv, -⟩ := hs.consents.resolve_left hnull
    rw [rejects_eq_heed hnull, Run.replies_bind_of_ok hv, hguard,
      (quiet_heed _ v).replies_eq_nil, List.append_nil]

/-- A stage that ends a descent has either sent one reply and called no guard, or its guard has
declined. -/
theorem admits_false_cases (hf : (s.admits E m config).outcome = .ok false) :
    (¬ m.Permits s.command ∧ ∃ text, (s.admits E m config).replies = [text]) ∨
      (m.Permits s.command ∧ ∃ guardian v, s.command.guard = .callable guardian ∧
        (E.call m config s.view s.command.guard []).outcome = .ok v ∧ v.isTruthy = false ∧
        (s.admits E m config).replies = (E.call m config s.view s.command.guard []).replies) := by
  by_cases hpermits : m.Permits s.command
  · right
    refine ⟨hpermits, ?_⟩
    rw [admits_of_permits hpermits, logMatch, Run.outcome_log_bind] at hf
    rw [admits_of_permits hpermits, logMatch, Run.replies_log_bind]
    by_cases hnull : s.command.guard.isNull = true
    · rw [rejects_of_isNull hnull] at hf
      cases hf
    · obtain ⟨isRejected, hrejects, hnot⟩ := Run.exists_of_bind_ok hf
      rw [Run.replies_bind_of_ok hrejects, Run.replies_pure, List.append_nil,
        rejects_eq_heed hnull]
      rw [rejects_eq_heed hnull] at hrejects
      obtain ⟨v, hv, hheed⟩ := Run.exists_of_bind_ok hrejects
      rw [outcome_heed] at hheed
      obtain ⟨guardian, hguard⟩ := exists_callable_of_call hv
      refine ⟨guardian, v, hguard, hv, ?_, ?_⟩
      · cases hheed
        simpa using hnot
      · rw [Run.replies_bind_of_ok hv, (quiet_heed _ v).replies_eq_nil, List.append_nil]
  · left
    refine ⟨hpermits, ?_⟩
    rw [admits_of_not_permits hpermits, logMatch, Run.outcome_log_bind] at hf
    rw [admits_of_not_permits hpermits, logMatch, Run.replies_log_bind]
    obtain ⟨isBlocked, hblocks, -⟩ := Run.exists_of_bind_ok hf
    cases isBlocked with
    | false => exact absurd (outcome_blocks_eq_false_iff.mp hblocks) hpermits
    | true =>
      obtain ⟨text, htext⟩ := replies_blocks_of_true hblocks
      exact ⟨text, by rw [Run.replies_bind_of_ok hblocks, htext, Run.replies_pure,
        List.append_nil]⟩

/-- At the end of a path either one reply is sent and no handler can be called, or the handler has
been called with what was read. -/
theorem finish_ok_cases {rest : List Value} (hok : (s.finish E m config rest).outcome = .ok ()) :
    (∃ text, (s.finish E m config rest).replies = [text] ∧
        ∀ handler args, s.command.handler = .callable handler →
          parse E.converters rest s.command.arguments ≠ .ok args) ∨
      ∃ handler args, s.command.handler = .callable handler ∧
        parse E.converters rest s.command.arguments = .ok args ∧
        (s.finish E m config rest).replies =
          (E.call m config s.view s.command.handler args).replies := by
  rw [Stage.finish, execute] at hok ⊢
  by_cases hnull : s.command.handler.isNull = true
  · rw [if_pos hnull] at hok ⊢
    obtain ⟨text, htext⟩ := Fault.replies_trigger _ _ _ _ hok
    refine .inl ⟨text, htext, fun handler args hhandler => ?_⟩
    rw [hhandler] at hnull
    cases hnull
  · rw [if_neg hnull] at hok ⊢
    cases hargs : parse E.converters rest s.command.arguments with
    | error e =>
      rw [hargs] at hok
      dsimp only at hok ⊢
      cases hfault : e.answered? with
      | none => rw [hfault] at hok; cases hok
      | some f =>
        rw [hfault] at hok
        obtain ⟨text, htext⟩ := Fault.replies_trigger _ _ _ _ hok
        exact .inl ⟨text, htext, fun _ _ _ h => by cases h⟩
    | ok args =>
      rw [hargs] at hok
      dsimp only at hok ⊢
      rw [Run.outcome_log_bind] at hok
      rw [Run.replies_log_bind]
      obtain ⟨v, hv, -⟩ := Run.exists_of_bind_ok hok
      obtain ⟨handler, hhandler⟩ := exists_callable_of_call hv
      refine .inr ⟨handler, args, hhandler, rfl, ?_⟩
      rw [Run.replies_bind_of_ok hv, Run.replies_pure, List.append_nil]

end Stage

/-! ### The replies of a descent -/

section Descent

variable {E : Engine} {m : Message} {config : GuildConfig}

theorem replies_admissions {path : List Stage} (hopen : ∀ s ∈ path, s.IsOpen E m config)
    (hguard : ∀ s ∈ path, (E.call m config s.view s.command.guard []).replies = []) :
    (admissions E m config path).filterMap Event.reply? = [] := by
  rw [admissions, List.filterMap_flatMap, List.flatMap_eq_nil_iff]
  exact fun s hs => replies_admits_of_isOpen (hopen s hs) (hguard s hs)

theorem replies_descend_of_isOpen {path : List Stage} (hopen : ∀ s ∈ path, s.IsOpen E m config)
    (hguard : ∀ s ∈ path, (E.call m config s.view s.command.guard []).replies = [])
    (final : Run Unit) :
    (descend E m config final path).replies = final.replies := by
  rw [descend_of_isOpen hopen, Run.replies, List.filterMap_append,
    replies_admissions hopen hguard]
  rfl

theorem replies_descend_of_not_isOpen {front : List Stage} {s : Stage}
    (hfront : ∀ t ∈ front, t.IsOpen E m config)
    (hguard : ∀ t ∈ front, (E.call m config t.view t.command.guard []).replies = [])
    (hs : ¬ s.IsOpen E m config) (later : List Stage) (final : Run Unit) :
    (descend E m config final (front ++ s :: later)).replies = (s.admits E m config).replies := by
  rw [descend_of_not_isOpen hfront hs, Run.replies, List.filterMap_append,
    replies_admissions hfront hguard]
  rfl

end Descent

/-! ### The ending of a dispatch -/

section Dispatch

variable {E : Engine} {m : Message} {config : GuildConfig} {l : Locale} {ts : List Value}
  {siblings : Value}

theorem planned_eq_nil_iff :
    planned config ts siblings l = [] ↔
      ts = [] ∨ ∃ token rest, ts = token :: rest ∧
        ∀ c ∈ commandsIn siblings, c.accepts token config.shortcuts = false := by
  rw [← List.map_eq_nil_iff, planned, map_command_route]
  cases ts with
  | nil => exact ⟨fun _ => .inl rfl, fun _ => rfl⟩
  | cons token rest =>
    have hfind : ((commandsIn siblings).find? fun c => c.accepts token config.shortcuts) = none ↔
        ∀ c ∈ commandsIn siblings, c.accepts token config.shortcuts = false := by
      simp only [List.find?_eq_none, Bool.not_eq_true]
    rw [committed]
    constructor
    · intro hnil
      refine .inr ⟨token, rest, rfl, hfind.mp ?_⟩
      split at hnil
      · assumption
      · cases hnil
    · rintro (hnil | ⟨token', rest', hcons, hnone⟩)
      · cases hnil
      · cases hcons
        rw [hfind.mpr hnone]

/-- Without a stage nothing happens. -/
theorem holds_unmatched (hforest : IsForest siblings) (hnil : planned config ts siblings l = []) :
    Ending.unmatched.Holds E m config (planned config ts siblings l)
      (dispatch E m config l (.list ts) siblings) (callsOf E m config l (.list ts) siblings) := by
  have hrun (E : Engine) : dispatch E m config l (.list ts) siblings = pure false := by
    rw [dispatch_eq_descend _ _ _ _ _ hforest, hnil]
    rfl
  refine ⟨by rw [hrun]; rfl, by rw [hrun]; rfl, ?_⟩
  rw [callsOf, hrun]
  rfl

/-- With a stage the descent decides about the replies. -/
theorem replies_dispatch_of_last (hforest : IsForest siblings) {s : Stage}
    (hlast : (planned config ts siblings l).getLast? = some s)
    (hok : (descend E m config (s.finish E m config (leftover config ts siblings))
      (planned config ts siblings l)).outcome = .ok ()) :
    (dispatch E m config l (.list ts) siblings).outcome = .ok true ∧
      (dispatch E m config l (.list ts) siblings).replies =
        (descend E m config (s.finish E m config (leftover config ts siblings))
          (planned config ts siblings l)).replies := by
  rw [dispatch_eq_descend _ _ _ _ _ hforest, hlast]
  dsimp only
  rw [Run.replies_bind_of_ok hok, Run.bind_of_ok hok, Run.replies_pure, List.append_nil]
  exact ⟨rfl, rfl⟩

/-- A descent that passes every stage ends with a reply or with a call of the handler. -/
theorem exists_holds_of_isOpen (hforest : IsForest siblings)
    (hsilent : AreSilent E m config siblings) {s : Stage}
    (hlast : (planned config ts siblings l).getLast? = some s)
    (hopen : ∀ t ∈ planned config ts siblings l, t.IsOpen E m config)
    (hok : (descend E m config (s.finish E m config (leftover config ts siblings))
      (planned config ts siblings l)).outcome = .ok ()) :
    ∃ e : Ending, e ≠ .unmatched ∧ e.Holds E m config (planned config ts siblings l)
      (dispatch E m config l (.list ts) siblings) (callsOf E m config l (.list ts) siblings) := by
  have hnode (t : Stage) (ht : t ∈ planned config ts siblings l) : t.command ∈ nodes siblings :=
    command_mem_nodes_of_mem_route ht
  have hguard : ∀ t ∈ planned config ts siblings l,
      (E.call m config t.view t.command.guard []).replies = [] :=
    fun t ht => (hsilent _ (hnode t ht) _ _).1
  obtain ⟨htrue, hreplies⟩ := replies_dispatch_of_last hforest hlast hok
  rw [replies_descend_of_isOpen hopen hguard] at hreplies
  rw [descend_of_isOpen hopen] at hok
  rcases finish_ok_cases hok with ⟨text, htext, hunread⟩ | ⟨handler, args, hhandler, hargs, hcall⟩
  · refine ⟨.answered, nofun, htrue, ⟨text, hreplies.trans htext⟩, callsOf_isPrefix hforest ?_⟩
    intro s' handler args hauth
    cases hlast.symm.trans hauth.last
    exact hunread handler args hauth.handler hauth.parsed
  · have hmem : s ∈ planned config ts siblings l := List.mem_of_getLast? hlast
    refine ⟨.executed, nofun, htrue, ?_, s, handler, args, hlast, hhandler,
      callsOf_of_isAuthorised hforest ⟨hlast, hhandler, hopen, hargs⟩⟩
    rw [hreplies, hcall]
    exact (hsilent _ (hnode s hmem) _ _).2

/-- A descent that a stage ends, ends with a reply or with a guard that declines. -/
theorem exists_holds_of_not_isOpen (hforest : IsForest siblings)
    (hsilent : AreSilent E m config siblings) {s t : Stage} {front later : List Stage}
    (hlast : (planned config ts siblings l).getLast? = some s)
    (hsplit : planned config ts siblings l = front ++ t :: later)
    (hfront : ∀ u ∈ front, u.IsOpen E m config) (ht : ¬ t.IsOpen E m config)
    (hok : (descend E m config (s.finish E m config (leftover config ts siblings))
      (planned config ts siblings l)).outcome = .ok ()) :
    ∃ e : Ending, e ≠ .unmatched ∧ e.Holds E m config (planned config ts siblings l)
      (dispatch E m config l (.list ts) siblings) (callsOf E m config l (.list ts) siblings) := by
  have hguard : ∀ u ∈ planned config ts siblings l,
      (E.call m config u.view u.command.guard []).replies = [] :=
    fun u hu => (hsilent _ (command_mem_nodes_of_mem_route hu) _ _).1
  obtain ⟨htrue, hreplies⟩ := replies_dispatch_of_last hforest hlast hok
  have hcalls := callsOf_eq_of_last (E := E) (m := m) hforest hlast
  have hmem : t ∈ planned config ts siblings l := by simp [hsplit]
  have hprefix : callsOf E m config l (.list ts) siblings <+:
      (planned config ts siblings l).flatMap Stage.guardCalls := by
    rw [hcalls]
    exact calls_descend_isPrefix (fun hopen => ht (hopen t hmem)) _
  rw [hsplit] at hreplies hcalls hok hguard hprefix ⊢
  rw [replies_descend_of_not_isOpen hfront (fun u hu => hguard u (by simp [hu])) ht] at hreplies
  rw [calls_descend_of_not_isOpen hfront ht] at hcalls
  rw [descend_of_not_isOpen hfront ht] at hok
  have hfalse : (t.admits E m config).outcome = .ok false := by
    cases hadmits : (t.admits E m config).outcome with
    | error e => rw [hadmits] at hok; cases hok
    | ok isAdmitted =>
      cases isAdmitted with
      | false => rfl
      | true => exact absurd (outcome_admits_eq_true_iff.mp hadmits) ht
  rcases admits_false_cases hfalse with
    ⟨hpermits, text, htext⟩ | ⟨hpermits, guardian, v, hguardian, hv, hfalsy, hcall⟩
  · exact ⟨.answered, nofun, htrue, ⟨text, hreplies.trans htext⟩, hprefix⟩
  · refine ⟨.declined, nofun, htrue, ?_, front, t, later, guardian, v, rfl, hguardian, ?_, hv,
      hfalsy⟩
    · rw [hreplies, hcall]
      exact hguard t (by simp)
    · rw [hcalls, calls_admits_of_permits hpermits, Stage.guardCalls, hguardian, callsFor]

/-- With a stage, a dispatch that does not fail has one of the other endings. -/
theorem exists_holds_of_last (hforest : IsForest siblings) (hsilent : AreSilent E m config siblings)
    {s : Stage} (hlast : (planned config ts siblings l).getLast? = some s) {b : Bool}
    (hok : (dispatch E m config l (.list ts) siblings).outcome = .ok b) :
    ∃ e : Ending, e ≠ .unmatched ∧ e.Holds E m config (planned config ts siblings l)
      (dispatch E m config l (.list ts) siblings) (callsOf E m config l (.list ts) siblings) := by
  have hdescend : (descend E m config (s.finish E m config (leftover config ts siblings))
      (planned config ts siblings l)).outcome = .ok () := by
    rw [dispatch_eq_descend _ _ _ _ _ hforest, hlast] at hok
    obtain ⟨_, hdescend, -⟩ := Run.exists_of_bind_ok hok
    exact hdescend
  rcases isOpen_or_exists_split E m config (planned config ts siblings l) with
    hopen | ⟨front, t, later, hsplit, hfront, ht⟩
  · exact exists_holds_of_isOpen hforest hsilent hlast hopen hdescend
  · exact exists_holds_of_not_isOpen hforest hsilent hlast hsplit hfront ht hdescend

end Dispatch

/-- A dispatch that does not fail, and whose guards and handlers send no replies of their own, has
exactly one ending; it is unmatched exactly if there are no tokens or no sibling accepts the first
one. -/
theorem dispatch_ends (E : Engine) (m : Message) (config : GuildConfig) (l : Locale)
    (ts : List Value) {siblings : Value} (hforest : IsForest siblings)
    (hsilent : AreSilent E m config siblings) {b : Bool}
    (hok : (dispatch E m config l (.list ts) siblings).outcome = .ok b) :
    (∃! e : Ending, e.Holds E m config (planned config ts siblings l)
      (dispatch E m config l (.list ts) siblings) (callsOf E m config l (.list ts) siblings)) ∧
    (Ending.unmatched.Holds E m config (planned config ts siblings l)
        (dispatch E m config l (.list ts) siblings) (callsOf E m config l (.list ts) siblings) ↔
      ts = [] ∨ ∃ token rest, ts = token :: rest ∧
        ∀ c ∈ commandsIn siblings, c.accepts token config.shortcuts = false) := by
  rw [← planned_eq_nil_iff]
  cases hlast : (planned config ts siblings l).getLast? with
  | none =>
    have hnil := List.getLast?_eq_none_iff.mp hlast
    have hholds := holds_unmatched (E := E) (m := m) hforest hnil
    exact ⟨⟨.unmatched, hholds, fun e he => Ending.eq_of_holds he hholds⟩, fun _ => hnil,
      fun _ => hholds⟩
  | some s =>
    obtain ⟨e, hmatched, hholds⟩ := exists_holds_of_last hforest hsilent hlast hok
    refine ⟨⟨e, hholds, fun e' he' => Ending.eq_of_holds he' hholds⟩, fun hunmatched => ?_,
      fun hnil => ?_⟩
    · exact absurd (Ending.eq_of_holds hholds hunmatched) hmatched
    · rw [hnil] at hlast
      cases hlast

/-- The moderator's `mod k ann` has exactly one ending. -/
theorem dispatch_ends_moderation :
    IsForest (.list [.command moderation]) ∧
    AreSilent scripted moderator ⟨true, none, "en"⟩ (.list [.command moderation]) ∧
    (dispatch scripted moderator ⟨true, none, "en"⟩ silent
      (.list [.text "mod", .text "k", .text "ann"]) (.list [.command moderation])).outcome =
        .ok true ∧
    ∃! e : Ending, e.Holds scripted moderator ⟨true, none, "en"⟩
      (planned ⟨true, none, "en"⟩ [.text "mod", .text "k", .text "ann"]
        (.list [.command moderation]) silent)
      (dispatch scripted moderator ⟨true, none, "en"⟩ silent
        (.list [.text "mod", .text "k", .text "ann"]) (.list [.command moderation]))
      (callsOf scripted moderator ⟨true, none, "en"⟩ silent
        (.list [.text "mod", .text "k", .text "ann"]) (.list [.command moderation])) := by
  have hsilent : AreSilent scripted moderator ⟨true, none, "en"⟩ (.list [.command moderation]) := by
    intro c hc view args
    rw [nodes_moderation] at hc
    rcases List.mem_pair.mp hc with rfl | rfl <;> exact ⟨rfl, rfl⟩
  have hok : (dispatch scripted moderator ⟨true, none, "en"⟩ silent
      (.list [.text "mod", .text "k", .text "ann"]) (.list [.command moderation])).outcome =
        .ok true := by
    rw [dispatch_eq_descend _ _ _ _ _ isForest_moderation, planned_moderation, leftover_moderation]
    rfl
  exact ⟨isForest_moderation, hsilent, hok, (dispatch_ends scripted moderator ⟨true, none, "en"⟩
    silent [.text "mod", .text "k", .text "ann"] isForest_moderation hsilent hok).1⟩

end ChatCommands
