import ChatCommands.Proofs.Dispatch.Totality

/-!
# What callables raise

Nothing catches what a guard or a handler raises, not even faults of the kinds that the engine
answers itself: the call that raises is the last thing that happens in a dispatch, and the dispatch
ends with what was raised.  The one exception is the end of an iteration, which no coroutine passes
on.  Only reading the arguments is watched, and only for two kinds of faults: these are surfaced,
and answered if their text can be worked out; any other error of reading ends the dispatch as well.

## Main definitions

* `Call.Raises` : a call ends with an error.
* `Run.PassesOn` : a run ends where a call raises, with what the call raises as coroutines pass it
  on.
* `IsMisread` : the arguments at the end of a path cannot be read.
* `Error.IsAnsweredBy` : the errors of reading that are surfaced.

## Main results

* `Error.passedOn_of_ne` : only the end of an iteration is not passed on as it is.
* `passesOn_dispatch` : a dispatch passes on what its calls raise.
* `dispatch_of_isOpen` : a dispatch along open stages, by what is done at their end.
* `dispatch_passes_on_errors` : which errors end a dispatch, and which are answered.
-/

namespace ChatCommands

/-! ### Errors that leave a coroutine -/

/-- Only callables and strategies raise the end of an iteration. -/
theorem Error.exists_raised_of_iterationEnd {e : Error} (h : e.failureClass = .iterationEnd) :
    ∃ f, e = .raised f ∧ f.kind = .iterationEnd := by
  cases e with
  | raised f => exact ⟨f, rfl, h⟩
  | fault f => cases h
  | refusal r => cases r <;> cases h
  | misuse m => cases m <;> cases h
  | template t =>
    cases t with
    | misuse m => cases m <;> cases h
    | _ => cases h
  | document d => cases d <;> cases h

theorem Error.passedOn_of_eq {e : Error} (h : e.failureClass = .iterationEnd) :
    e.passedOn = iterationRaised := by
  obtain ⟨f, rfl, hkind⟩ := exists_raised_of_iterationEnd h
  exact if_pos hkind

/-- An error is passed on as it is, unless it is the end of an iteration. -/
theorem Error.passedOn_of_ne {e : Error} (h : e.failureClass ≠ .iterationEnd) : e.passedOn = e := by
  cases e with
  | raised f => exact if_neg h
  | _ => rfl

/-! ### Calls that raise -/

/-- A call ends with an error. -/
def Call.Raises (call : Call) (E : Engine) (m : Message) (config : GuildConfig) (e : Error) :
    Prop :=
  (E.invoke m config call.view call.callee call.args).outcome = .error e

theorem Call.mark_injective {call call' : Call} (h : call.mark = call'.mark) : call = call' := by
  have hcall := congrArg Event.call? h
  rw [Event.call?_mark, Event.call?_mark] at hcall
  exact Option.some.inj hcall

theorem Call.not_isOwn_mark (call : Call) : ¬ call.mark.IsOwn :=
  id

/-- An observed run ends where it marks a call that raises, with what coroutines pass on of it. -/
def Run.PassesOn (E : Engine) (m : Message) (config : GuildConfig) {α : Type} (r : Run α) : Prop :=
  ∀ (front : List Event) (call : Call) (later : List Event) (e : Error),
    r.events = front ++ call.mark :: later → call.Raises E m config e →
      later = [] ∧ r.outcome = .error e.passedOn

section PassesOn

variable {E : Engine} {m : Message} {config : GuildConfig}

theorem Run.PassesOn.bind {α β : Type} {r : Run α} {f : α → Run β} (hr : r.PassesOn E m config)
    (hf : ∀ a, (f a).PassesOn E m config) : (r >>= f).PassesOn E m config := by
  intro front call later e hevents hraises
  cases hoc : r.outcome with
  | error x =>
    rw [Run.bind_of_error hoc] at hevents ⊢
    obtain ⟨hlater, hx⟩ := hr front call later e hevents hraises
    cases hoc.symm.trans hx
    exact ⟨hlater, rfl⟩
  | ok a =>
    rw [Run.bind_of_ok hoc] at hevents ⊢
    -- A run that went on has not marked a call that raises.
    rcases List.append_eq_append_iff.mp hevents with
      ⟨front', -, hsecond⟩ | ⟨middle, hfirst, hsecond⟩
    · exact hf a front' call later e hsecond hraises
    · cases middle with
      | nil => exact hf a [] call later e hsecond.symm hraises
      | cons event middle =>
        rw [List.cons_append] at hsecond
        cases hsecond
        obtain ⟨-, hx⟩ := hr front call middle e hfirst hraises
        rw [hoc] at hx
        cases hx

theorem Run.isCompositional_passesOn (E : Engine) (m : Message) (config : GuildConfig) :
    Run.IsCompositional fun r => r.PassesOn E m config where
  own hown front call later e hevents _ := by
    have hmem : call.mark ∈ front ++ call.mark :: later := by simp
    rw [← hevents] at hmem
    exact absurd (hown _ hmem) call.not_isOwn_mark
  bind := Run.PassesOn.bind

theorem passesOn_observed_call (l : Locale) (f : Value) (args : List Value) :
    (E.observed.call m config l f args).PassesOn E m config := by
  intro front call later e hevents hraises
  cases f with
  | callable c =>
    have hmark : [Call.mark ⟨c, l, args⟩] = front ++ call.mark :: later := hevents
    cases front with
    | nil =>
      obtain ⟨hcall, hlater⟩ := List.cons.inj hmark
      cases Call.mark_injective hcall
      exact ⟨hlater.symm, congrArg (Except.mapError Error.passedOn) hraises⟩
    | cons event front =>
      have hnil : front ++ call.mark :: later = [] := (List.cons.inj hmark).2.symm
      exact absurd hnil (List.append_ne_nil_of_right_ne_nil _ (List.cons_ne_nil _ _))
  | _ => exact absurd hevents.symm (List.append_ne_nil_of_right_ne_nil _ (List.cons_ne_nil _ _))

/-- A dispatch ends where a guard or a handler raises, with what it raises. -/
theorem passesOn_dispatch (E : Engine) (m : Message) (config : GuildConfig) (l : Locale)
    (tokens siblings : Value) :
    (dispatch E.observed m config l tokens siblings).PassesOn E m config :=
  holds_dispatch (Run.isCompositional_passesOn E m config) passesOn_observed_call l tokens siblings

/-- Every call of a dispatch is marked in its observed run. -/
theorem exists_mark_of_mem_callsOf {config : GuildConfig} {l : Locale} {tokens siblings : Value}
    {call : Call} (h : call ∈ callsOf E m config l tokens siblings) :
    ∃ front later,
      (dispatch E.observed m config l tokens siblings).events = front ++ call.mark :: later := by
  obtain ⟨event, hevent, hcall⟩ := List.mem_filterMap.mp h
  have hmark : event = call.mark := by
    rcases emits_dispatch_observed E m config l tokens siblings event hevent with
      hown | ⟨call', rfl⟩
    · rw [hown.call?_eq_none] at hcall
      cases hcall
    · rw [Event.call?_mark] at hcall
      rw [Option.some.inj hcall]
  rw [hmark] at hevent
  exact List.append_of_mem hevent

/-- What the callables do in a run that ends with a mark. -/
theorem Engine.flatMap_replayed_mark (E : Engine) (m : Message) (config : GuildConfig)
    (front : List Event) (call : Call) :
    (front ++ [call.mark]).flatMap (E.replayed m config) =
      front.flatMap (E.replayed m config) ++
        (E.invoke m config call.view call.callee call.args).events := by
  have hmark : E.replayed m config call.mark =
      (E.invoke m config call.view call.callee call.args).events := by
    rw [Engine.replayed, Event.call?_mark]
  rw [List.flatMap_append, List.flatMap_singleton, hmark]

end PassesOn

/-! ### Arguments that cannot be read -/

/-- An error of reading is a fault about an argument, one of the two kinds that are surfaced. -/
def Error.IsAnsweredBy (e : Error) (f : Fault) : Prop :=
  e = .fault f ∧ (f.kind = .missingArgument ∨ f.kind = .invalidArgumentType)

theorem Error.answered?_eq_some_iff {e : Error} {f : Fault} :
    e.answered? = some f ↔ e.IsAnsweredBy f := by
  cases e with
  | fault g =>
    have hinj : Error.fault g = .fault f ↔ g = f := ⟨fun h => by cases h; rfl, congrArg _⟩
    rw [IsAnsweredBy, hinj, answered?]
    constructor
    · intro h
      split at h <;> cases h
      · exact ⟨rfl, .inl ‹_›⟩
      · exact ⟨rfl, .inr ‹_›⟩
    · rintro ⟨rfl, hkind | hkind⟩ <;> rw [hkind]
  | _ => exact ⟨nofun, fun h => by cases h.1⟩

theorem Error.answered?_eq_none_iff {e : Error} :
    e.answered? = none ↔ ∀ f, ¬ e.IsAnsweredBy f := by
  simp only [Option.eq_none_iff_forall_ne_some, ne_eq, Error.answered?_eq_some_iff]

/-- A message comes to the handler at the end of its path, but the arguments cannot be read. -/
structure IsMisread (E : Engine) (m : Message) (config : GuildConfig) (path : List Stage)
    (rest : List Value) (s : Stage) (e : Error) : Prop where
  last : path.getLast? = some s
  handler : ¬ s.command.handler.isNull = true
  isOpen : ∀ t ∈ path, t.IsOpen E m config
  parsed : parse E.converters rest s.command.arguments = .error e

section Misread

variable {E : Engine} {m : Message} {config : GuildConfig} {l : Locale} {ts : List Value}
  {siblings : Value} {s : Stage} {e : Error}

theorem IsMisread.observed {path : List Stage} {rest : List Value}
    (h : IsMisread E m config path rest s e) : IsMisread E.observed m config path rest s e where
  last := h.last
  handler := h.handler
  isOpen t ht := isOpen_observed_iff.mpr (h.isOpen t ht)
  parsed := h.parsed

/-- A dispatch along open stages does what they do, and then what is done at their end. -/
theorem dispatch_of_isOpen (hforest : IsForest siblings)
    (hlast : (planned config ts siblings l).getLast? = some s)
    (hopen : ∀ t ∈ planned config ts siblings l, t.IsOpen E m config) :
    dispatch E m config l (.list ts) siblings =
      ⟨admissions E m config (planned config ts siblings l) ++
          (s.finish E m config (leftover config ts siblings)).events,
        (s.finish E m config (leftover config ts siblings)).outcome.map fun _ => true⟩ := by
  rw [dispatch_eq_descend _ _ _ _ _ hforest, hlast]
  dsimp only
  rw [descend_of_isOpen hopen, Run.bind_pure_eq]

theorem IsMisread.finish_of_isAnsweredBy {path : List Stage} {rest : List Value}
    (h : IsMisread E m config path rest s e) {f : Fault} (hf : e.IsAnsweredBy f) :
    s.finish E m config rest = f.trigger E.host s.outer [] := by
  have hanswered : e.answered? = some f := Error.answered?_eq_some_iff.mpr hf
  simp only [Stage.finish, execute, if_neg h.handler, h.parsed, hanswered]

theorem IsMisread.finish_of_not_isAnsweredBy {path : List Stage} {rest : List Value}
    (h : IsMisread E m config path rest s e) (hf : ∀ f, ¬ e.IsAnsweredBy f) :
    s.finish E m config rest = Run.fail e.passedOn := by
  have hanswered : e.answered? = none := Error.answered?_eq_none_iff.mpr hf
  simp only [Stage.finish, execute, if_neg h.handler, h.parsed, hanswered]

/-- What the engine itself replies along open stages is replied at their end. -/
theorem repliesOf_of_isOpen (hforest : IsForest siblings)
    (hlast : (planned config ts siblings l).getLast? = some s)
    (hopen : ∀ t ∈ planned config ts siblings l, t.IsOpen E m config) :
    repliesOf E m config l (.list ts) siblings =
      (s.finish E.observed m config (leftover config ts siblings)).replies := by
  have hobserved : ∀ t ∈ planned config ts siblings l, t.IsOpen E.observed m config :=
    fun t ht => isOpen_observed_iff.mpr (hopen t ht)
  have hsilent : ∀ t ∈ planned config ts siblings l,
      (E.observed.call m config t.view t.command.guard []).replies = [] :=
    fun t _ => E.replies_observed_call m config t.view t.command.guard []
  rw [repliesOf, dispatch_of_isOpen hforest hlast hobserved, Run.replies, List.filterMap_append,
    replies_admissions hobserved hsilent]
  rfl

/-- A fault about an argument is surfaced, and answered by one reply if its text can be worked
out. -/
theorem IsMisread.dispatch_of_isAnsweredBy (hforest : IsForest siblings)
    (h : IsMisread E m config (planned config ts siblings l) (leftover config ts siblings) s e)
    {f : Fault} (hf : e.IsAnsweredBy f) :
    dispatch E m config l (.list ts) siblings =
        ⟨admissions E m config (planned config ts siblings l) ++
            (f.trigger E.host s.outer []).events,
          (f.trigger E.host s.outer []).outcome.map fun _ => true⟩ ∧
      ((f.trigger E.host s.outer []).outcome = .ok () →
        ∃ text, repliesOf E m config l (.list ts) siblings = [text]) := by
  refine ⟨?_, fun hok => ?_⟩
  · rw [dispatch_of_isOpen hforest h.last h.isOpen, h.finish_of_isAnsweredBy hf]
  · rw [repliesOf_of_isOpen hforest h.last h.isOpen, h.observed.finish_of_isAnsweredBy hf]
    exact Fault.replies_trigger E.host s.outer f [] hok

/-- Any other error of reading ends the dispatch, without a reply. -/
theorem IsMisread.dispatch_of_not_isAnsweredBy (hforest : IsForest siblings)
    (h : IsMisread E m config (planned config ts siblings l) (leftover config ts siblings) s e)
    (hf : ∀ f, ¬ e.IsAnsweredBy f) :
    dispatch E m config l (.list ts) siblings =
        ⟨admissions E m config (planned config ts siblings l), .error e.passedOn⟩ ∧
      repliesOf E m config l (.list ts) siblings = [] := by
  refine ⟨?_, ?_⟩
  · rw [dispatch_of_isOpen hforest h.last h.isOpen, h.finish_of_not_isAnsweredBy hf]
    simp only [Run.fail, List.append_nil, Except.map]
  · rw [repliesOf_of_isOpen hforest h.last h.isOpen, h.observed.finish_of_not_isAnsweredBy hf]
    rfl

end Misread

/-- What a guard or a handler raises ends the dispatch: the outcome is what was raised, unless that
is the end of an iteration, the call is the last one, and its own events are the last ones.  Of the
errors of reading arguments exactly those are surfaced that are faults about an argument, one that
is missing or of the wrong type, and they are answered by one reply if its text can be worked out;
the others end the dispatch unanswered. -/
theorem dispatch_passes_on_errors (E : Engine) (m : Message) (config : GuildConfig) (l : Locale)
    (ts : List Value) (siblings : Value) :
    (∀ call ∈ callsOf E m config l (.list ts) siblings, ∀ e, call.Raises E m config e →
      (e.failureClass ≠ .iterationEnd →
        (dispatch E m config l (.list ts) siblings).outcome = .error e) ∧
      (e.failureClass = .iterationEnd →
        (dispatch E m config l (.list ts) siblings).outcome = .error .iterationRaised) ∧
      ∃ front, (dispatch E.observed m config l (.list ts) siblings).events = front ++ [call.mark] ∧
        (dispatch E m config l (.list ts) siblings).events =
          front.flatMap (E.replayed m config) ++
            (E.invoke m config call.view call.callee call.args).events) ∧
    (IsForest siblings → ∀ s e,
      IsMisread E m config (planned config ts siblings l) (leftover config ts siblings) s e →
      (∀ f, e.IsAnsweredBy f →
        dispatch E m config l (.list ts) siblings =
            ⟨admissions E m config (planned config ts siblings l) ++
                (f.trigger E.host s.outer []).events,
              (f.trigger E.host s.outer []).outcome.map fun _ => true⟩ ∧
          ((f.trigger E.host s.outer []).outcome = .ok () →
            ∃ text, repliesOf E m config l (.list ts) siblings = [text])) ∧
      ((∀ f, ¬ e.IsAnsweredBy f) →
        dispatch E m config l (.list ts) siblings =
            ⟨admissions E m config (planned config ts siblings l), .error e.passedOn⟩ ∧
          repliesOf E m config l (.list ts) siblings = [])) := by
  refine ⟨fun call hcall e hraises => ?_, fun hforest s e h => ⟨fun f hf => ?_, fun hf => ?_⟩⟩
  · obtain ⟨front, later, hevents⟩ := exists_mark_of_mem_callsOf hcall
    obtain ⟨rfl, herror⟩ :=
      passesOn_dispatch E m config l (.list ts) siblings front call later e hevents hraises
    rw [← replay_dispatch E m config l (.list ts) siblings]
    refine ⟨fun hne => ?_, fun heq => ?_, front, hevents, ?_⟩
    · exact herror.trans (congrArg _ (Error.passedOn_of_ne hne))
    · exact herror.trans (congrArg _ (Error.passedOn_of_eq heq))
    · rw [Run.replay, hevents, E.flatMap_replayed_mark]
  · exact h.dispatch_of_isAnsweredBy hforest hf
  · exact h.dispatch_of_not_isAnsweredBy hforest hf

/-! ### A handler that raises -/

/-- A handler that raises a failure. -/
def raising (f : Failure) : Callable :=
  .script ⟨3, "kick", false, .null, some f, [], []⟩

/-- A command with that handler. -/
def raisingKick (f : Failure) : Command :=
  { kick with handler := .callable (raising f) }

/-- The moderation tree around it. -/
def raisingModeration (f : Failure) : Command :=
  { moderation with subcommands := .tuple [.command (raisingKick f)] }

section Raising

variable (f : Failure)

theorem isForest_raisingModeration : IsForest (.list [.command (raisingModeration f)]) := by
  have hvalid : ∀ w ∈ [Value.command (raisingModeration f)],
      isValid Converters.standard w = true := by
    intro w hw
    rw [List.mem_singleton.mp hw]
    rfl
  exact isForest_of_valid rfl hvalid

/-- The messages that start with `mod k` lead to the command. -/
theorem committed_raisingModeration (rest : List Value) :
    committed true (.text "mod" :: .text "k" :: rest) (.list [.command (raisingModeration f)]) =
      [raisingModeration f, raisingKick f] := by
  cases rest <;> cbv

theorem planned_raisingModeration (rest : List Value) :
    planned ⟨true, none, "en"⟩ (.text "mod" :: .text "k" :: rest)
        (.list [.command (raisingModeration f)]) silent =
      [⟨raisingModeration f, .text "mod", silent, silent⟩,
        ⟨raisingKick f, .text "k", silent, silent⟩] := by
  rw [planned, route, committed_raisingModeration]
  rfl

theorem leftover_raisingModeration (rest : List Value) :
    leftover ⟨true, none, "en"⟩ (.text "mod" :: .text "k" :: rest)
      (.list [.command (raisingModeration f)]) = rest := by
  rw [leftover, committed_raisingModeration]
  rfl

theorem isOpen_raisingModeration (rest : List Value) :
    ∀ t ∈ planned ⟨true, none, "en"⟩ (.text "mod" :: .text "k" :: rest)
      (.list [.command (raisingModeration f)]) silent,
        t.IsOpen scripted moderator ⟨true, none, "en"⟩ := by
  intro t ht
  rw [planned_raisingModeration] at ht
  rcases List.mem_pair.mp ht with rfl | rfl
  · exact ⟨.inr rfl, .inr ⟨.bool true, rfl, rfl⟩⟩
  · exact ⟨.inr rfl, .inl rfl⟩

/-- The moderator's `mod k ann` calls the handler that raises. -/
theorem mem_callsOf_raisingModeration :
    ⟨raising f, silent, [.text "ann"]⟩ ∈
      callsOf scripted moderator ⟨true, none, "en"⟩ silent
        (.list [.text "mod", .text "k", .text "ann"]) (.list [.command (raisingModeration f)]) := by
  have hauthorised : IsAuthorised scripted moderator ⟨true, none, "en"⟩
      (planned ⟨true, none, "en"⟩ [.text "mod", .text "k", .text "ann"]
        (.list [.command (raisingModeration f)]) silent)
      (leftover ⟨true, none, "en"⟩ [.text "mod", .text "k", .text "ann"]
        (.list [.command (raisingModeration f)]))
      ⟨raisingKick f, .text "k", silent, silent⟩ (raising f) [.text "ann"] := by
    refine ⟨?_, rfl, isOpen_raisingModeration f _, ?_⟩
    · rw [planned_raisingModeration]
      rfl
    · rw [leftover_raisingModeration]
      rfl
  rw [callsOf_of_isAuthorised (isForest_raisingModeration f) hauthorised]
  exact List.mem_append_right _ List.mem_cons_self

/-- The moderator's `mod k` comes to the same handler, but names nobody to kick. -/
theorem isMisread_raisingModeration :
    IsMisread scripted moderator ⟨true, none, "en"⟩
      (planned ⟨true, none, "en"⟩ [.text "mod", .text "k"] (.list [.command (raisingModeration f)])
        silent)
      (leftover ⟨true, none, "en"⟩ [.text "mod", .text "k"]
        (.list [.command (raisingModeration f)]))
      ⟨raisingKick f, .text "k", silent, silent⟩
      (.fault
        ((requiredFault ⟨2, .text "who", [.text "string"], .bool false, .unset⟩).located 0)) := by
  refine ⟨?_, nofun, isOpen_raisingModeration f _, ?_⟩
  · rw [planned_raisingModeration]
    rfl
  · rw [leftover_raisingModeration]
    rfl

end Raising

/-- A failure of a kind that is answered if it comes from reading. -/
def grievance : Failure :=
  ⟨.fault .missingArgument, [.text "nobody to kick"]⟩

/-- What the complaining handler raises ends the dispatch of `mod k ann`, although it is a fault
about a missing argument; the fault of the same kind that comes from reading `mod k` is answered. -/
theorem dispatch_passes_on_errors_moderation :
    (dispatch scripted moderator ⟨true, none, "en"⟩ silent
        (.list [.text "mod", .text "k", .text "ann"])
        (.list [.command (raisingModeration grievance)])).outcome =
      .error (.fault (Fault.make .missingArgument (some "nobody to kick") [])) ∧
    ∃ text, repliesOf scripted moderator ⟨true, none, "en"⟩ silent (.list [.text "mod", .text "k"])
      (.list [.command (raisingModeration grievance)]) = [text] := by
  refine ⟨?_, ?_⟩
  · exact ((dispatch_passes_on_errors scripted moderator ⟨true, none, "en"⟩ silent _ _).1 _
      (mem_callsOf_raisingModeration grievance) _ rfl).1 (by decide)
  · refine (((dispatch_passes_on_errors scripted moderator ⟨true, none, "en"⟩ silent _ _).2
      (isForest_raisingModeration grievance) _ _ (isMisread_raisingModeration grievance)).1 _
      ⟨rfl, .inl rfl⟩).2 ?_
    rfl

/-- The end of an iteration. -/
def exhaustion : Failure :=
  ⟨.iterationEnd, [.text "nobody left"]⟩

/-- A locale whose reply about a missing argument cannot be formatted. -/
def garbled : Locale :=
  ⟨.map false [("common", .map false [("missing_argument", .text "\x7b9\x7d")])], []⟩

/-- The end of an iteration that a handler raises does not end the dispatch of `mod k ann`: another
error does.  And the missing argument of `mod k` is not answered where the text of the reply cannot
be worked out. -/
theorem dispatch_replaces_errors :
    (⟨raising exhaustion, silent, [.text "ann"]⟩ : Call) ∈
      callsOf scripted moderator ⟨true, none, "en"⟩ silent
        (.list [.text "mod", .text "k", .text "ann"])
        (.list [.command (raisingModeration exhaustion)]) ∧
    (⟨raising exhaustion, silent, [.text "ann"]⟩ : Call).Raises scripted moderator
      ⟨true, none, "en"⟩ (.raised exhaustion) ∧
    (dispatch scripted moderator ⟨true, none, "en"⟩ silent
        (.list [.text "mod", .text "k", .text "ann"])
        (.list [.command (raisingModeration exhaustion)])).outcome = .error .iterationRaised ∧
    (parse scripted.converters [] (raisingKick exhaustion).arguments =
      .error (.fault
        ((requiredFault ⟨2, .text "who", [.text "string"], .bool false, .unset⟩).located 0))) ∧
    (dispatch scripted moderator ⟨true, none, "en"⟩ garbled (.list [.text "mod", .text "k"])
        (.list [.command (raisingModeration exhaustion)])).outcome =
      .error (.template (.noArgument 9)) ∧
    repliesOf scripted moderator ⟨true, none, "en"⟩ garbled (.list [.text "mod", .text "k"])
      (.list [.command (raisingModeration exhaustion)]) = [] := by
  have hforest := isForest_raisingModeration exhaustion
  refine ⟨mem_callsOf_raisingModeration exhaustion, rfl, ?_, rfl, ?_, ?_⟩
  · rw [dispatch_eq_descend _ _ _ _ _ hforest, planned_raisingModeration,
      leftover_raisingModeration]
    rfl
  · rw [dispatch_eq_descend _ _ _ _ _ hforest, planned, route, committed_raisingModeration,
      leftover_raisingModeration]
    rfl
  · rw [repliesOf, dispatch_eq_descend _ _ _ _ _ hforest, planned, route,
      committed_raisingModeration, leftover_raisingModeration]
    rfl

end ChatCommands
