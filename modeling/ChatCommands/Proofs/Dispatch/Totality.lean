import ChatCommands.Proofs.Argument.Reading
import ChatCommands.Proofs.Dispatch.Ending
import ChatCommands.Proofs.Permission.Decision

/-!
# Dispatch does not fail

What registration checks, together with what hosts promise, is enough for every step of a
dispatch: requirements can be compared with what is held, guards and handlers return, tokens are
read or refused, and every refusal can be put into words.  So a dispatch returns, and a message
that is refused for its author, its path or its arguments is answered by one reply.

## Main definitions

* `IsReady` : what registration has checked and what hosts promise.
* `IsRefused` : a message that is refused by the engine itself.

## Main results

* `exists_outcome_dispatch` : a dispatch returns.
* `IsReady.exists_reply_of_isRefused` : a refused message is answered once.
* `dispatch_returns` : both.
-/

namespace ChatCommands

/-- Siblings that registration accepts and that require no negative field, a message whose author
holds a field in either scope, fields that can be compared within the limit on digits, strategies
that give a value for every text, and guards and handlers that return. -/
structure IsReady (E : Engine) (m : Message) (config : GuildConfig) (siblings : Value) : Prop where
  valid : ∃ items, siblings.elements? = some items ∧ ∀ v ∈ items, isValid E.converters v = true
  required : ∀ c ∈ nodes siblings, ∀ n, c.permissions.integer? = some n → 0 ≤ n
  held : ∀ inChannel, (m.held inChannel).IsBitField
  limit : ∀ c ∈ nodes siblings,
    Permission.AreWithinLimit (m.held c.channel.isTruthy) c.permissions
  total : E.converters.IsTotal
  returns : ∀ c ∈ nodes siblings, ∀ f, c.guard = .callable f ∨ c.handler = .callable f →
    ∀ view args, ∃ v, (E.invoke m config view f args).outcome = .ok v

/-- A message is refused where its author lacks what is required, where its path ends at a command
without a handler, or where its arguments cannot be read. -/
inductive IsRefused (E : Engine) (m : Message) (config : GuildConfig) (path : List Stage)
    (rest : List Value) : Prop
  | permissions (front later : List Stage) (s : Stage) (hsplit : path = front ++ s :: later)
      (hfront : ∀ t ∈ front, t.IsOpen E m config) (hs : ¬ m.Permits s.command)
  | routing (s : Stage) (hlast : path.getLast? = some s) (hopen : ∀ t ∈ path, t.IsOpen E m config)
      (hhandler : s.command.handler.isNull = true)
  | arguments (s : Stage) (hlast : path.getLast? = some s) (hopen : ∀ t ∈ path, t.IsOpen E m config)
      (e : Error) (herror : parse E.converters rest s.command.arguments = .error e)

section Ready

variable {E : Engine} {m : Message} {config : GuildConfig} {siblings : Value}

theorem IsReady.isWellFormed (h : IsReady E m config siblings) :
    ∀ c ∈ nodes siblings, IsWellFormed E.converters c := by
  obtain ⟨items, hitems, hvalid⟩ := h.valid
  exact isWellFormed_of_siblings hitems hvalid

theorem IsReady.isForest (h : IsReady E m config siblings) : IsForest siblings := by
  obtain ⟨items, hitems, hvalid⟩ := h.valid
  exact isForest_of_valid hitems hvalid

/-- Observing the calls does not change what is promised. -/
theorem IsReady.observed (h : IsReady E m config siblings) :
    IsReady E.observed m config siblings where
  valid := h.valid
  required := h.required
  held := h.held
  limit := h.limit
  total := h.total
  returns := h.returns

theorem IsReady.isNull_or_isBitField (h : IsReady E m config siblings) {c : Command}
    (hc : c ∈ nodes siblings) : c.permissions.isNull = true ∨ c.permissions.IsBitField := by
  by_cases hnull : c.permissions.isNull = true
  · exact .inl hnull
  · exact .inr ⟨Value.of_isNullOr (h.isWellFormed c hc).required hnull, h.required c hc⟩

/-- The call of a guard or of a handler returns. -/
theorem IsReady.exists_call (h : IsReady E m config siblings) {c : Command}
    (hc : c ∈ nodes siblings) {f : Value} (hf : f = c.guard ∨ f = c.handler)
    (hcallable : f.isNullOr Value.isCallable = true)
    (hnull : ¬ f.isNull = true) (view : Locale) (args : List Value) :
    ∃ v, (E.call m config view f args).outcome = .ok v := by
  obtain ⟨g, rfl⟩ := Value.eq_callable_of_isCallable (Value.of_isNullOr hcallable hnull)
  exact (h.returns c hc g (hf.imp Eq.symm Eq.symm) view args).imp fun _ => Engine.outcome_call_of_ok

/-! ### Every step returns -/

variable {s : Stage}

theorem IsReady.exists_rejects (h : IsReady E m config siblings) (hs : s.command ∈ nodes siblings) :
    ∃ b, (rejects E m config s.view s.command).outcome = .ok b := by
  by_cases hnull : s.command.guard.isNull = true
  · rw [rejects_of_isNull hnull]
    exact ⟨false, rfl⟩
  · obtain ⟨v, hv⟩ := h.exists_call hs (.inl rfl) (h.isWellFormed _ hs).guard hnull s.view []
    exact ⟨_, outcome_rejects_of_ok hnull hv⟩

theorem IsReady.exists_admits (h : IsReady E m config siblings) (hs : s.command ∈ nodes siblings)
    (hl : s.outer.Formats m.channel) : ∃ b, (s.admits E m config).outcome = .ok b := by
  by_cases hpermits : m.Permits s.command
  · obtain ⟨b, hb⟩ := h.exists_rejects hs
    rw [admits_of_permits hpermits, logMatch, Run.outcome_log_bind, Run.bind_of_ok hb]
    exact ⟨_, rfl⟩
  · obtain ⟨b, hb⟩ := exists_blocks_of_isBitField (E := E) (l := s.outer) (h.held _)
      (h.isNull_or_isBitField hs) (h.limit _ hs) hl
    rw [admits_of_not_permits hpermits, logMatch, Run.outcome_log_bind, Run.bind_of_ok hb]
    exact ⟨_, rfl⟩

/-- A command without a handler can be answered for. -/
theorem outcome_trigger_noSubcommandFault (h : Host) (l : Locale) (c : Command) :
    ((noSubcommandFault c).trigger h l []).outcome = .ok () := by
  have hrender : ((noSubcommandFault c).replace []).render l = l.common "no_subcommand" := rfl
  obtain ⟨text, htext⟩ : ∃ text, (l.common "no_subcommand").outcome = .ok text :=
    ⟨_, l.outcome_textAt _⟩
  exact Fault.outcome_trigger_of_render h l _ [] rfl (hrender ▸ htext)

theorem IsReady.outcome_finish (h : IsReady E m config siblings) (hs : s.command ∈ nodes siblings)
    (hl : s.outer.Formats m.channel) (ss : List String) :
    (s.finish E m config (ss.map Value.text)).outcome = .ok () := by
  have hwell := h.isWellFormed _ hs
  rw [Stage.finish, execute]
  by_cases hnull : s.command.handler.isNull = true
  · rw [if_pos hnull]
    exact outcome_trigger_noSubcommandFault _ _ _
  · rw [if_neg hnull]
    rcases parse_cases h.total hwell.arguments ss with ⟨args, hargs⟩ | ⟨f, hf, herror⟩
    · obtain ⟨v, hv⟩ := h.exists_call hs (.inr rfl) hwell.handler hnull s.view args
      rw [hargs]
      dsimp only
      rw [Run.outcome_log_bind, Run.bind_of_ok hv]
      rfl
    · rw [herror]
      dsimp only
      rw [hf.answered?]
      exact hf.outcome_trigger E.host hl

theorem IsReady.outcome_descend (h : IsReady E m config siblings) {path : List Stage}
    (hpath : ∀ s ∈ path, s.command ∈ nodes siblings ∧ s.outer.Formats m.channel) {final : Run Unit}
    (hfinal : final.outcome = .ok ()) : (descend E m config final path).outcome = .ok () := by
  rcases isOpen_or_exists_split E m config path with hopen | ⟨front, s, later, rfl, hfront, hs⟩
  · rw [descend_of_isOpen hopen]
    exact hfinal
  · obtain ⟨hnode, hl⟩ := hpath s (by simp)
    obtain ⟨b, hb⟩ := h.exists_admits hnode hl
    rw [descend_of_not_isOpen hfront hs, hb]
    rfl

end Ready

/-! ### The whole dispatch -/

section Dispatch

variable {E : Engine} {m : Message} {config : GuildConfig} {l : Locale} {ss : List String}
  {siblings : Value}

theorem leftover_map_text (config : GuildConfig) (ss : List String) (siblings : Value) :
    leftover config (ss.map Value.text) siblings =
      (ss.drop (committed config.shortcuts (ss.map Value.text) siblings).length).map Value.text := by
  rw [leftover, List.map_drop]

theorem exists_getLast_of_ne_nil {path : List Stage} (h : path ≠ []) :
    ∃ s, path.getLast? = some s :=
  ⟨path.getLast h, List.getLast?_eq_some_getLast h⟩

/-- The descent of a dispatch returns. -/
theorem IsReady.outcome_descend_planned (h : IsReady E m config siblings) (hl : l.Formats m.channel)
    {s : Stage} (hlast : (planned config (ss.map Value.text) siblings l).getLast? = some s) :
    (descend E m config (s.finish E m config (leftover config (ss.map Value.text) siblings))
      (planned config (ss.map Value.text) siblings l)).outcome = .ok () := by
  have hpath : ∀ t ∈ planned config (ss.map Value.text) siblings l,
      t.command ∈ nodes siblings ∧ t.outer.Formats m.channel :=
    fun t ht => ⟨command_mem_nodes_of_mem_route ht, hl.of_data_eq (data_of_mem_stages ht)⟩
  obtain ⟨hnode, houter⟩ := hpath s (List.mem_of_getLast? hlast)
  refine h.outcome_descend hpath ?_
  rw [leftover_map_text]
  exact h.outcome_finish hnode houter _

/-- A dispatch returns. -/
theorem IsReady.exists_outcome_dispatch (h : IsReady E m config siblings)
    (hl : l.Formats m.channel) :
    ∃ b, (dispatch E m config l (.list (ss.map Value.text)) siblings).outcome = .ok b := by
  rw [dispatch_eq_descend _ _ _ _ _ h.isForest]
  cases hlast : (planned config (ss.map Value.text) siblings l).getLast? with
  | none => exact ⟨false, rfl⟩
  | some s =>
    dsimp only
    rw [Run.bind_of_ok (h.outcome_descend_planned hl hlast)]
    exact ⟨true, rfl⟩

theorem areSilent_observed (E : Engine) (m : Message) (config : GuildConfig) (siblings : Value) :
    AreSilent E.observed m config siblings :=
  fun _ _ _ _ => ⟨E.replies_observed_call m config _ _ _, E.replies_observed_call m config _ _ _⟩

/-- A stage that lacks permission replies once. -/
theorem IsReady.exists_reply_admits (h : IsReady E m config siblings) {s : Stage}
    (hs : s.command ∈ nodes siblings) (hl : s.outer.Formats m.channel)
    (hpermits : ¬ m.Permits s.command) : ∃ text, (s.admits E m config).replies = [text] := by
  have hfalse : (s.admits E m config).outcome = .ok false := by
    obtain ⟨b, hb⟩ := h.exists_admits hs hl
    cases b with
    | false => exact hb
    | true => exact absurd (outcome_admits_eq_true_iff.mp hb).permits hpermits
  rcases admits_false_cases hfalse with ⟨-, hreply⟩ | ⟨hpermits', -⟩
  · exact hreply
  · exact absurd hpermits' hpermits

/-- Where all stages are open and no handler can be called, one reply is sent. -/
theorem exists_reply_of_isOpen (hforest : IsForest siblings)
    (hsilent : AreSilent E m config siblings) {ts : List Value} {s : Stage}
    (hlast : (planned config ts siblings l).getLast? = some s)
    (hopen : ∀ t ∈ planned config ts siblings l, t.IsOpen E m config)
    (hunread : ∀ handler args, s.command.handler = .callable handler →
      parse E.converters (leftover config ts siblings) s.command.arguments ≠ .ok args)
    (hok : (descend E m config (s.finish E m config (leftover config ts siblings))
      (planned config ts siblings l)).outcome = .ok ()) :
    ∃ text, (dispatch E m config l (.list ts) siblings).replies = [text] := by
  have hguard : ∀ t ∈ planned config ts siblings l,
      (E.call m config t.view t.command.guard []).replies = [] :=
    fun t ht => (hsilent _ (command_mem_nodes_of_mem_route ht) _ _).1
  rw [(replies_dispatch_of_last hforest hlast hok).2, replies_descend_of_isOpen hopen hguard]
  rw [descend_of_isOpen hopen] at hok
  rcases finish_ok_cases hok with ⟨text, htext, -⟩ | ⟨handler, args, hhandler, hargs, -⟩
  · exact ⟨text, htext⟩
  · exact absurd hargs (hunread handler args hhandler)

/-- A message that the engine refuses is answered by exactly one reply. -/
theorem IsReady.exists_reply_of_isRefused (h : IsReady E m config siblings)
    (hl : l.Formats m.channel) (hsilent : AreSilent E m config siblings)
    (hrefused : IsRefused E m config (planned config (ss.map Value.text) siblings l)
      (leftover config (ss.map Value.text) siblings)) :
    ∃ text, (dispatch E m config l (.list (ss.map Value.text)) siblings).replies = [text] := by
  cases hrefused with
  | permissions front later s hsplit hfront hs =>
    have hmem : s ∈ planned config (ss.map Value.text) siblings l := by simp [hsplit]
    obtain ⟨t, hlast⟩ := exists_getLast_of_ne_nil (List.ne_nil_of_mem hmem)
    have hguard : ∀ u ∈ front, (E.call m config u.view u.command.guard []).replies = [] := by
      intro u hu
      have humem : u ∈ planned config (ss.map Value.text) siblings l := by simp [hsplit, hu]
      exact (hsilent _ (command_mem_nodes_of_mem_route humem) _ _).1
    have hreplies := (replies_dispatch_of_last h.isForest hlast
      (h.outcome_descend_planned hl hlast)).2
    rw [hreplies, hsplit, replies_descend_of_not_isOpen hfront hguard (fun ho => hs ho.permits)]
    exact h.exists_reply_admits (command_mem_nodes_of_mem_route hmem)
      (hl.of_data_eq (data_of_mem_stages hmem)) hs
  | routing s hlast hopen hhandler =>
    refine exists_reply_of_isOpen h.isForest hsilent hlast hopen (fun handler _ hcallable => ?_)
      (h.outcome_descend_planned hl hlast)
    rw [hcallable] at hhandler
    cases hhandler
  | arguments s hlast hopen e herror =>
    refine exists_reply_of_isOpen h.isForest hsilent hlast hopen (fun _ args _ hargs => ?_)
      (h.outcome_descend_planned hl hlast)
    rw [herror] at hargs
    cases hargs

theorem IsRefused.observed {path : List Stage} {rest : List Value}
    (h : IsRefused E m config path rest) : IsRefused E.observed m config path rest := by
  cases h with
  | permissions front later s hsplit hfront hs =>
    exact .permissions front later s hsplit (fun t ht => isOpen_observed_iff.mpr (hfront t ht)) hs
  | routing s hlast hopen hhandler =>
    exact .routing s hlast (fun t ht => isOpen_observed_iff.mpr (hopen t ht)) hhandler
  | arguments s hlast hopen e herror =>
    exact .arguments s hlast (fun t ht => isOpen_observed_iff.mpr (hopen t ht)) e herror

end Dispatch

/-- A dispatch that is ready returns, whatever the tokens and the configuration are, in English and
in every locale that formats its replies; and a message that the engine refuses is answered by
exactly one reply of the engine. -/
theorem dispatch_returns (E : Engine) (m : Message) (config : GuildConfig) (l : Locale)
    (ss : List String) {siblings : Value} (hready : IsReady E m config siblings)
    (hl : l = Locale.english ∨ l.Formats m.channel) :
    (∃ b, (dispatch E m config l (.list (ss.map Value.text)) siblings).outcome = .ok b) ∧
    (IsRefused E m config (planned config (ss.map Value.text) siblings l)
        (leftover config (ss.map Value.text) siblings) →
      ∃ text, repliesOf E m config l (.list (ss.map Value.text)) siblings = [text]) := by
  have hformats : l.Formats m.channel := by
    rcases hl with rfl | hl
    · exact Locale.formats_english m.channel
    · exact hl
  -- What the engine sends itself is what an engine with silent callables sends.
  refine ⟨hready.exists_outcome_dispatch hformats, fun hrefused => ?_⟩
  exact hready.observed.exists_reply_of_isRefused hformats (areSilent_observed E m config siblings)
    hrefused.observed

/-- A member who holds nothing. -/
def member : Message :=
  ⟨.text "mod k ann", .text "cal", false, .int 0, .int 0, .text "hall"⟩

theorem isReady_moderation :
    IsReady scripted member ⟨true, none, "en"⟩ (.list [.command moderation]) where
  valid := ⟨[.command moderation], rfl, isValid_moderation⟩
  required c hc n hn := by
    rw [nodes_moderation] at hc
    rcases List.mem_pair.mp hc with rfl | rfl
    · exact (isBitField_int 2).nonneg n hn
    · exact (isBitField_int 4).nonneg n hn
  held inChannel := by cases inChannel <;> exact isBitField_int 0
  limit c hc := by
    rw [nodes_moderation] at hc
    rcases List.mem_pair.mp hc with rfl | rfl
    · exact Permission.areWithinLimit_int 0 2 (by decide) (by decide)
    · exact Permission.areWithinLimit_int 0 4 (by decide) (by decide)
  total := Converters.isTotal_standard
  returns c hc f hf view args := by
    rw [nodes_moderation] at hc
    rcases List.mem_pair.mp hc with rfl | rfl <;> rcases hf with hf | hf <;> cases hf <;>
      exact ⟨_, rfl⟩

/-- The member's `mod k ann` returns and is answered by one reply. -/
theorem dispatch_returns_moderation :
    IsReady scripted member ⟨true, none, "en"⟩ (.list [.command moderation]) ∧
    (∃ b, (dispatch scripted member ⟨true, none, "en"⟩ Locale.english
      (.list (["mod", "k", "ann"].map Value.text)) (.list [.command moderation])).outcome = .ok b) ∧
    ∃ text, repliesOf scripted member ⟨true, none, "en"⟩ Locale.english
      (.list (["mod", "k", "ann"].map Value.text)) (.list [.command moderation]) = [text] := by
  obtain ⟨hreturns, hreply⟩ := dispatch_returns scripted member ⟨true, none, "en"⟩ Locale.english
    ["mod", "k", "ann"] isReady_moderation (.inl rfl)
  refine ⟨isReady_moderation, hreturns, hreply ?_⟩
  have hpermits : ¬ member.Permits moderation := by
    rintro (hnull | hmissing)
    · cases hnull
    · have hheld : Permission.resolve (member.held moderation.channel.isTruthy) = .ok 0 := rfl
      have hrequired : Permission.resolve moderation.permissions = .ok 2 := rfl
      rcases (Permission.missing_eq_nil_iff hheld hrequired).mp hmissing with hadmin | hcovers
      · cases hadmin
      · cases hcovers 1 rfl
  refine .permissions [] [⟨kick, .text "k", Locale.english, Locale.english⟩]
    ⟨moderation, .text "mod", Locale.english, Locale.english⟩ ?_ nofun hpermits
  simp only [planned, route, List.map_cons, List.map_nil, committed_moderation]
  rfl

end ChatCommands
