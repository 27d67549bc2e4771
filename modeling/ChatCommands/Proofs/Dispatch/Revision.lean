import ChatCommands.Proofs.Dispatch.Commitment

/-!
# Runs of a revised tree

A *revision* rewrites shortcuts and requirements at every node of a tree and leaves everything else
in place.  Whether it shows in a run is decided node by node: by what the tokens match, by what the
permission stages do, and by what the callables do with the message and the configuration.  Where
these agree, the tree and its revision run alike, for two messages and for two configurations.  The
tree may be left as it is, so this compares two runs of one tree as well.

Permission stages have to agree only as far as a run gets: a condition on the events of the first
run can be carried along, and is then known of every stage that the run comes to.

## Main definitions

* `Revision`, `revised` : a rewriting of shortcuts and requirements; a tree with it at every node.
* `AreIndifferent` : the callables of a tree do the same with two messages and configurations.
* `Revision.IsHidden` : a revision that does not show along some tokens.

## Main results

* `nodes_revised` : the nodes of a revised tree are those of the tree, each of them revised.
* `selectAmong_revised` : a token selects a sibling and its revision alike.
* `Revision.IsHidden.dispatch_eq` : a revision that does not show changes no dispatch.
* `AreIndifferent.dispatch_eq` : the same for two messages and one tree.
-/

namespace ChatCommands

/-! ### Revised trees -/

/-- How the shortcuts and the requirements of a tree are rewritten. -/
structure Revision where
  shortcut : Value → Value
  permissions : Value → Value

/-- The revision that leaves everything as it is. -/
def Revision.unchanged : Revision :=
  ⟨id, id⟩

mutual

/-- A value with the commands in it revised at every depth. -/
def revised (r : Revision) : Value → Value
  | .command ⟨n, name, shortcut, required, channel, guardian, children, definitions, handler⟩ =>
    .command ⟨n, name, r.shortcut shortcut, r.permissions required, channel, guardian,
      revised r children, definitions, handler⟩
  | .list items => .list (revisedAll r items)
  | .tuple items => .tuple (revisedAll r items)
  | .set isFrozen items => .set isFrozen (revisedAll r items)
  | .stream n items => .stream n (revisedAll r items)
  | v => v

/-- Several values, each of them revised. -/
def revisedAll (r : Revision) : List Value → List Value
  | [] => []
  | v :: rest => revised r v :: revisedAll r rest

end

/-- A command with its own fields and the tree below it revised. -/
def Revision.command (r : Revision) (c : Command) : Command :=
  { c with
    shortcut := r.shortcut c.shortcut
    permissions := r.permissions c.permissions
    subcommands := revised r c.subcommands }

theorem Revision.subcommands_command (r : Revision) (c : Command) :
    (r.command c).subcommands = revised r c.subcommands := rfl

section Revised

variable (r : Revision)

@[simp] theorem revised_command (c : Command) :
    revised r (.command c) = .command (r.command c) := by
  cases c
  rw [revised, Revision.command]

theorem revisedAll_eq (items : List Value) : revisedAll r items = items.map (revised r) := by
  induction items with
  | nil => rw [revisedAll, List.map_nil]
  | cons v rest ih => rw [revisedAll, ih, List.map_cons]

theorem isNull_revised (v : Value) : (revised r v).isNull = v.isNull := by
  cases v <;> rfl

theorem typeName_revised (v : Value) : (revised r v).typeName = v.typeName := by
  cases v <;> rfl

/-- A revised value goes through the revised elements. -/
theorem elements?_revised (v : Value) :
    (revised r v).elements? = v.elements?.map (List.map (revised r)) := by
  have hkept {α : Type} (xs : List α) (f : α → Value) (hf : ∀ x, revised r (f x) = f x) :
      xs.map f = (xs.map f).map (revised r) := by
    rw [List.map_map]
    exact List.map_congr_left fun x _ => (hf x).symm
  cases v <;> simp only [revised, Value.elements?, Option.map_some, Option.map_none,
    Option.some.injEq, revisedAll_eq]
  -- The elements of texts, bytes, maps and the like are no commands.
  all_goals exact hkept _ _ fun _ => rfl

mutual

/-- The nodes of a revised value are those of the value, each of them revised. -/
theorem nodes_revised : ∀ v : Value, nodes (revised r v) = (nodes v).map r.command
  | .command ⟨n, name, shortcut, required, channel, guardian, children, definitions, handler⟩ => by
    rw [revised_command, nodes_command, nodes_command, List.map_cons, Revision.command,
      nodes_revised children]
  | .list items => by rw [revised, nodes, nodes, nodesAll_revisedAll items]
  | .tuple items => by rw [revised, nodes, nodes, nodesAll_revisedAll items]
  | .set _ items => by rw [revised, nodes, nodes, nodesAll_revisedAll items]
  | .stream _ items => by rw [revised, nodes, nodes, nodesAll_revisedAll items]
  | .null | .unset | .bool _ | .int _ | .float _ | .text _ | .bytes _ | .map _ _ | .permissions _
  | .code _ | .holder _ | .styled _ | .callable _ | .argument _ => by
    rfl

theorem nodesAll_revisedAll : ∀ items : List Value,
    nodesAll (revisedAll r items) = (nodesAll items).map r.command
  | [] => by rw [revisedAll, nodesAll, List.map_nil]
  | v :: rest => by
    rw [revisedAll, nodesAll, nodesAll, List.map_append, nodes_revised v,
      nodesAll_revisedAll rest]

end

mutual

/-- A tree without any rewriting is the tree itself. -/
theorem revised_unchanged : ∀ v : Value, revised .unchanged v = v
  | .command ⟨n, name, shortcut, required, channel, guardian, children, definitions, handler⟩ => by
    rw [revised, revised_unchanged children]
    rfl
  | .list items => by rw [revised, revisedAll_unchanged items]
  | .tuple items => by rw [revised, revisedAll_unchanged items]
  | .set _ items => by rw [revised, revisedAll_unchanged items]
  | .stream _ items => by rw [revised, revisedAll_unchanged items]
  | .null | .unset | .bool _ | .int _ | .float _ | .text _ | .bytes _ | .map _ _ | .permissions _
  | .code _ | .holder _ | .styled _ | .callable _ | .argument _ => rfl

theorem revisedAll_unchanged : ∀ items : List Value, revisedAll .unchanged items = items
  | [] => rfl
  | v :: rest => by rw [revisedAll, revised_unchanged v, revisedAll_unchanged rest]

end

theorem Revision.command_unchanged (c : Command) : Revision.unchanged.command c = c := by
  have h : revised .unchanged (.command c) = .command c := revised_unchanged _
  rw [revised_command] at h
  exact Value.command.inj h

end Revised

/-! ### Selection -/

section Selection

variable {r : Revision} {shortcuts shortcuts' : Bool} {token : Value}

theorem filterMap_command?_cons (c : Command) (items : List Value) :
    (Value.command c :: items).filterMap Value.command? = c :: items.filterMap Value.command? :=
  List.filterMap_cons_some rfl

theorem select_revised {items : List Value}
    (haccepts : ∀ c ∈ items.filterMap Value.command?,
      (r.command c).accepts token shortcuts' = c.accepts token shortcuts) :
    select shortcuts' token (items.map (revised r)) =
      (select shortcuts token items).map (Option.map r.command) := by
  induction items with
  | nil => rfl
  | cons v rest ih =>
    cases v with
    | command c =>
      rw [filterMap_command?_cons] at haccepts
      obtain ⟨hc, hrest⟩ := List.forall_mem_cons.mp haccepts
      rw [List.map_cons, revised_command, select, select, hc, ih hrest]
      cases c.accepts token shortcuts <;> rfl
    | _ => rfl

/-- Where every node accepts the token as before, the revision of the same sibling is selected. -/
theorem selectAmong_revised {siblings : Value}
    (haccepts : ∀ c ∈ commandsIn siblings,
      (r.command c).accepts token shortcuts' = c.accepts token shortcuts) :
    selectAmong shortcuts' token (revised r siblings) =
      (selectAmong shortcuts token siblings).map (Option.map r.command) := by
  rw [commandsIn] at haccepts
  unfold selectAmong Value.items
  rw [elements?_revised, typeName_revised]
  cases hitems : siblings.elements? with
  | none => rfl
  | some items =>
    rw [hitems, Option.getD_some] at haccepts
    exact select_revised haccepts

/-- What is selected is one of the siblings. -/
theorem mem_commandsIn_of_selectAmong {siblings : Value} {c : Command}
    (h : selectAmong shortcuts token siblings = .ok (some c)) : c ∈ commandsIn siblings := by
  obtain ⟨front, back, hitems, -, -⟩ := selectAmong_eq_some_iff.mp h
  rw [commandsIn, hitems, Option.getD_some]
  exact List.mem_filterMap.mpr ⟨.command c, by simp, rfl⟩

end Selection

/-! ### Revisions that do not show -/

/-- The guards and the handlers of a tree do the same with two messages, under one configuration
each. -/
def AreIndifferent (E : Engine) (m m' : Message) (config config' : GuildConfig)
    (siblings : Value) : Prop :=
  ∀ c ∈ nodes siblings, ∀ f, c.guard = .callable f ∨ c.handler = .callable f →
    ∀ view args, E.invoke m' config' view f args = E.invoke m config view f args

theorem AreIndifferent.refl (E : Engine) (m : Message) (config : GuildConfig) (siblings : Value) :
    AreIndifferent E m m config config siblings :=
  fun _ _ _ _ _ _ => rfl

/-- Scripts look neither at the message nor at the configuration. -/
theorem areIndifferent_performWith (h : Host) (table : Converters) (m m' : Message)
    (config config' : GuildConfig) (siblings : Value) :
    AreIndifferent ⟨h, table, performWith []⟩ m m' config config' siblings := by
  intro _ _ f _ _ _
  cases f <;> rfl

/-- A revision does not show along some tokens: no token tells a node from its revision, the
callables tell neither the messages nor the configurations apart, and a permission stage that emits
events of a kind only is the same at the revised node. -/
structure Revision.IsHidden (r : Revision) (E : Engine) (m m' : Message)
    (config config' : GuildConfig) (p : Event → Prop) (tokens : List Value) (siblings : Value) :
    Prop where
  accepts : ∀ token ∈ tokens, ∀ c ∈ nodes siblings,
    (r.command c).accepts token config'.shortcuts = c.accepts token config.shortcuts
  blocks : ∀ c ∈ nodes siblings, ∀ l, (blocks E m l c).Emits p →
    blocks E m' l (r.command c) = blocks E m l c
  indifferent : AreIndifferent E m m' config config' siblings

section Hidden

variable {r : Revision} {E : Engine} {m m' : Message} {config config' : GuildConfig}
  {p : Event → Prop} {token : Value} {rest : List Value} {siblings : Value}

/-- A revision that does not show among siblings does not show below one of them. -/
theorem Revision.IsHidden.below
    (h : r.IsHidden E m m' config config' p (token :: rest) siblings) {c : Command}
    (hc : c ∈ commandsIn siblings) :
    r.IsHidden E m m' config config' p rest c.subcommands where
  accepts t ht d hd :=
    h.accepts t (List.mem_cons_of_mem token ht) d (mem_nodes_below hc (List.mem_cons_of_mem c hd))
  blocks d hd := h.blocks d (mem_nodes_below hc (List.mem_cons_of_mem c hd))
  indifferent d hd := h.indifferent d (mem_nodes_below hc (List.mem_cons_of_mem c hd))

theorem AreIndifferent.call_eq (h : AreIndifferent E m m' config config' siblings) {c : Command}
    (hc : c ∈ nodes siblings) {f : Value} (hf : f = c.guard ∨ f = c.handler) (view : Locale)
    (args : List Value) : E.call m' config' view f args = E.call m config view f args := by
  cases f with
  | callable g =>
    exact congrArg (Run.mapError Error.passedOn) (h c hc g (hf.imp Eq.symm Eq.symm) view args)
  | _ => rfl

theorem Revision.IsHidden.rejects_eq
    (h : r.IsHidden E m m' config config' p (token :: rest) siblings) {c : Command}
    (hc : c ∈ nodes siblings) (view : Locale) :
    rejects E m' config' view (r.command c) = rejects E m config view c := by
  have hguard : (r.command c).guard = c.guard := rfl
  unfold rejects
  rw [hguard, h.indifferent.call_eq hc (.inl rfl)]
  rfl

theorem Revision.IsHidden.execute_eq
    (h : r.IsHidden E m m' config config' p (token :: rest) siblings) {c : Command}
    (hc : c ∈ nodes siblings) (l view : Locale) (tokens : List Value) :
    execute E m' config' l view (r.command c) tokens = execute E m config l view c tokens := by
  have hcall (args : List Value) :
      E.call m' config' view c.handler args = E.call m config view c.handler args :=
    h.indifferent.call_eq hc (.inr rfl) view args
  have hrevised : execute E m' config' l view (r.command c) tokens =
      execute E m' config' l view c tokens := rfl
  rw [hrevised]
  unfold execute
  simp only [hcall]

theorem outcome_rejects_observed (view : Locale) (c : Command) :
    (rejects E.observed m config view c).outcome = (rejects E m config view c).outcome := by
  rw [← replay_rejects E m config view c]
  rfl

/-- A revision that does not show changes no run, as long as the run emits events of the kind
only. -/
theorem Revision.IsHidden.dispatchFrom_eq {tokens : List Value}
    (h : r.IsHidden E m m' config config' p tokens siblings) (l : Locale) (narrows : Bool)
    (hrun : (dispatchFrom E.observed m config tokens siblings l narrows).Emits p) :
    dispatchFrom E m' config' tokens (revised r siblings) l narrows =
      dispatchFrom E m config tokens siblings l narrows := by
  induction tokens generalizing siblings l narrows with
  | nil => rw [dispatchFrom, dispatchFrom]
  | cons token rest ih =>
    have hselect : selectAmong config'.shortcuts token (revised r siblings) =
        (selectAmong config.shortcuts token siblings).map (Option.map r.command) :=
      selectAmong_revised fun c hc =>
        h.accepts token List.mem_cons_self c (mem_nodes_of_mem_commandsIn hc)
    rw [dispatchFrom] at hrun
    rw [dispatchFrom, dispatchFrom, hselect, Run.ofExcept_checked_map_bind]
    refine Run.bind_congr_of_ok fun found hfound => ?_
    replace hrun := hrun.of_bind_right hfound
    cases found with
    | none => rfl
    | some c =>
      have hc : c ∈ commandsIn siblings :=
        mem_commandsIn_of_selectAmong (Value.checked_eq_ok_iff.mp hfound)
      have hmem : c ∈ nodes siblings := mem_nodes_of_mem_commandsIn hc
      dsimp only at hrun ⊢
      -- Matches are logged alike, and the permission stage is the same as far as this run gets.
      refine Run.bind_congr_of_ok fun _ hlogged => ?_
      replace hrun := hrun.of_bind_right hlogged
      rw [h.blocks c hmem l hrun.of_bind_left]
      refine Run.bind_congr_of_ok fun isBlocked hblocks => ?_
      replace hrun := hrun.of_bind_right hblocks
      cases isBlocked with
      | true => rw [if_pos rfl, if_pos rfl]
      | false =>
        simp only [Bool.false_eq_true, if_false] at hrun ⊢
        refine Run.bind_congr_of_ok fun viewed hviewed => ?_
        replace hrun := hrun.of_bind_right hviewed
        obtain ⟨view, narrowed⟩ := viewed
        dsimp only at hrun ⊢
        -- A guard ends alike in the observed run, whose events are those that are known.
        rw [h.rejects_eq hmem]
        refine Run.bind_congr_of_ok fun isRejected hrejects => ?_
        rw [← outcome_rejects_observed] at hrejects
        replace hrun := hrun.of_bind_right hrejects
        cases isRejected with
        | true => rw [if_pos rfl, if_pos rfl]
        | false =>
          simp only [Bool.false_eq_true, if_false] at hrun ⊢
          rw [h.execute_eq hmem, Revision.subcommands_command, isNull_revised]
          by_cases hsub : c.subcommands.isNull = true
          · rw [if_pos hsub, if_pos hsub]
          · rw [if_neg hsub] at hrun
            rw [if_neg hsub, if_neg hsub, ih (h.below hc) view narrowed hrun.of_bind_left]

/-- A revision that does not show changes no dispatch, as long as the dispatch emits events of the
kind only. -/
theorem Revision.IsHidden.dispatch_eq {ts : List Value} (l : Locale)
    (h : r.IsHidden E m m' config config' p ts siblings)
    (hrun : (dispatch E.observed m config l (.list ts) siblings).Emits p) :
    dispatch E m' config' l (.list ts) (revised r siblings) =
      dispatch E m config l (.list ts) siblings := by
  rw [dispatch, tokensOf_list, Run.ofExcept_ok_bind] at hrun
  rw [dispatch, dispatch, tokensOf_list, Run.ofExcept_ok_bind, Run.ofExcept_ok_bind]
  exact h.dispatchFrom_eq l true hrun

/-- Two messages that callables do not tell apart have the same dispatch, if the permission stages
that emit events of a kind only are the same for both and the dispatch emits no other events. -/
theorem AreIndifferent.dispatch_eq (h : AreIndifferent E m m' config config siblings) (l : Locale)
    {ts : List Value}
    (hblocks : ∀ c ∈ nodes siblings, ∀ l, (blocks E m l c).Emits p →
      blocks E m' l c = blocks E m l c)
    (hrun : (dispatch E.observed m config l (.list ts) siblings).Emits p) :
    dispatch E m' config l (.list ts) siblings = dispatch E m config l (.list ts) siblings := by
  have hhidden : Revision.unchanged.IsHidden E m m' config config p ts siblings :=
    { accepts := fun _ _ _ _ => rfl
      blocks := fun c hc l hemits => by
        rw [Revision.command_unchanged]
        exact hblocks c hc l hemits
      indifferent := h }
  have heq := hhidden.dispatch_eq l hrun
  rwa [revised_unchanged] at heq

end Hidden

end ChatCommands
