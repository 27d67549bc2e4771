import ChatCommands.Proofs.Dispatch.Mediation

/-!
# Commitment to the first match

At every level dispatch looks at its siblings only until the first one that accepts the token, and
it never comes back to that level.  So a tree may be *pruned* along the tokens: of the roots, and
of the subcommands of every command of the path, the first match is all that is kept.  More
generally two trees run alike when they make the *same choices*, whatever stands behind a match
and whatever does not match in front of it.

## Main definitions

* `Selects`, `SelectsNone` : the first sibling that accepts a token; no sibling accepts it.
* `pruned` : the siblings without everything that is not committed to.
* `SameChoices` : two trees that agree on the commands that tokens lead through.

## Main results

* `selectAmong_eq_some_iff`, `selectAmong_eq_none_iff` : selection is the search for a first match.
* `sameChoices_pruned` : pruning changes no choice.
* `SameChoices.dispatchFrom_eq` : trees that make the same choices run alike.
-/

namespace ChatCommands

/-! ### First matches -/

/-- A command is the first among siblings that accepts a token.  What stands in front of it are
commands that do not; what stands behind it may be anything. -/
def Selects (shortcuts : Bool) (token siblings : Value) (c : Command) : Prop :=
  ∃ (front : List Command) (back : List Value),
    siblings.elements? = some (front.map Value.command ++ .command c :: back) ∧
    (∀ d ∈ front, d.accepts token shortcuts = false) ∧ c.accepts token shortcuts = true

/-- The siblings are commands of which none accepts a token. -/
def SelectsNone (shortcuts : Bool) (token siblings : Value) : Prop :=
  ∃ front : List Command, siblings.elements? = some (front.map Value.command) ∧
    ∀ d ∈ front, d.accepts token shortcuts = false

section Selection

variable {shortcuts : Bool} {token : Value}

theorem Selects.accepts {siblings : Value} {c : Command} (h : Selects shortcuts token siblings c) :
    c.accepts token shortcuts = true := by
  obtain ⟨_, _, _, _, hc⟩ := h
  exact hc

/-- Commands that do not accept a token are passed over. -/
theorem select_append {front : List Command}
    (hfront : ∀ d ∈ front, d.accepts token shortcuts = false)
    (items : List Value) :
    select shortcuts token (front.map Value.command ++ items) = select shortcuts token items := by
  induction front with
  | nil => rfl
  | cons d front ih =>
    obtain ⟨hd, hfront⟩ := List.forall_mem_cons.mp hfront
    rw [List.map_cons, List.cons_append, select, if_neg (by rw [hd]; exact Bool.false_ne_true),
      ih hfront]

theorem select_cons_of_accepts {c : Command} (hc : c.accepts token shortcuts = true)
    (items : List Value) : select shortcuts token (.command c :: items) = .ok (some c) := by
  rw [select, if_pos hc]

/-- What a selection that does not fail has passed over, and where it has stopped. -/
theorem exists_front_of_select {items : List Value} {found : Option Command}
    (h : select shortcuts token items = .ok found) :
    ∃ front : List Command, (∀ d ∈ front, d.accepts token shortcuts = false) ∧
      match found with
      | none => items = front.map Value.command
      | some c => c.accepts token shortcuts = true ∧
          ∃ back, items = front.map Value.command ++ .command c :: back := by
  induction items with
  | nil =>
    cases h
    exact ⟨[], nofun, rfl⟩
  | cons v rest ih =>
    cases v with
    | command d =>
      by_cases hd : d.accepts token shortcuts = true
      · rw [select_cons_of_accepts hd] at h
        cases h
        exact ⟨[], nofun, hd, rest, rfl⟩
      · rw [select, if_neg hd] at h
        obtain ⟨front, hfront, hfound⟩ := ih h
        refine ⟨d :: front, List.forall_mem_cons.mpr ⟨Bool.eq_false_iff.mpr hd, hfront⟩, ?_⟩
        cases found with
        | none => exact congrArg (Value.command d :: ·) hfound
        | some c =>
          obtain ⟨hc, back, hback⟩ := hfound
          exact ⟨hc, back, congrArg (Value.command d :: ·) hback⟩
    | _ => cases h

theorem exists_elements_of_selectAmong {siblings : Value} {found : Option Command}
    (h : selectAmong shortcuts token siblings = .ok found) :
    ∃ items, siblings.elements? = some items ∧ select shortcuts token items = .ok found := by
  unfold selectAmong Value.items at h
  cases hitems : siblings.elements? with
  | none => rw [hitems] at h; cases h
  | some items => rw [hitems] at h; exact ⟨items, rfl, h⟩

theorem selectAmong_of_elements {siblings : Value} {items : List Value}
    (h : siblings.elements? = some items) :
    selectAmong shortcuts token siblings = select shortcuts token items := by
  unfold selectAmong Value.items
  rw [h]
  rfl

/-- A token selects the first of the siblings that accepts it. -/
theorem selectAmong_eq_some_iff {siblings : Value} {c : Command} :
    selectAmong shortcuts token siblings = .ok (some c) ↔ Selects shortcuts token siblings c := by
  constructor
  · intro h
    obtain ⟨items, hitems, hselect⟩ := exists_elements_of_selectAmong h
    obtain ⟨front, hfront, hfound⟩ := exists_front_of_select hselect
    obtain ⟨hc, back, hback⟩ := hfound
    exact ⟨front, back, hback ▸ hitems, hfront, hc⟩
  · rintro ⟨front, back, hitems, hfront, hc⟩
    rw [selectAmong_of_elements hitems, select_append hfront, select_cons_of_accepts hc]

/-- A token selects nothing where no sibling accepts it. -/
theorem selectAmong_eq_none_iff {siblings : Value} :
    selectAmong shortcuts token siblings = .ok none ↔ SelectsNone shortcuts token siblings := by
  constructor
  · intro h
    obtain ⟨items, hitems, hselect⟩ := exists_elements_of_selectAmong h
    obtain ⟨front, hfront, hfound⟩ := exists_front_of_select hselect
    exact ⟨front, hfound ▸ hitems, hfront⟩
  · rintro ⟨front, hitems, hfront⟩
    have hselect := select_append hfront []
    rw [List.append_nil] at hselect
    rw [selectAmong_of_elements hitems, hselect, select]

end Selection

/-! ### Pruning -/

/-- A command with other subcommands. -/
def withSubcommands (c : Command) (below : Value) : Command :=
  { c with subcommands := below }

/-- The siblings without everything that the tokens do not commit to: at every level the first
match is kept, and nothing where no sibling matches.  A command without subcommands stays
without.  Siblings among which no choice can be made are left as they are. -/
def pruned (shortcuts : Bool) : List Value → Value → Value
  | [], _ => .tuple []
  | token :: rest, siblings =>
    match selectAmong shortcuts token siblings with
    | .error _ => siblings
    | .ok none => .tuple []
    | .ok (some c) =>
      .tuple [.command (withSubcommands c
        (if c.subcommands.isNull then .null else pruned shortcuts rest c.subcommands))]

/-- Two trees make the same choices along tokens: as long as tokens and matches last, the first
matches are commands that differ in their subcommands only.  Nothing is asked of the other
siblings, but that those in front of a match do not match. -/
inductive SameChoices (shortcuts : Bool) : List Value → Value → Value → Prop
  | refl (ts : List Value) (v : Value) : SameChoices shortcuts ts v v
  | exhausted (v w : Value) : SameChoices shortcuts [] v w
  | unmatched {token : Value} {rest : List Value} {v w : Value}
      (hv : SelectsNone shortcuts token v) (hw : SelectsNone shortcuts token w) :
      SameChoices shortcuts (token :: rest) v w
  | matched {token : Value} {rest : List Value} {v w below : Value} {c : Command}
      (hv : Selects shortcuts token v c)
      (hw : Selects shortcuts token w (withSubcommands c below))
      (hnull : below.isNull = c.subcommands.isNull)
      (hbelow : SameChoices shortcuts rest c.subcommands below) :
      SameChoices shortcuts (token :: rest) v w

section Pruning

variable {shortcuts : Bool}

theorem isNull_pruned {v : Value} (ts : List Value) (h : v.isNull = false) :
    (pruned shortcuts ts v).isNull = false := by
  cases ts with
  | nil => rfl
  | cons token rest =>
    rw [pruned]
    split
    · exact h
    · rfl
    · rfl

/-- Pruning changes no choice. -/
theorem sameChoices_pruned (ts : List Value) (v : Value) :
    SameChoices shortcuts ts v (pruned shortcuts ts v) := by
  induction ts generalizing v with
  | nil => exact .exhausted v _
  | cons token rest ih =>
    rw [pruned]
    split
    · exact .refl _ v
    · rename_i hnone
      exact .unmatched (selectAmong_eq_none_iff.mp hnone) ⟨[], rfl, nofun⟩
    · rename_i c hsome
      have hselects := selectAmong_eq_some_iff.mp hsome
      have hkept (below : Value) :
          Selects shortcuts token (.tuple [.command (withSubcommands c below)])
            (withSubcommands c below) :=
        ⟨[], [], rfl, nofun, hselects.accepts⟩
      refine .matched hselects (hkept _) ?_ ?_
      · split
        · rename_i hnull
          exact hnull.symm
        · rename_i hnull
          rw [isNull_pruned rest (Bool.eq_false_iff.mpr hnull), Bool.eq_false_iff.mpr hnull]
      · split
        · rename_i hnull
          rw [Value.eq_null_of_isNull hnull]
          exact .refl rest .null
        · exact ih c.subcommands

/-- Among siblings that are commands, pruning keeps the first that accepts the token. -/
theorem pruned_of_holdsCommands {v : Value} (h : holdsCommands v = true) (token : Value)
    (rest : List Value) :
    pruned shortcuts (token :: rest) v =
      .tuple (((commandsIn v).find? fun c => c.accepts token shortcuts).toList.map fun c =>
        .command (withSubcommands c
          (if c.subcommands.isNull then .null else pruned shortcuts rest c.subcommands))) := by
  rw [pruned, selectAmong_eq_find? h]
  cases (commandsIn v).find? fun c => c.accepts token shortcuts <;> rfl

end Pruning

/-! ### Runs along the same choices -/

/-- Trees that make the same choices run alike. -/
theorem SameChoices.dispatchFrom_eq {config : GuildConfig} {ts : List Value} {v w : Value}
    (h : SameChoices config.shortcuts ts v w) (E : Engine) (m : Message) (l : Locale)
    (narrows : Bool) :
    dispatchFrom E m config ts w l narrows = dispatchFrom E m config ts v l narrows := by
  induction h generalizing l narrows with
  | refl => rfl
  | exhausted => rfl
  | unmatched hv hw =>
    rw [dispatchFrom, dispatchFrom, selectAmong_eq_none_iff.mpr hv, selectAmong_eq_none_iff.mpr hw]
  | @matched token rest v w below c hv hw hnull hbelow ih =>
    rw [dispatchFrom, dispatchFrom, selectAmong_eq_some_iff.mpr hv, selectAmong_eq_some_iff.mpr hw]
    -- The two commands differ in their subcommands, so that every other step is the same.
    have hsub : (withSubcommands c below).subcommands = below := rfl
    simp only [Run.ofExcept_checked_ok, pure_bind, hsub, hnull, ih]
    rfl

/-- Dispatch commits to first matches and never goes back.  Pruning the tree, which keeps the first
match of every level and nothing where there is none, changes neither how a dispatch ends nor any
of its events; and the same holds of every other change that leaves the committed commands in
place: of the siblings behind a match, and of siblings that do not match. -/
theorem dispatch_commits (E : Engine) (m : Message) (config : GuildConfig) (l : Locale)
    (ts : List Value) (siblings : Value) :
    (∀ token rest v, holdsCommands v = true →
      pruned config.shortcuts (token :: rest) v =
        .tuple (((commandsIn v).find? fun c => c.accepts token config.shortcuts).toList.map fun c =>
          .command (withSubcommands c
            (if c.subcommands.isNull then .null
              else pruned config.shortcuts rest c.subcommands)))) ∧
    dispatch E m config l (.list ts) (pruned config.shortcuts ts siblings) =
      dispatch E m config l (.list ts) siblings ∧
    ∀ others, SameChoices config.shortcuts ts siblings others →
      dispatch E m config l (.list ts) others = dispatch E m config l (.list ts) siblings := by
  have hsame (others : Value) (h : SameChoices config.shortcuts ts siblings others) :
      dispatch E m config l (.list ts) others = dispatch E m config l (.list ts) siblings := by
    rw [dispatch, dispatch, tokensOf_list, Run.ofExcept_ok_bind, Run.ofExcept_ok_bind]
    exact h.dispatchFrom_eq E m l true
  exact ⟨fun token rest v h => pruned_of_holdsCommands h token rest,
    hsame _ (sameChoices_pruned ts siblings), hsame⟩

/-- The moderation tree with siblings that do not matter to `mod k ann`: a command that does not
match in front of the group, and a second group and no command at all behind it. -/
def crowded : Value :=
  .list [.command kick,
    .command (withSubcommands moderation (.list [.command kick, .command moderation])),
    .command moderation, .int 5]

/-- The message `mod k ann` runs alike in both trees. -/
theorem dispatch_commits_moderation :
    SameChoices true [.text "mod", .text "k", .text "ann"] (.list [.command moderation]) crowded ∧
    dispatch scripted moderator ⟨true, none, "en"⟩ silent
        (.list [.text "mod", .text "k", .text "ann"]) crowded =
      dispatch scripted moderator ⟨true, none, "en"⟩ silent
        (.list [.text "mod", .text "k", .text "ann"]) (.list [.command moderation]) := by
  have hsame : SameChoices true [.text "mod", .text "k", .text "ann"] (.list [.command moderation])
      crowded := by
    refine .matched (c := moderation) ⟨[], [], rfl, nofun, by cbv⟩
      ⟨[kick], [.command moderation, .int 5], rfl, ?_, by cbv⟩ rfl ?_
    · intro d hd
      rw [List.mem_singleton.mp hd]
      cbv
    · exact .matched (c := kick) ⟨[], [], rfl, nofun, by cbv⟩
        ⟨[], [.command moderation], rfl, nofun, by cbv⟩ rfl (.refl _ _)
  exact ⟨hsame, (dispatch_commits scripted moderator ⟨true, none, "en"⟩ silent _ _).2.2 _ hsame⟩

end ChatCommands
