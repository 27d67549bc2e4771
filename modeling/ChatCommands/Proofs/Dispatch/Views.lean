import ChatCommands.Proofs.Dispatch.Mediation

/-!
# The views of a path

A command is handed the view at its own section of the locale data, as long as every command above
it has a section too.  The first command of a path without a section gets the view of its parent,
and so does everything below it, even where the data has a section of that name somewhere else.

## Main definitions

* `Locale.inner`, `Locale.trail` : the view at the section of a name, and of names below another.
* `Locale.isSection`, `Locale.reach` : whether the data has a section at a view, and for how many
  leading names it has.

## Main results

* `view_of_stages` : the view of every stage of a path.
* `callsOf_cases` : guards and handlers are called with the views of their stages.
-/

namespace ChatCommands

namespace Locale

/-- The view at the section of a command, whether or not there is such a section. -/
def inner (l : Locale) (name : String) : Locale :=
  ⟨l.data, l.commandPath name⟩

/-- Whether there is a section at a view: the data holds a map at its path. -/
def isSection (l : Locale) : Bool :=
  match lookup l.path l.data with
  | some (.map _ _) => true
  | _ => false

/-- The views at the sections of some names, each taken below the one before. -/
def trail (l : Locale) : List String → List Locale
  | [] => []
  | name :: rest => l.inner name :: (l.inner name).trail rest

/-- The number of leading names whose sections are all there. -/
def reach (l : Locale) (names : List String) : Nat :=
  ((l.trail names).takeWhile isSection).length

variable {l : Locale} {name : String}

/-- The section of a command is found exactly if the data has it. -/
theorem commandLocale?_eq (l : Locale) (name : String) :
    l.commandLocale? name = if (l.inner name).isSection then some (l.inner name) else none := by
  unfold commandLocale? viewAt? isSection inner
  cases lookup (l.commandPath name) l.data with
  | none => rfl
  | some v => cases v <;> rfl

theorem reach_cons_of_isSection (h : (l.inner name).isSection = true) (rest : List String) :
    l.reach (name :: rest) = (l.inner name).reach rest + 1 := by
  rw [reach, trail, List.takeWhile_cons_of_pos h, List.length_cons, reach]

theorem reach_cons_of_not_isSection (h : ¬ (l.inner name).isSection = true)
    (rest : List String) : l.reach (name :: rest) = 0 := by
  rw [reach, trail, List.takeWhile_cons_of_neg h, List.length_nil]

end Locale

/-! ### The views of stages -/

/-- The names of the commands of a path. -/
def namesOf (path : List Command) : List String :=
  path.filterMap fun c => c.name.text?

theorem map_text_namesOf {path : List Command} (h : ∀ c ∈ path, c.name.isText = true) :
    (namesOf path).map Value.text = path.map fun c => c.name := by
  induction path with
  | nil => rfl
  | cons c path ih =>
    obtain ⟨hc, hpath⟩ := List.forall_mem_cons.mp h
    obtain ⟨name, hname⟩ := Value.eq_text_of_isText hc
    have hcons : namesOf (c :: path) = name :: namesOf path :=
      List.filterMap_cons_some (by rw [hname]; rfl)
    rw [hcons, List.map_cons, List.map_cons, ih hpath, hname]

/-- Where the view may not be narrowed, it stays for the whole path. -/
theorem view_of_mem_stages_false {path : List Command} {tokens : List Value} {l : Locale}
    {s : Stage} (hs : s ∈ stages path tokens l false) : s.view = l := by
  induction path generalizing tokens with
  | nil => cases tokens <;> exact absurd hs List.not_mem_nil
  | cons c path ih =>
    cases tokens with
    | nil => exact absurd hs List.not_mem_nil
    | cons token rest =>
      rw [stages] at hs
      rcases List.mem_cons.mp hs with rfl | hs
      · rfl
      · exact ih hs

/-- The view of a stage is at its own section as far as the sections reach, and at the last
section that was reached below that. -/
theorem view_of_stages {path : List Command} (hnamed : ∀ c ∈ path, c.name.isText = true)
    (tokens : List Value) (l : Locale) {i : Nat} {s : Stage}
    (hs : (stages path tokens l true)[i]? = some s) :
    (i < l.reach (namesOf path) → (l.trail (namesOf path))[i]? = some s.view) ∧
    (l.reach (namesOf path) ≤ i →
      (l :: l.trail (namesOf path))[l.reach (namesOf path)]? = some s.view) := by
  induction path generalizing tokens l i with
  | nil => cases tokens <;> cases hs
  | cons c path ih =>
    cases tokens with
    | nil => cases hs
    | cons token rest =>
      obtain ⟨hc, hpath⟩ := List.forall_mem_cons.mp hnamed
      obtain ⟨name, hname⟩ := Value.eq_text_of_isText hc
      have hnames : namesOf (c :: path) = name :: namesOf path :=
        List.filterMap_cons_some (by rw [hname]; rfl)
      have hown : ownView? l true c =
          if (l.inner name).isSection then some (l.inner name) else none := by
        unfold ownView?
        rw [hname, ← l.commandLocale?_eq name]
      rw [stages, hown] at hs
      rw [hnames]
      by_cases hsection : (l.inner name).isSection = true
      · rw [if_pos hsection] at hs
        rw [Locale.reach_cons_of_isSection hsection, Locale.trail]
        cases i with
        | zero =>
          cases hs
          exact ⟨fun _ => rfl, fun h => absurd h (Nat.not_succ_le_zero _)⟩
        | succ i =>
          obtain ⟨hown, hkept⟩ := ih hpath rest (l.inner name) hs
          exact ⟨fun h => hown (Nat.lt_of_succ_lt_succ h),
            fun h => hkept (Nat.le_of_succ_le_succ h)⟩
      · rw [if_neg hsection] at hs
        rw [Locale.reach_cons_of_not_isSection hsection]
        have hview : s.view = l := by
          cases i with
          | zero =>
            cases hs
            rfl
          | succ i => exact view_of_mem_stages_false (List.mem_of_getElem? hs)
        rw [hview]
        exact ⟨fun h => absurd h (Nat.not_lt_zero i), fun _ => rfl⟩

/-! ### The views of calls -/

section Calls

variable {E : Engine} {m : Message} {config : GuildConfig} {l : Locale} {ts : List Value}
  {siblings : Value}

/-- A dispatch calls guards of its path from the root on, and after all of them possibly the
handler of the last stage; each gets the view of its stage. -/
theorem callsOf_cases (hforest : IsForest siblings) :
    callsOf E m config l (.list ts) siblings <+:
        (planned config ts siblings l).flatMap Stage.guardCalls ∨
      ∃ s handler args, (planned config ts siblings l).getLast? = some s ∧
        s.command.handler = .callable handler ∧
        callsOf E m config l (.list ts) siblings =
          (planned config ts siblings l).flatMap Stage.guardCalls ++ [⟨handler, s.view, args⟩] := by
  by_cases hauth : ∃ s handler args, IsAuthorised E m config (planned config ts siblings l)
      (leftover config ts siblings) s handler args
  · obtain ⟨s, handler, args, hauth⟩ := hauth
    exact .inr ⟨s, handler, args, hauth.last, hauth.handler, callsOf_of_isAuthorised hforest hauth⟩
  · exact .inl (callsOf_isPrefix hforest fun s handler args h => hauth ⟨s, handler, args, h⟩)

theorem view_of_mem_guardCalls {s : Stage} {call : Call} (h : call ∈ s.guardCalls) :
    call.view = s.view := by
  rw [Stage.guardCalls] at h
  rcases eq_callable_or_callsFor_eq_nil s.command.guard with ⟨c, hc⟩ | hnil
  · rw [hc, callsFor] at h
    rw [List.mem_singleton.mp h]
  · rw [hnil] at h
    exact absurd h List.not_mem_nil

/-- Whatever a dispatch calls gets the view of a stage. -/
theorem exists_view_of_mem_callsOf (hforest : IsForest siblings) {call : Call}
    (h : call ∈ callsOf E m config l (.list ts) siblings) :
    ∃ s ∈ planned config ts siblings l, call.view = s.view := by
  have hguards (hmem : call ∈ (planned config ts siblings l).flatMap Stage.guardCalls) :
      ∃ s ∈ planned config ts siblings l, call.view = s.view := by
    obtain ⟨s, hs, hcall⟩ := List.mem_flatMap.mp hmem
    exact ⟨s, hs, view_of_mem_guardCalls hcall⟩
  rcases callsOf_cases hforest with hfront | ⟨s, handler, args, hlast, -, hcalls⟩
  · exact hguards (hfront.subset h)
  · rw [hcalls] at h
    rcases List.mem_append.mp h with h | h
    · exact hguards h
    · rw [List.mem_singleton.mp h]
      exact ⟨s, List.mem_of_getLast? hlast, rfl⟩

end Calls

/-- A dispatch hands down views section by section.  Take the sections of the committed commands
one below another from the given view on: as far as the data has all of them, the view of a
command is at its own section, and from the first one that is missing on it is at the last one
that is there, or the given view itself.  The dispatch calls the guards of the path from the root
on, and after them at most the handler at its end, each with the view of its command. -/
theorem dispatch_hands_views (E : Engine) (m : Message) (config : GuildConfig) (l : Locale)
    (ts : List Value) {siblings : Value} (hforest : IsForest siblings) :
    let path := committed config.shortcuts ts siblings
    let names := namesOf path
    (planned config ts siblings l).map Stage.command = path ∧
    (path.map fun c => c.name) = names.map Value.text ∧
    (∀ i s, (planned config ts siblings l)[i]? = some s →
      (i < l.reach names → (l.trail names)[i]? = some s.view) ∧
      (l.reach names ≤ i → (l :: l.trail names)[l.reach names]? = some s.view)) ∧
    (dispatch E.observed m config l (.list ts) siblings).replay E m config =
      dispatch E m config l (.list ts) siblings ∧
    (callsOf E m config l (.list ts) siblings <+:
        (planned config ts siblings l).flatMap Stage.guardCalls ∨
      ∃ s handler args, (planned config ts siblings l).getLast? = some s ∧
        s.command.handler = .callable handler ∧
        callsOf E m config l (.list ts) siblings =
          (planned config ts siblings l).flatMap Stage.guardCalls ++
            [⟨handler, s.view, args⟩]) := by
  have hnamed : ∀ c ∈ committed config.shortcuts ts siblings, c.name.isText = true :=
    fun c hc => hforest.named c (mem_nodes_of_mem_committed hc)
  exact ⟨map_command_route ts siblings l true, (map_text_namesOf hnamed).symm,
    fun i s hs => view_of_stages hnamed ts l hs, replay_dispatch E m config l _ siblings,
    callsOf_cases hforest⟩

/-- Texts with a section for the command `kick` of the root, but none for the group `mod`. -/
def misplaced : Locale :=
  ⟨.map false [("commands", .map false [("kick", .map false [])])], []⟩

/-- The message `mod k ann` hands the given view to the guard of the group and to the command
below it, although the data has a section of its name. -/
theorem dispatch_hands_views_moderation :
    IsForest (.list [.command moderation]) ∧ (misplaced.inner "kick").isSection = true ∧
    ∀ call ∈ callsOf scripted moderator ⟨true, none, "en"⟩ misplaced
      (.list [.text "mod", .text "k", .text "ann"]) (.list [.command moderation]),
      call.view = misplaced := by
  refine ⟨isForest_moderation, by decide, fun call hcall => ?_⟩
  obtain ⟨-, -, hviews, -, -⟩ := dispatch_hands_views scripted moderator ⟨true, none, "en"⟩
    misplaced [.text "mod", .text "k", .text "ann"] isForest_moderation
  obtain ⟨s, hs, hview⟩ := exists_view_of_mem_callsOf isForest_moderation hcall
  obtain ⟨i, hi⟩ := List.getElem?_of_mem hs
  have hreach : misplaced.reach (namesOf (committed true [.text "mod", .text "k", .text "ann"]
      (.list [.command moderation]))) = 0 := by
    rw [committed_moderation]
    decide
  obtain ⟨-, hkept⟩ := hviews i s hi
  rw [hreach] at hkept
  rw [hview]
  exact (Option.some.inj (hkept (Nat.zero_le i))).symm

end ChatCommands
