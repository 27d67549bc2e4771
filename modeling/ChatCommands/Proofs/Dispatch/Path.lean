import ChatCommands.Proofs.Dispatch.Tree
import ChatCommands.Proofs.Run.Events

/-!
# The committed path

Which commands a dispatch goes through is decided by the tokens alone: the first sibling that
accepts a token is committed to, and its subcommands are tried with the next token.  Permissions
and guards only decide how far along this path a dispatch gets.  A dispatch thus goes down its
path stage by stage, ends without running a handler at the first stage that does not admit it,
and otherwise executes the command at the end of the path.

## Main definitions

* `committed` : the commands that tokens lead through.
* `Stage`, `route` : the committed commands with the views that they are handed.
* `Stage.admits`, `descend` : going down a path.

## Main results

* `dispatchFrom_eq_descend` : among the siblings of a forest, dispatch goes down the route of the
  tokens and executes its last command.
* `dispatch_eq_descend` : the same for a whole dispatch.
-/

namespace ChatCommands

/-! ### The path and its views -/

/-- The commands that tokens lead through: the first sibling that accepts the first token, then
the first of its subcommands that accepts the second, and so on. -/
def committed (shortcuts : Bool) : List Value → Value → List Command
  | [], _ => []
  | token :: rest, siblings =>
    match (commandsIn siblings).find? fun c => c.accepts token shortcuts with
    | none => []
    | some c => c :: committed shortcuts rest c.subcommands

/-- A committed command, with the token that selected it, the view of its level, and the view
that its guard and its handler get. -/
structure Stage where
  command : Command
  token : Value
  outer : Locale
  view : Locale

/-- The own section of a command, where the view of its level may be narrowed. -/
def ownView? (l : Locale) (narrows : Bool) (c : Command) : Option Locale :=
  match narrows, c.name with
  | true, .text s => l.commandLocale? s
  | _, _ => none

/-- The commands of a path with their views: below a command without a section the view stays. -/
def stages : List Command → List Value → Locale → Bool → List Stage
  | c :: path, token :: rest, l, narrows =>
    ⟨c, token, l, (ownView? l narrows c).getD l⟩ ::
      stages path rest ((ownView? l narrows c).getD l) (ownView? l narrows c).isSome
  | _, _, _, _ => []

/-- The stages that tokens lead through. -/
def route (shortcuts : Bool) (tokens : List Value) (siblings : Value) (l : Locale)
    (narrows : Bool) : List Stage :=
  stages (committed shortcuts tokens siblings) tokens l narrows

theorem viewFor_eq_ownView? {c : Command} (hname : c.name.isText = true) (l : Locale)
    (narrows : Bool) :
    viewFor l narrows c = .ok ((ownView? l narrows c).getD l, (ownView? l narrows c).isSome) := by
  obtain ⟨s, hs⟩ := Value.eq_text_of_isText hname
  unfold viewFor ownView?
  cases narrows with
  | false => rfl
  | true =>
    simp only [hs, Locale.sectionOf?, if_true]
    cases l.commandLocale? s <;> rfl

/-! ### Paths stay within the siblings -/

section Path

variable {shortcuts : Bool}

theorem committed_length_le (tokens : List Value) (siblings : Value) :
    (committed shortcuts tokens siblings).length ≤ tokens.length := by
  induction tokens generalizing siblings with
  | nil => exact Nat.le_refl 0
  | cons token rest ih =>
    rw [committed]
    split
    · exact Nat.zero_le _
    · exact Nat.succ_le_succ (ih _)

theorem mem_nodes_of_mem_committed {tokens : List Value} {siblings : Value} {c : Command}
    (hc : c ∈ committed shortcuts tokens siblings) : c ∈ nodes siblings := by
  induction tokens generalizing siblings with
  | nil => exact absurd hc List.not_mem_nil
  | cons token rest ih =>
    rw [committed] at hc
    split at hc
    · exact absurd hc List.not_mem_nil
    · rename_i d hd
      have hmem : d ∈ commandsIn siblings := List.mem_of_find?_eq_some hd
      rcases List.mem_cons.mp hc with rfl | hc
      · exact mem_nodes_of_mem_commandsIn hmem
      · exact mem_nodes_below hmem (List.mem_cons_of_mem d (ih hc))

theorem committed_of_isNull {v : Value} (h : v.isNull = true) (tokens : List Value) :
    committed shortcuts tokens v = [] := by
  rw [Value.eq_null_of_isNull h]
  cases tokens <;> rfl

theorem map_command_stages (path : List Command) (tokens : List Value) (l : Locale)
    (narrows : Bool) (h : path.length ≤ tokens.length) :
    (stages path tokens l narrows).map Stage.command = path := by
  induction path generalizing tokens l narrows with
  | nil => rfl
  | cons c path ih =>
    cases tokens with
    | nil => exact absurd h (Nat.not_succ_le_zero _)
    | cons token rest => rw [stages, List.map_cons, ih _ _ _ (Nat.le_of_succ_le_succ h)]

/-- The commands of a route are the committed ones. -/
theorem map_command_route (tokens : List Value) (siblings : Value) (l : Locale) (narrows : Bool) :
    (route shortcuts tokens siblings l narrows).map Stage.command =
      committed shortcuts tokens siblings :=
  map_command_stages _ _ _ _ (committed_length_le tokens siblings)

theorem command_mem_nodes_of_mem_route {tokens : List Value} {siblings : Value} {l : Locale}
    {narrows : Bool} {s : Stage} (hs : s ∈ route shortcuts tokens siblings l narrows) :
    s.command ∈ nodes siblings := by
  have hmem : s.command ∈ (route shortcuts tokens siblings l narrows).map Stage.command :=
    List.mem_map_of_mem hs
  rw [map_command_route] at hmem
  exact mem_nodes_of_mem_committed hmem

/-- The views of a route are views of one locale. -/
theorem data_ownView (l : Locale) (narrows : Bool) (c : Command) :
    ((ownView? l narrows c).getD l).data = l.data := by
  cases hview : ownView? l narrows c with
  | none => rfl
  | some view =>
    unfold ownView? at hview
    split at hview
    · unfold Locale.commandLocale? Locale.viewAt? at hview
      split at hview
      · cases hview
        rfl
      · cases hview
    · cases hview

theorem data_of_mem_stages {path : List Command} {tokens : List Value} {l : Locale}
    {narrows : Bool} {s : Stage} (hs : s ∈ stages path tokens l narrows) :
    s.outer.data = l.data := by
  induction path generalizing tokens l narrows with
  | nil => cases tokens <;> exact absurd hs List.not_mem_nil
  | cons c path ih =>
    cases tokens with
    | nil => exact absurd hs List.not_mem_nil
    | cons token rest =>
      rw [stages] at hs
      rcases List.mem_cons.mp hs with rfl | hs
      · rfl
      · exact (ih hs).trans (data_ownView l narrows c)

end Path

/-! ### Going down a path -/

section Descent

variable (E : Engine) (m : Message) (config : GuildConfig)

/-- Whether the permissions and the guard of a stage let a message through. -/
def Stage.admits (s : Stage) : Run Bool := do
  logMatch s.command s.token
  if ← blocks E m s.outer s.command then return false
  if ← rejects E m config s.view s.command then return false
  return true

/-- Goes down a path, and at its end does what is given. -/
def descend (final : Run Unit) : List Stage → Run Unit
  | [] => final
  | s :: later => do
    if ← s.admits E m config then descend final later
    else return ()

/-- What is executed at the end of a route: its last command, on the tokens that are left. -/
def Stage.finish (s : Stage) (rest : List Value) : Run Unit :=
  execute E m config s.outer s.view s.command rest

theorem descend_admits (final : Run Unit) (s : Stage) (later : List Stage) :
    (descend E m config final (s :: later) >>= fun _ => pure true) = (do
      logMatch s.command s.token
      if ← blocks E m s.outer s.command then return true
      if ← rejects E m config s.view s.command then return true
      descend E m config final later >>= fun _ => pure true) := by
  simp only [descend, Stage.admits, bind_assoc]
  refine bind_congr fun _ => bind_congr fun isBlocked => ?_
  cases isBlocked with
  | true => rfl
  | false =>
    simp only [Bool.false_eq_true, if_false, bind_assoc]
    refine bind_congr fun isRejected => ?_
    cases isRejected <;> rfl

/-- Among the siblings of a forest, dispatch goes down the route of the tokens and executes its
last command on the tokens that are left. -/
theorem dispatchFrom_eq_descend (tokens : List Value) {siblings : Value}
    (hforest : IsForest siblings) (l : Locale) (narrows : Bool) :
    dispatchFrom E m config tokens siblings l narrows =
      match (route config.shortcuts tokens siblings l narrows).getLast? with
      | none => pure false
      | some s =>
        descend E m config
            (s.finish E m config (tokens.drop (committed config.shortcuts tokens siblings).length))
            (route config.shortcuts tokens siblings l narrows) >>=
          fun _ => pure true := by
  induction tokens generalizing siblings l narrows with
  | nil => rfl
  | cons token rest ih =>
    have hselect := selectAmong_eq_find? hforest.holds config.shortcuts token
    rw [dispatchFrom, hselect, route, committed]
    cases hc : (commandsIn siblings).find? fun c => c.accepts token config.shortcuts with
    | none => rfl
    | some c =>
      have hmem : c ∈ commandsIn siblings := List.mem_of_find?_eq_some hc
      have hname := hforest.named c (mem_nodes_of_mem_commandsIn hmem)
      simp only [stages, List.getLast?_cons, List.length_cons, List.drop_succ_cons,
        descend_admits, viewFor_eq_ownView? hname, Run.ofExcept_checked_ok, pure_bind]
      refine bind_congr fun _ => bind_congr fun isBlocked => ?_
      split
      · rfl
      · refine bind_congr fun isRejected => ?_
        split
        · rfl
        · by_cases hsub : c.subcommands.isNull = true
          · rw [if_pos hsub, committed_of_isNull hsub]
            rfl
          · rw [if_neg hsub, ih (hforest.below hmem (Bool.eq_false_iff.mpr hsub)), ← route]
            cases hlast : (route config.shortcuts rest c.subcommands _ _).getLast? with
            | none =>
              -- No subcommand takes over: the path ends here.
              have hroute := List.getLast?_eq_none_iff.mp hlast
              have hpath : committed config.shortcuts rest c.subcommands = [] := by
                rw [← map_command_route rest c.subcommands, hroute, List.map_nil]
              rw [hroute, hpath]
              rfl
            | some s =>
              simp only [bind_assoc, pure_bind, if_true, Option.getD_some]

theorem tokensOf_list (ts : List Value) : tokensOf (.list ts) = .ok ts := by
  cases ts <;> rfl

/-- The stages that the tokens of a message lead through. -/
def planned (config : GuildConfig) (ts : List Value) (siblings : Value) (l : Locale) : List Stage :=
  route config.shortcuts ts siblings l true

/-- The tokens that are left at the end of the path. -/
def leftover (config : GuildConfig) (ts : List Value) (siblings : Value) : List Value :=
  ts.drop (committed config.shortcuts ts siblings).length

/-- Dispatch goes down the planned stages and executes the last command of them on the tokens
that are left over; without a stage it does nothing. -/
theorem dispatch_eq_descend (l : Locale) (ts : List Value)
    {siblings : Value} (hforest : IsForest siblings) :
    dispatch E m config l (.list ts) siblings =
      match (planned config ts siblings l).getLast? with
      | none => pure false
      | some s =>
        descend E m config (s.finish E m config (leftover config ts siblings))
            (planned config ts siblings l) >>=
          fun _ => pure true := by
  rw [dispatch, tokensOf_list, Run.ofExcept_ok_bind]
  exact dispatchFrom_eq_descend E m config ts hforest l true

end Descent

end ChatCommands
