import ChatCommands.Command.Dispatch
import ChatCommands.Proofs.Value.Kind
import Mathlib.Data.List.Basic

/-!
# Trees of commands

The fields of a command may hold anything, and a tree of commands is a value whose commands hold
what their definitions document, at every depth.  A *forest* goes through commands only; each
command in it has a text for a name and leads on to nothing or to a forest again.  Well-formed
trees, which are what a registry holds, are forests.

## Main definitions

* `commandsIn` : the commands that a value goes through.
* `nodes` : the commands of a value at every depth.
* `IsForest` : what dispatch expects of siblings.

## Main results

* `selectAmong_eq_find?` : among the siblings of a forest, the first that accepts the token is
  selected.
* `IsForest.below` : the subcommands of a command of a forest are a forest.
* `isForest_of_valid` : well-formed trees are a forest.
* `isWellFormed_of_mem_nodes` : every node of a well-formed tree has fields of the right kinds.
-/

namespace ChatCommands

namespace Value

/-- The command that a value is. -/
def command? : Value → Option Command
  | .command c => some c
  | _ => none

theorem eq_command_of_command? {v : Value} {c : Command} (h : v.command? = some c) :
    v = .command c := by
  cases v <;> simp only [command?, reduceCtorEq, Option.some.injEq] at h
  rw [h]

end Value

/-- The commands that a value goes through, in order. -/
def commandsIn (v : Value) : List Command :=
  (v.elements?.getD []).filterMap Value.command?

/-- Whether a value goes through commands only. -/
def holdsCommands (v : Value) : Bool :=
  match v.elements? with
  | some items => items.all fun w => w.command?.isSome
  | none => false

theorem elements?_of_holdsCommands {v : Value} (h : holdsCommands v = true) :
    v.elements? = some ((commandsIn v).map Value.command) := by
  unfold holdsCommands at h
  split at h
  · rename_i items hitems
    have hmap : ∀ items : List Value, items.all (fun w => w.command?.isSome) = true →
        (items.filterMap Value.command?).map Value.command = items := by
      intro items hall
      induction items with
      | nil => rfl
      | cons w rest ih =>
        rw [List.all_cons, Bool.and_eq_true] at hall
        obtain ⟨c, hc⟩ := Option.isSome_iff_exists.mp hall.1
        rw [List.filterMap_cons_some hc, List.map_cons, ih hall.2,
          Value.eq_command_of_command? hc]
    rw [commandsIn, hitems, Option.getD_some, hmap items h]
  · cases h

/-! ### Selection -/

theorem select_map_command (shortcuts : Bool) (token : Value) (cs : List Command) :
    select shortcuts token (cs.map Value.command) =
      .ok (cs.find? fun c => c.accepts token shortcuts) := by
  induction cs with
  | nil => rfl
  | cons c rest ih =>
    rw [List.map_cons, select, ih, List.find?_cons]
    cases c.accepts token shortcuts <;> rfl

/-- Among siblings that are commands, the first one that accepts the token is selected. -/
theorem selectAmong_eq_find? {v : Value} (h : holdsCommands v = true) (shortcuts : Bool)
    (token : Value) :
    selectAmong shortcuts token v =
      .ok ((commandsIn v).find? fun c => c.accepts token shortcuts) := by
  have hitems : v.items = .ok ((commandsIn v).map Value.command) := by
    rw [Value.items, elements?_of_holdsCommands h]
  rw [selectAmong, hitems]
  exact select_map_command shortcuts token _

/-! ### Nodes -/

mutual

/-- The commands of a value at every depth, each in front of those below it. -/
def nodes : Value → List Command
  | .command ⟨serial, name, shortcut, required, channel, guardian, children, definitions, handler⟩ =>
    ⟨serial, name, shortcut, required, channel, guardian, children, definitions, handler⟩ ::
      nodes children
  | .list items => nodesAll items
  | .tuple items => nodesAll items
  | .set _ items => nodesAll items
  | .stream _ items => nodesAll items
  | _ => []

/-- The commands of several values. -/
def nodesAll : List Value → List Command
  | [] => []
  | v :: rest => nodes v ++ nodesAll rest

end

@[simp] theorem nodes_command (c : Command) :
    nodes (.command c) = c :: nodes c.subcommands := by
  cases c
  rw [nodes]

theorem nodesAll_eq (items : List Value) : nodesAll items = items.flatMap nodes := by
  induction items with
  | nil => rw [nodesAll, List.flatMap_nil]
  | cons v rest ih => rw [nodesAll, ih, List.flatMap_cons]

/-- The nodes of a value are those of its elements. -/
theorem nodes_of_elements {v : Value} {items : List Value} (hv : v.elements? = some items) :
    nodes v = items.flatMap nodes := by
  cases v <;> simp only [Value.elements?, Option.some.injEq, reduceCtorEq] at hv <;> subst hv
  case list items => rw [nodes, nodesAll_eq]
  case tuple items => rw [nodes, nodesAll_eq]
  case set isFrozen items => rw [nodes, nodesAll_eq]
  case stream _ items => rw [nodes, nodesAll_eq]
  -- The elements of texts, bytes, maps and the like are no commands.
  all_goals
    simp only [nodes]
    symm
    rw [List.flatMap_eq_nil_iff]
    intro w hw
    obtain ⟨x, -, rfl⟩ := List.mem_map.mp hw
    simp only [nodes]

theorem mem_nodes_below {v : Value} {c d : Command} (hc : c ∈ commandsIn v)
    (hd : d ∈ c :: nodes c.subcommands) : d ∈ nodes v := by
  obtain ⟨w, hw, hwc⟩ := List.mem_filterMap.mp hc
  rw [Value.eq_command_of_command? hwc] at hw
  cases hv : v.elements? with
  | none => rw [hv] at hw; exact absurd hw List.not_mem_nil
  | some items =>
    rw [hv, Option.getD_some] at hw
    rw [nodes_of_elements hv]
    exact List.mem_flatMap.mpr ⟨_, hw, by rwa [nodes_command]⟩

theorem mem_nodes_of_mem_commandsIn {v : Value} {c : Command} (hc : c ∈ commandsIn v) :
    c ∈ nodes v :=
  mem_nodes_below hc List.mem_cons_self

/-! ### Forests -/

/-- A value goes through commands, at every depth; names are texts. -/
structure IsForest (v : Value) : Prop where
  holds : holdsCommands v = true
  named : ∀ c ∈ nodes v, c.name.isText = true
  closed : ∀ c ∈ nodes v, c.subcommands.isNull = true ∨ holdsCommands c.subcommands = true

/-- The subcommands of a command of a forest are a forest. -/
theorem IsForest.below {v : Value} (h : IsForest v) {c : Command} (hc : c ∈ commandsIn v)
    (hsub : c.subcommands.isNull = false) : IsForest c.subcommands where
  holds := by
    rcases h.closed c (mem_nodes_of_mem_commandsIn hc) with hnull | hholds
    · rw [hnull] at hsub
      cases hsub
    · exact hholds
  named d hd := h.named d (mem_nodes_below hc (List.mem_cons_of_mem c hd))
  closed d hd := h.closed d (mem_nodes_below hc (List.mem_cons_of_mem c hd))

/-! ### Well-formed trees -/

/-- A node whose fields are of the right kinds and that leads somewhere. -/
structure IsWellFormed (table : Converters) (c : Command) : Prop where
  name : c.name.isText = true
  required : c.permissions.isNullOr Value.isField = true
  guard : c.guard.isNullOr Value.isCallable = true
  handler : c.handler.isNullOr Value.isCallable = true
  arguments : areValidArguments table c.arguments = true
  subcommands : c.subcommands.isNull = true ∨
    ∃ items, c.subcommands = .tuple items ∧ areValid table items = true

theorem areValid_iff {table : Converters} {items : List Value} :
    areValid table items = true ↔ ∀ v ∈ items, isValid table v = true := by
  induction items with
  | nil => simp [areValid]
  | cons v rest ih => simp [areValid, ih]

theorem exists_command_of_isValid {table : Converters} {v : Value} (h : isValid table v = true) :
    ∃ c, v = .command c ∧ IsWellFormed table c := by
  cases v with
  | command c =>
    obtain ⟨serial, name, shortcut, required, channel, guardian, children, definitions, handler⟩ := c
    refine ⟨_, rfl, ?_⟩
    -- The check of the subcommands depends on their kind.
    cases children <;> simp only [isValid, Bool.and_eq_true, Bool.false_eq_true, and_false] at h
    case null =>
      obtain ⟨⟨⟨⟨⟨⟨⟨hname, -⟩, hrequired⟩, -⟩, hguard⟩, hhandler⟩, harguments⟩, -⟩ := h
      exact ⟨hname, hrequired, hguard, hhandler, harguments, .inl rfl⟩
    case tuple items =>
      obtain ⟨⟨⟨⟨⟨⟨⟨hname, -⟩, hrequired⟩, -⟩, hguard⟩, hhandler⟩, harguments⟩, hitems⟩ := h
      exact ⟨hname, hrequired, hguard, hhandler, harguments, .inr ⟨items, rfl, hitems⟩⟩
  | _ => cases h

mutual

/-- Every node of a well-formed tree is well formed. -/
theorem isWellFormed_of_mem_nodes {table : Converters} : ∀ {v : Value},
    isValid table v = true → ∀ c ∈ nodes v, IsWellFormed table c
  | .command ⟨serial, name, shortcut, required, channel, guardian, children, definitions, handler⟩,
      h, c, hc => by
    obtain ⟨d, hd, hwell⟩ := exists_command_of_isValid h
    cases hd
    rcases List.mem_cons.mp (by rwa [nodes] at hc) with rfl | hc
    · exact hwell
    · cases children with
      | null => exact absurd hc List.not_mem_nil
      | tuple items =>
        rcases hwell.subcommands with hnull | ⟨_, hitems, hvalid⟩
        · cases hnull
        · cases hitems
          exact isWellFormed_of_mem_nodesAll hvalid c (by rwa [nodes] at hc)
      | _ => rcases hwell.subcommands with hnull | ⟨_, hitems, -⟩ <;> contradiction

theorem isWellFormed_of_mem_nodesAll {table : Converters} : ∀ {items : List Value},
    areValid table items = true → ∀ c ∈ nodesAll items, IsWellFormed table c
  | [], _, c, hc => by
    rw [nodesAll] at hc
    exact absurd hc List.not_mem_nil
  | v :: rest, h, c, hc => by
    rw [areValid, Bool.and_eq_true] at h
    rw [nodesAll] at hc
    rcases List.mem_append.mp hc with hc | hc
    · exact isWellFormed_of_mem_nodes h.1 c hc
    · exact isWellFormed_of_mem_nodesAll h.2 c hc

end

/-- Siblings that are well formed each have well-formed nodes only. -/
theorem isWellFormed_of_siblings {table : Converters} {v : Value} {items : List Value}
    (hv : v.elements? = some items) (hvalid : ∀ w ∈ items, isValid table w = true) :
    ∀ c ∈ nodes v, IsWellFormed table c := by
  intro c hc
  rw [nodes_of_elements hv] at hc
  obtain ⟨w, hw, hc⟩ := List.mem_flatMap.mp hc
  exact isWellFormed_of_mem_nodes (hvalid w hw) c hc

theorem holdsCommands_of_valid {table : Converters} {v : Value} {items : List Value}
    (hv : v.elements? = some items) (hvalid : ∀ w ∈ items, isValid table w = true) :
    holdsCommands v = true := by
  rw [holdsCommands, hv]
  refine List.all_eq_true.mpr fun w hw => ?_
  obtain ⟨c, rfl, -⟩ := exists_command_of_isValid (hvalid w hw)
  rfl

/-- Siblings that are well formed each are a forest. -/
theorem isForest_of_valid {table : Converters} {v : Value} {items : List Value}
    (hv : v.elements? = some items) (hvalid : ∀ w ∈ items, isValid table w = true) :
    IsForest v where
  holds := holdsCommands_of_valid hv hvalid
  named c hc := (isWellFormed_of_siblings hv hvalid c hc).name
  closed c hc := by
    rcases (isWellFormed_of_siblings hv hvalid c hc).subcommands with hnull | ⟨below, hsub, hbelow⟩
    · exact .inl hnull
    · have helements : c.subcommands.elements? = some below := by rw [hsub, Value.elements?]
      exact .inr (holdsCommands_of_valid helements (areValid_iff.mp hbelow))

end ChatCommands
