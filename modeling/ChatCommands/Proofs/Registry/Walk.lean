import ChatCommands.Proofs.Dispatch.Tree
import ChatCommands.Registry.Roots

/-!
# The walk below the commands of a module

The subcommands of the commands of a module are gone through with a stack before any of them is
checked.  The walk notes the serial number of a command when it puts it on the stack, so a command
that is reached again is not gone through again.  As long as a serial number stands for one command
only, nothing is missed: the walk ends with the serial numbers of all commands below, unless it
meets a command whose subcommands it cannot go through.

## Main definitions

* `IsWalkable` : a command whose subcommands can be gone through.
* `IsIdentified` : commands of which no two share a serial number.
* `IsExpanded` : a command whose subcommands the walk has reached.
* `IsUnderway` : what holds before each step of the walk.
* `nodesOf` : the commands of some commands at every depth.

## Main results

* `exists_of_belowFrom_error` : a failing walk has met a command that is not walkable.
* `IsUnderway.pushed` : a step keeps the walk underway.
* `exists_below_of_mem_belowFrom` : what the walk notes is below the stack.
* `isExpanded_of_belowFrom` : a walk that ends has gone through everything it reached.
* `below_eq_ok_iff` : the walk ends exactly when all commands are walkable.
* `mem_below_iff` : the serial numbers it ends with.
-/

namespace ChatCommands

/-! ### Nodes below nodes -/

mutual

/-- The nodes of a node are among the nodes, in order. -/
theorem nodes_sublist {c : Command} : ∀ {v : Value}, c ∈ nodes v →
    (nodes (.command c)).Sublist (nodes v)
  | .command ⟨serial, name, shortcut, required, channel, guardian, children, definitions, handler⟩,
      h => by
    rw [nodes] at h ⊢
    rcases List.mem_cons.mp h with rfl | h
    · rw [nodes]
    · exact (nodes_sublist h).cons _
  | .list items, h => by
    rw [nodes] at h ⊢
    exact nodesAll_sublist h
  | .tuple items, h => by
    rw [nodes] at h ⊢
    exact nodesAll_sublist h
  | .set _ items, h => by
    rw [nodes] at h ⊢
    exact nodesAll_sublist h
  | .stream _ items, h => by
    rw [nodes] at h ⊢
    exact nodesAll_sublist h
  | .null, h | .unset, h | .bool _, h | .int _, h | .float _, h | .text _, h | .bytes _, h
  | .map _ _, h | .permissions _, h | .code _, h | .holder _, h | .styled _, h | .callable _, h
  | .argument _, h => by
    simp only [nodes, List.not_mem_nil] at h

theorem nodesAll_sublist {c : Command} : ∀ {items : List Value}, c ∈ nodesAll items →
    (nodes (.command c)).Sublist (nodesAll items)
  | [], h => by
    rw [nodesAll] at h
    exact absurd h List.not_mem_nil
  | v :: rest, h => by
    rw [nodesAll] at h ⊢
    rcases List.mem_append.mp h with h | h
    · exact (nodes_sublist h).trans (List.sublist_append_left ..)
    · exact (nodesAll_sublist h).trans (List.sublist_append_right ..)

end

theorem mem_nodes_self (c : Command) : c ∈ nodes (.command c) := by
  rw [nodes_command]
  exact List.mem_cons_self

theorem mem_nodes_command_of_mem {c d : Command} (h : d ∈ nodes c.subcommands) :
    d ∈ nodes (.command c) := by
  rw [nodes_command]
  exact List.mem_cons_of_mem c h

theorem mem_nodes_trans {c d : Command} {v : Value} (hc : c ∈ nodes v)
    (hd : d ∈ nodes (.command c)) : d ∈ nodes v :=
  (nodes_sublist hc).subset hd

/-- What is below a command has fewer nodes. -/
theorem length_nodes_lt {c d : Command} (h : d ∈ nodes c.subcommands) :
    (nodes (.command d)).length < (nodes (.command c)).length := by
  rw [nodes_command c, List.length_cons]
  exact Nat.lt_succ_of_le (nodes_sublist h).length_le

theorem nodes_of_not_isTruthy {v : Value} (h : v.isTruthy = false) : nodes v = [] := by
  cases v with
  | list items | tuple items | set _ items =>
    cases items with
    | nil => rw [nodes, nodesAll]
    | cons w rest => cases h
  | stream | command => cases h
  | _ => simp only [nodes]

/-! ### Walkable commands -/

/-- The subcommands of a command can be gone through: they are false, or commands and nothing
else. -/
def IsWalkable (c : Command) : Prop :=
  c.subcommands.isTruthy = false ∨ holdsCommands c.subcommands = true

section Children

variable {c : Command} {items : List Value}

/-- Going through the subcommands of a command gives its next nodes, which are commands and nothing
else exactly when it is walkable; it fails only when it is not. -/
theorem children_cases (c : Command) :
    (∃ items, children c = .ok items ∧ nodes c.subcommands = items.flatMap nodes ∧
        (IsWalkable c ↔ ∀ v ∈ items, ∃ d, v = .command d)) ∨
      ∃ m, children c = .error m ∧ ¬ IsWalkable c := by
  unfold children IsWalkable
  cases htruthy : c.subcommands.isTruthy with
  | false => exact .inl ⟨[], rfl, nodes_of_not_isTruthy htruthy, fun _ => nofun, fun _ => .inl rfl⟩
  | true =>
    rw [if_pos rfl, Value.items]
    cases helements : c.subcommands.elements? with
    | none => exact .inr ⟨_, rfl, by simp [holdsCommands, helements]⟩
    | some items =>
      refine .inl ⟨items, rfl, nodes_of_elements helements, ?_⟩
      have hiff (v : Value) : v.command?.isSome = true ↔ ∃ d, v = .command d := by
        cases v <;> simp [Value.command?]
      simp [holdsCommands, helements, hiff]

theorem nodes_of_children (h : children c = .ok items) :
    nodes c.subcommands = items.flatMap nodes := by
  rcases children_cases c with ⟨_, hitems, hnodes, -⟩ | ⟨_, herror, -⟩
  · rw [h] at hitems
    cases hitems
    exact hnodes
  · rw [h] at herror
    cases herror

theorem isWalkable_iff_of_children (h : children c = .ok items) :
    IsWalkable c ↔ ∀ v ∈ items, ∃ d, v = .command d := by
  rcases children_cases c with ⟨_, hitems, -, hiff⟩ | ⟨_, herror, -⟩
  · rw [h] at hitems
    cases hitems
    exact hiff
  · rw [h] at herror
    cases herror

theorem not_isWalkable_of_children {m : Misuse} (h : children c = .error m) : ¬ IsWalkable c := by
  rcases children_cases c with ⟨_, hitems, -⟩ | ⟨_, -, hnot⟩
  · rw [h] at hitems
    cases hitems
  · exact hnot

theorem mem_nodes_of_children (h : children c = .ok items) {v : Value} (hv : v ∈ items)
    {d : Command} (hd : d ∈ nodes v) : d ∈ nodes c.subcommands := by
  rw [nodes_of_children h]
  exact List.mem_flatMap.mpr ⟨v, hv, hd⟩

end Children

/-! ### Putting subcommands on the stack -/

section Push

variable (items : List Value) (seen : List Nat) (stack : List Value)

theorem exists_serial_cons (c : Command) (n : Nat) :
    (∃ d : Command, Value.command d ∈ Value.command c :: items ∧ d.serial = n) ↔
      n = c.serial ∨ ∃ d : Command, Value.command d ∈ items ∧ d.serial = n := by
  constructor
  · rintro ⟨d, hd, rfl⟩
    rcases List.mem_cons.mp hd with heq | hd
    · cases heq
      exact .inl rfl
    · exact .inr ⟨d, hd, rfl⟩
  · rintro (rfl | ⟨d, hd, rfl⟩)
    · exact ⟨c, List.mem_cons_self, rfl⟩
    · exact ⟨d, List.mem_cons_of_mem _ hd, rfl⟩

/-- What is seen afterwards. -/
theorem mem_seen_pushChildren (n : Nat) :
    n ∈ (pushChildren seen stack items).1 ↔
      n ∈ seen ∨ ∃ d : Command, Value.command d ∈ items ∧ d.serial = n := by
  induction items generalizing seen stack with
  | nil => simp [pushChildren]
  | cons v rest ih =>
    cases v with
    | command c =>
      rw [exists_serial_cons]
      unfold pushChildren
      split
      · rename_i hseen
        rw [ih, ← or_assoc]
        refine or_congr_left ⟨.inl, fun h => h.elim id ?_⟩
        rintro rfl
        exact List.contains_iff_mem.mp hseen
      · rw [ih, List.mem_cons, ← or_assoc]
        exact or_congr_left or_comm
    | _ => simp [pushChildren, ih]

/-- The stack keeps what is on it. -/
theorem subset_stack_pushChildren : stack ⊆ (pushChildren seen stack items).2 := by
  induction items generalizing seen stack with
  | nil => exact fun _ h => h
  | cons v rest ih =>
    cases v with
    | command c =>
      unfold pushChildren
      split
      · exact ih _ _
      · exact fun _ h => ih _ _ (List.mem_cons_of_mem _ h)
    | _ => exact fun _ h => ih _ _ (List.mem_cons_of_mem _ h)

theorem mem_of_mem_stack_pushChildren {v : Value} (h : v ∈ (pushChildren seen stack items).2) :
    v ∈ stack ∨ v ∈ items := by
  induction items generalizing seen stack with
  | nil => exact .inl h
  | cons w rest ih =>
    have hpushed {seen : List Nat} (h : v ∈ (pushChildren seen (w :: stack) rest).2) :
        v ∈ stack ∨ v ∈ w :: rest := by
      rcases ih _ _ h with h | h
      · exact (List.mem_cons.mp h).elim (fun h => .inr (h ▸ List.mem_cons_self)) .inl
      · exact .inr (List.mem_cons_of_mem w h)
    cases w with
    | command c =>
      unfold pushChildren at h
      split at h
      · exact (ih _ _ h).imp_right (List.mem_cons_of_mem _)
      · exact hpushed h
    | _ => exact hpushed h

/-- What is not a command is put on the stack. -/
theorem mem_stack_pushChildren_of_not_command {v : Value} (hv : v ∈ items)
    (hnone : ∀ d, v ≠ .command d) : v ∈ (pushChildren seen stack items).2 := by
  induction items generalizing seen stack with
  | nil => exact absurd hv List.not_mem_nil
  | cons w rest ih =>
    rcases List.mem_cons.mp hv with rfl | hlater
    · cases v with
      | command c => exact absurd rfl (hnone c)
      | _ => exact subset_stack_pushChildren rest _ _ List.mem_cons_self
    · cases w with
      | command c =>
        unfold pushChildren
        split
        · exact ih _ _ hlater
        · exact ih _ _ hlater
      | _ => exact ih _ _ hlater

/-- A command that was not seen is put on the stack, or another one with its serial number. -/
theorem exists_mem_stack_pushChildren {c : Command} (hc : Value.command c ∈ items)
    (hunseen : c.serial ∉ seen) :
    ∃ d : Command, Value.command d ∈ items ∧ d.serial = c.serial ∧
      Value.command d ∈ (pushChildren seen stack items).2 := by
  induction items generalizing seen stack with
  | nil => exact absurd hc List.not_mem_nil
  | cons w rest ih =>
    have hlater {seen stack} (hc : Value.command c ∈ rest) (hunseen : c.serial ∉ seen) :
        ∃ d : Command, Value.command d ∈ w :: rest ∧ d.serial = c.serial ∧
          Value.command d ∈ (pushChildren seen stack rest).2 := by
      obtain ⟨d, hd, hserial, hstack⟩ := ih seen stack hc hunseen
      exact ⟨d, List.mem_cons_of_mem _ hd, hserial, hstack⟩
    cases w with
    | command e =>
      unfold pushChildren
      split
      · rename_i hseen
        rcases List.mem_cons.mp hc with heq | hc
        · cases heq
          exact absurd (List.contains_iff_mem.mp hseen) hunseen
        · exact hlater hc hunseen
      · by_cases hserial : e.serial = c.serial
        · exact ⟨e, List.mem_cons_self, hserial,
            subset_stack_pushChildren rest _ _ List.mem_cons_self⟩
        · rcases List.mem_cons.mp hc with heq | hc
          · cases heq
            exact absurd rfl hserial
          · exact hlater hc fun h => (List.mem_cons.mp h).elim (fun h => hserial h.symm) hunseen
    | _ =>
      rcases List.mem_cons.mp hc with heq | hc
      · cases heq
      · exact hlater hc hunseen

end Push

/-! ### The walk -/

/-- A failing walk has met something that is not a command, or a command that is not walkable. -/
theorem exists_of_belowFrom_error (seen : List Nat) (stack : List Value) {m : Misuse}
    (h : belowFrom seen stack = .error m) :
    ∃ v ∈ stack, (∀ d, v ≠ .command d) ∨ ∃ d ∈ nodes v, ¬ IsWalkable d := by
  fun_induction belowFrom seen stack with
  | case1 => cases h
  | case2 seen c rest e hchildren =>
    exact ⟨.command c, List.mem_cons_self,
      .inr ⟨c, mem_nodes_self c, not_isWalkable_of_children hchildren⟩⟩
  | case3 seen c rest items hchildren ih =>
    obtain ⟨v, hv, hbad⟩ := ih h
    rcases mem_of_mem_stack_pushChildren items seen rest hv with hv | hv
    · exact ⟨v, List.mem_cons_of_mem _ hv, hbad⟩
    · refine ⟨.command c, List.mem_cons_self, .inr ?_⟩
      rcases hbad with hnone | ⟨d, hd, hnot⟩
      · refine ⟨c, mem_nodes_self c, fun hwalkable => ?_⟩
        obtain ⟨d, hd⟩ := (isWalkable_iff_of_children hchildren).mp hwalkable v hv
        exact hnone d hd
      · exact ⟨d, mem_nodes_command_of_mem (mem_nodes_of_children hchildren hv hd), hnot⟩
  | case4 seen v rest hnone =>
    exact ⟨v, List.mem_cons_self, .inl hnone⟩

/-- What a walk can fail with: something that has no subcommands, or subcommands that cannot be gone
through. -/
def Misuse.IsAboutWalking (m : Misuse) : Prop :=
  ∃ type, m = .noAttribute type "subcommands" ∨ m = .notIterable type

theorem isAboutWalking_of_belowFrom_error (seen : List Nat) (stack : List Value) {m : Misuse}
    (h : belowFrom seen stack = .error m) : m.IsAboutWalking := by
  fun_induction belowFrom seen stack with
  | case1 => cases h
  | case2 seen c rest e hchildren =>
    cases h
    unfold children Value.items at hchildren
    split at hchildren
    · split at hchildren
      · cases hchildren
      · cases hchildren
        exact ⟨_, .inr rfl⟩
    · cases hchildren
  | case3 seen c rest items hchildren ih => exact ih h
  | case4 seen v rest hnone =>
    cases h
    exact ⟨_, .inl rfl⟩

/-- Whatever the walk notes is below a command on the stack. -/
theorem exists_below_of_mem_belowFrom (seen : List Nat) (stack : List Value) {serials : List Nat}
    (h : belowFrom seen stack = .ok serials) {n : Nat} (hn : n ∈ serials) :
    n ∈ seen ∨ ∃ c : Command, .command c ∈ stack ∧ ∃ d ∈ nodes c.subcommands, d.serial = n := by
  fun_induction belowFrom seen stack with
  | case1 =>
    cases h
    exact .inl hn
  | case2 => cases h
  | case3 seen c rest items hchildren ih =>
    rcases ih h with hseen | ⟨e, he, d, hd, rfl⟩
    · rcases (mem_seen_pushChildren items seen rest n).mp hseen with hseen | ⟨d, hd, rfl⟩
      · exact .inl hseen
      · exact .inr ⟨c, List.mem_cons_self, d,
          mem_nodes_of_children hchildren hd (mem_nodes_self d), rfl⟩
    · rcases mem_of_mem_stack_pushChildren items seen rest he with he | he
      · exact .inr ⟨e, List.mem_cons_of_mem _ he, d, hd, rfl⟩
      · exact .inr ⟨c, List.mem_cons_self, d,
          mem_nodes_of_children hchildren he (mem_nodes_command_of_mem hd), rfl⟩
  | case4 => cases h

/-- Commands of which no two share a serial number. -/
def IsIdentified (cs : List Command) : Prop :=
  ∀ c ∈ cs, ∀ d ∈ cs, c.serial = d.serial → c = d

/-- The walk has reached the subcommands of a command: those that are commands have been seen, and
the rest is on the stack. -/
def IsExpanded (seen : List Nat) (stack : List Value) (c : Command) : Prop :=
  ∃ items, children c = .ok items ∧
    ∀ v ∈ items, (∃ d, v = .command d ∧ d.serial ∈ seen) ∨ (∀ d, v ≠ .command d) ∧ v ∈ stack

/-- Every command that the walk started from or has seen is on the stack or has been expanded. -/
def IsUnderway (all starts : List Command) (seen : List Nat) (stack : List Value) : Prop :=
  ∀ c ∈ all, c ∈ starts ∨ c.serial ∈ seen → .command c ∈ stack ∨ IsExpanded seen stack c

section Step

variable {all starts : List Command} {seen : List Nat} {rest items : List Value} {c : Command}

theorem isExpanded_pushChildren (hchildren : children c = .ok items) :
    IsExpanded (pushChildren seen rest items).1 (pushChildren seen rest items).2 c := by
  refine ⟨items, hchildren, fun v hv => ?_⟩
  by_cases hcommand : ∃ d, v = .command d
  · obtain ⟨d, rfl⟩ := hcommand
    exact .inl ⟨d, rfl, (mem_seen_pushChildren items seen rest _).mpr (.inr ⟨d, hv, rfl⟩)⟩
  · have hnone : ∀ d, v ≠ .command d := fun d hd => hcommand ⟨d, hd⟩
    exact .inr ⟨hnone, mem_stack_pushChildren_of_not_command items seen rest hv hnone⟩

/-- A command stays expanded when another one is taken off the stack. -/
theorem IsExpanded.pushed {d : Command} (h : IsExpanded seen (.command c :: rest) d) :
    IsExpanded (pushChildren seen rest items).1 (pushChildren seen rest items).2 d := by
  obtain ⟨below, hbelow, hreached⟩ := h
  refine ⟨below, hbelow, fun v hv => (hreached v hv).imp ?_ ?_⟩
  · rintro ⟨e, rfl, he⟩
    exact ⟨e, rfl, (mem_seen_pushChildren items seen rest _).mpr (.inl he)⟩
  · rintro ⟨hnone, hstack⟩
    rcases List.mem_cons.mp hstack with rfl | hstack
    · exact absurd rfl (hnone c)
    · exact ⟨hnone, subset_stack_pushChildren items seen rest hstack⟩

/-- A command that is on the stack or expanded stays so. -/
theorem mem_stack_or_isExpanded_pushChildren (hchildren : children c = .ok items) {d : Command}
    (h : .command d ∈ Value.command c :: rest ∨ IsExpanded seen (.command c :: rest) d) :
    .command d ∈ (pushChildren seen rest items).2 ∨
      IsExpanded (pushChildren seen rest items).1 (pushChildren seen rest items).2 d := by
  rcases h with h | h
  · rcases List.mem_cons.mp h with heq | h
    · cases heq
      exact .inr (isExpanded_pushChildren hchildren)
    · exact .inl (subset_stack_pushChildren items seen rest h)
  · exact .inr h.pushed

/-- Taking a command off the stack and putting its subcommands on it keeps the walk underway. -/
theorem IsUnderway.pushed (hall : IsIdentified all)
    (hitems : ∀ d : Command, .command d ∈ items → d ∈ all) (hchildren : children c = .ok items)
    (h : IsUnderway all starts seen (.command c :: rest)) :
    IsUnderway all starts (pushChildren seen rest items).1 (pushChildren seen rest items).2 := by
  intro d hd hreached
  by_cases hold : d ∈ starts ∨ d.serial ∈ seen
  · exact mem_stack_or_isExpanded_pushChildren hchildren (h d hd hold)
  · -- Its number is new, so a command of this number is on the stack, which is this one.
    rw [not_or] at hold
    have hnew := (mem_seen_pushChildren items seen rest _).mp (hreached.resolve_left hold.1)
    obtain ⟨e, he, heserial⟩ := hnew.resolve_left hold.2
    obtain ⟨f, hf, hfserial, hstack⟩ :=
      exists_mem_stack_pushChildren items seen rest he (heserial ▸ hold.2)
    rw [← hall f (hitems f hf) d hd (hfserial.trans heserial)]
    exact .inl hstack

end Step

/-- A walk that ends has expanded every command that it started from or has noted. -/
theorem isExpanded_of_belowFrom {all : List Command} (starts : List Command)
    (hall : IsIdentified all) (hclosed : ∀ c ∈ all, ∀ d ∈ nodes c.subcommands, d ∈ all)
    (seen : List Nat) (stack : List Value) (hstack : ∀ c : Command, .command c ∈ stack → c ∈ all)
    {serials : List Nat} (h : belowFrom seen stack = .ok serials)
    (hunderway : IsUnderway all starts seen stack) :
    ∀ c ∈ all, c ∈ starts ∨ c.serial ∈ serials → IsExpanded serials [] c := by
  fun_induction belowFrom seen stack with
  | case1 =>
    cases h
    exact fun c hc hreached => (hunderway c hc hreached).resolve_left List.not_mem_nil
  | case2 => cases h
  | case3 seen c rest items hchildren ih =>
    have hitems (d : Command) (hd : .command d ∈ items) : d ∈ all :=
      hclosed c (hstack c List.mem_cons_self) d
        (mem_nodes_of_children hchildren hd (mem_nodes_self d))
    refine ih (fun d hd => ?_) h (hunderway.pushed hall hitems hchildren)
    rcases mem_of_mem_stack_pushChildren items seen rest hd with hd | hd
    · exact hstack d (List.mem_cons_of_mem _ hd)
    · exact hitems d hd
  | case4 => cases h

/-! ### What is below some commands -/

section Below

variable {cs : List Command} {serials : List Nat}

/-- The commands at every depth of some commands. -/
def nodesOf (cs : List Command) : List Command :=
  cs.flatMap fun c => nodes (.command c)

theorem mem_nodesOf {d : Command} : d ∈ nodesOf cs ↔ ∃ c ∈ cs, d ∈ nodes (.command c) :=
  List.mem_flatMap

theorem mem_nodesOf_of_mem {c : Command} (h : c ∈ cs) : c ∈ nodesOf cs :=
  mem_nodesOf.mpr ⟨c, h, mem_nodes_self c⟩

theorem mem_nodesOf_below {c d : Command} (hc : c ∈ nodesOf cs) (hd : d ∈ nodes c.subcommands) :
    d ∈ nodesOf cs := by
  obtain ⟨e, he, hce⟩ := mem_nodesOf.mp hc
  exact mem_nodesOf.mpr ⟨e, he, mem_nodes_trans hce (mem_nodes_command_of_mem hd)⟩

/-- After a walk everything below the commands has been noted, and is walkable. -/
theorem isWalkable_of_below (hcs : IsIdentified (nodesOf cs)) (h : below cs = .ok serials)
    {c : Command} (hc : c ∈ nodesOf cs) (hreached : c ∈ cs ∨ c.serial ∈ serials) :
    IsWalkable c ∧ ∀ d ∈ nodes c.subcommands, d.serial ∈ serials ∧ IsWalkable d := by
  have hexpanded := isExpanded_of_belowFrom cs hcs (fun c hc d => mem_nodesOf_below hc)
    [] _ (fun d hd => mem_nodesOf_of_mem (by simpa using hd)) h
    (fun d hd hstart => .inl (by simpa using hstart))
  -- A command below has fewer nodes, and the walk has noted it.
  induction hsize : (nodes (.command c)).length using Nat.strongRecOn generalizing c with
  | ind size ih =>
    obtain ⟨items, hchildren, hitems⟩ := hexpanded c hc hreached
    have hcommands : ∀ v ∈ items, ∃ d, v = .command d ∧ d.serial ∈ serials := fun v hv =>
      (hitems v hv).resolve_right fun hstack => List.not_mem_nil hstack.2
    refine ⟨(isWalkable_iff_of_children hchildren).mpr fun v hv => ?_, fun d hd => ?_⟩
    · obtain ⟨d, rfl, -⟩ := hcommands v hv
      exact ⟨d, rfl⟩
    · obtain ⟨v, hv, hdv⟩ := List.mem_flatMap.mp (nodes_of_children hchildren ▸ hd)
      obtain ⟨e, rfl, hserial⟩ := hcommands v hv
      have he : e ∈ nodes c.subcommands := mem_nodes_of_children hchildren hv (mem_nodes_self e)
      obtain ⟨hwalkable, hbelow⟩ := ih _ (hsize ▸ length_nodes_lt he) (mem_nodesOf_below hc he)
        (.inr hserial) rfl
      rcases List.mem_cons.mp (nodes_command e ▸ hdv) with rfl | hdv
      · exact ⟨hserial, hwalkable⟩
      · exact hbelow d hdv

/-- The walk ends exactly when all commands are walkable, at every depth. -/
theorem below_eq_ok_iff (hcs : IsIdentified (nodesOf cs)) :
    (∃ serials, below cs = .ok serials) ↔ ∀ c ∈ nodesOf cs, IsWalkable c := by
  constructor
  · rintro ⟨serials, h⟩ d hd
    obtain ⟨c, hc, hdc⟩ := mem_nodesOf.mp hd
    obtain ⟨hwalkable, hbelow⟩ := isWalkable_of_below hcs h (mem_nodesOf_of_mem hc) (.inl hc)
    rcases List.mem_cons.mp (nodes_command c ▸ hdc) with rfl | hdc
    · exact hwalkable
    · exact (hbelow d hdc).2
  · intro hall
    cases h : below cs with
    | ok serials => exact ⟨serials, rfl⟩
    | error m =>
      obtain ⟨v, hv, hbad⟩ := exists_of_belowFrom_error _ _ h
      obtain ⟨c, hc, rfl⟩ := List.mem_map.mp (List.mem_reverse.mp hv)
      rcases hbad with hnone | ⟨d, hd, hnot⟩
      · exact absurd rfl (hnone c)
      · exact absurd (hall d (mem_nodesOf.mpr ⟨c, hc, hd⟩)) hnot

/-- A walk ends with the serial numbers of the commands below. -/
theorem mem_below_iff (hcs : IsIdentified (nodesOf cs)) (h : below cs = .ok serials) (n : Nat) :
    n ∈ serials ↔ ∃ c ∈ cs, ∃ d ∈ nodes c.subcommands, d.serial = n := by
  constructor
  · intro hn
    rcases exists_below_of_mem_belowFrom _ _ h hn with hseen | ⟨c, hc, hd⟩
    · exact absurd hseen List.not_mem_nil
    · exact ⟨c, by simpa using hc, hd⟩
  · rintro ⟨c, hc, d, hd, rfl⟩
    exact ((isWalkable_of_below hcs h (mem_nodesOf_of_mem hc) (.inl hc)).2 d hd).1

end Below

end ChatCommands
