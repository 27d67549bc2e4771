import ChatCommands.Proofs.Registry.Selection
import Mathlib.Logic.Relation

/-!
# Which commands of a module are its roots

When the subcommands of all commands of a module are absent or tuples of commands, the walk takes
one pass for each command of the module and one for each command below them, however often a command
is shared.  What it leaves are the commands that are below no command of the module, in the order in
which they are first bound.

## Main definitions

* `IsChildOf`, `IsBelow` : a command among the subcommands of another, and at any depth below it.
* `IsPlain` : a command whose subcommands are absent or a tuple of commands.
* `Walks` : the passes of the walk.
* `firstBinding` : the place of the first variable that holds a command.

## Main results

* `isBelow_iff_mem_nodes` : among plain commands, what is below a command are its nodes.
* `walks_of_belowFrom` : the number of passes of a walk that ends.
* `pairwise_foundCommands` : the commands of a module in the order of their first binding.
* `rootsOf_selects` : the roots of a module.
-/

namespace ChatCommands

/-! ### Commands below commands -/

/-- A command is among the subcommands of another. -/
def IsChildOf (d c : Command) : Prop :=
  ∃ items, c.subcommands = .tuple items ∧ .command d ∈ items

/-- A command is below another, at any depth. -/
def IsBelow : Command → Command → Prop :=
  Relation.TransGen IsChildOf

/-- The subcommands of a command are absent, or a tuple of commands. -/
def IsPlain (c : Command) : Prop :=
  c.subcommands = .null ∨ ∃ ds : List Command, c.subcommands = .tuple (ds.map .command)

section Below

variable {c d : Command}

theorem IsChildOf.mem_nodes (h : IsChildOf d c) : d ∈ nodes c.subcommands := by
  obtain ⟨items, hitems, hd⟩ := h
  rw [hitems, nodes, nodesAll_eq]
  exact List.mem_flatMap.mpr ⟨.command d, hd, mem_nodes_self d⟩

theorem IsBelow.mem_nodes (h : IsBelow d c) : d ∈ nodes c.subcommands := by
  induction h with
  | single h => exact h.mem_nodes
  | tail _ h ih => exact mem_nodes_trans h.mem_nodes (mem_nodes_command_of_mem ih)

theorem IsPlain.isWalkable (h : IsPlain c) : IsWalkable c := by
  rcases h with h | ⟨ds, h⟩
  · exact .inl (by rw [h]; rfl)
  · exact .inr (by simp [h, holdsCommands, Value.elements?, Value.command?])

/-- Among plain commands, what is below a command are its nodes. -/
theorem isBelow_iff_mem_nodes (hplain : ∀ e ∈ nodes (.command c), IsPlain e) :
    IsBelow d c ↔ d ∈ nodes c.subcommands := by
  refine ⟨IsBelow.mem_nodes, fun hd => ?_⟩
  -- A subcommand has fewer nodes, and they are nodes of the command.
  induction hsize : (nodes (.command c)).length using Nat.strongRecOn generalizing c with
  | ind size ih =>
    rcases hplain c (mem_nodes_self c) with hnull | ⟨ds, hds⟩
    · simp only [hnull, nodes, List.not_mem_nil] at hd
    · rw [hds, nodes, nodesAll_eq] at hd
      obtain ⟨v, hv, hdv⟩ := List.mem_flatMap.mp hd
      obtain ⟨e, he, rfl⟩ := List.mem_map.mp hv
      have hchild : IsChildOf e c := ⟨_, hds, hv⟩
      rw [nodes_command] at hdv
      rcases List.mem_cons.mp hdv with rfl | hdv
      · exact .single hchild
      · have hsub : ∀ f ∈ nodes (.command e), IsPlain f := fun f hf =>
          hplain f (mem_nodes_command_of_mem (mem_nodes_trans hchild.mem_nodes hf))
        exact (ih _ (hsize ▸ length_nodes_lt hchild.mem_nodes) hsub hdv rfl).tail hchild

end Below

/-! ### The passes of the walk -/

/-- The walk gets from one state to another in some passes.  A state is what has been seen with the
stack; a pass takes a command off the stack and puts those of its subcommands on it that have not
been seen. -/
inductive Walks : Nat → List Nat × List Value → List Nat × List Value → Prop
  | stay (state : List Nat × List Value) : Walks 0 state state
  | pass {count : Nat} {seen : List Nat} {c : Command} {rest items : List Value}
      {state : List Nat × List Value} (hchildren : children c = .ok items)
      (hrest : Walks count (pushChildren seen rest items) state) :
      Walks (count + 1) (seen, .command c :: rest) state

section Passes

variable {seen : List Nat} {stack items : List Value}

/-- As many commands are put on the stack as are noted. -/
theorem length_pushChildren (hitems : ∀ v ∈ items, ∃ d, v = .command d) (seen : List Nat)
    (stack : List Value) :
    (pushChildren seen stack items).2.length + seen.length =
      stack.length + (pushChildren seen stack items).1.length := by
  induction items generalizing seen stack with
  | nil => rfl
  | cons v rest ih =>
    obtain ⟨⟨d, rfl⟩, hrest⟩ := List.forall_mem_cons.mp hitems
    unfold pushChildren
    split
    · exact ih hrest seen stack
    · have hpushed := ih hrest (d.serial :: seen) (.command d :: stack)
      simp only [List.length_cons] at hpushed
      omega

theorem nodup_pushChildren (h : seen.Nodup) : (pushChildren seen stack items).1.Nodup := by
  induction items generalizing seen stack with
  | nil => exact h
  | cons v rest ih =>
    cases v with
    | command c =>
      unfold pushChildren
      split
      · exact ih h
      · rename_i hunseen
        exact ih (List.nodup_cons.mpr ⟨fun hmem => hunseen (List.contains_iff_mem.mpr hmem), h⟩)
    | _ => exact ih h

/-- A walk that ends has met nothing but commands. -/
theorem exists_command_of_belowFrom {serials : List Nat} (h : belowFrom seen stack = .ok serials) :
    ∀ v ∈ stack, ∃ d, v = .command d := by
  fun_induction belowFrom seen stack with
  | case1 => exact fun v hv => absurd hv List.not_mem_nil
  | case2 => cases h
  | case3 seen c rest items hchildren ih =>
    intro v hv
    rcases List.mem_cons.mp hv with rfl | hv
    · exact ⟨c, rfl⟩
    · exact ih h v (subset_stack_pushChildren items seen rest hv)
  | case4 => cases h

/-- A walk that ends takes one pass for each item of the stack and one for each command that it
notes. -/
theorem walks_of_belowFrom {serials : List Nat} (h : belowFrom seen stack = .ok serials) :
    ∃ count, Walks count (seen, stack) (serials, []) ∧
      count + seen.length = stack.length + serials.length := by
  fun_induction belowFrom seen stack with
  | case1 seen =>
    cases h
    exact ⟨0, .stay _, rfl⟩
  | case2 => cases h
  | case3 seen c rest items hchildren ih =>
    obtain ⟨count, hwalks, hcount⟩ := ih h
    refine ⟨count + 1, .pass hchildren hwalks, ?_⟩
    have hcommands : ∀ v ∈ items, ∃ d, v = .command d := by
      intro v hv
      by_contra hnone
      rw [not_exists] at hnone
      obtain ⟨d, hd⟩ := exists_command_of_belowFrom h v
        (mem_stack_pushChildren_of_not_command items seen rest hv hnone)
      exact hnone d hd
    have hpushed := length_pushChildren hcommands seen rest
    rw [List.length_cons]
    omega
  | case4 => cases h

theorem nodup_belowFrom {serials : List Nat} (h : belowFrom seen stack = .ok serials)
    (hseen : seen.Nodup) : serials.Nodup := by
  fun_induction belowFrom seen stack with
  | case1 =>
    cases h
    exact hseen
  | case2 => cases h
  | case3 seen c rest items hchildren ih => exact ih h (nodup_pushChildren hseen)
  | case4 => cases h

/-- The whole walk of a module. -/
theorem walks_of_below {commands : List Command} {nested : List Nat}
    (h : below commands = .ok nested) :
    Walks (commands.length + nested.length) ([], (commands.map Value.command).reverse)
      (nested, []) := by
  obtain ⟨count, hwalks, hcount⟩ := walks_of_belowFrom h
  rw [List.length_nil, List.length_reverse, List.length_map] at hcount
  exact hcount ▸ hwalks

end Passes

/-! ### The order of the commands -/

/-- The place of the first value that is a command. -/
def firstBinding (values : List Value) (c : Command) : Nat :=
  values.findIdx fun v => v.command?.any fun d => d.serial = c.serial

section Order

variable {values : List Value} {c : Command}

theorem firstBinding_lt_length_iff :
    firstBinding values c < values.length ↔ ∃ d ∈ boundCommands values, d.serial = c.serial := by
  rw [firstBinding, List.findIdx_lt_length]
  constructor
  · rintro ⟨v, hv, hserial⟩
    obtain ⟨d, hd, hserial⟩ := (Option.any_eq_true ..).mp hserial
    exact ⟨d, List.mem_filterMap.mpr ⟨v, hv, hd⟩, of_decide_eq_true hserial⟩
  · rintro ⟨d, hd, hserial⟩
    exact ⟨.command d, mem_boundCommands.mp hd, decide_eq_true hserial⟩

theorem firstBinding_append (more : List Value) (h : firstBinding values c < values.length) :
    firstBinding (values ++ more) c = firstBinding values c := by
  rw [firstBinding, List.findIdx_append]
  exact if_pos h

theorem length_le_firstBinding_append (more : List Value)
    (h : ¬ firstBinding values c < values.length) :
    values.length ≤ firstBinding (values ++ more) c := by
  rw [firstBinding, List.findIdx_append]
  exact (Nat.le_add_left _ _).trans_eq (if_neg h).symm

/-- The commands of a module are in the order of their first binding. -/
theorem pairwise_foundCommands (values : List Value) :
    (foundCommands values).Pairwise fun c d => firstBinding values c < firstBinding values d := by
  induction values using List.reverseRecOn with
  | nil => exact .nil
  | append_singleton values v ih =>
    have hbound {c : Command} (hc : c ∈ foundCommands values) :
        firstBinding values c < values.length :=
      firstBinding_lt_length_iff.mpr ⟨c, mem_boundCommands_of_mem_foundCommands hc, rfl⟩
    have hold : (foundCommands values).Pairwise fun c d =>
        firstBinding (values ++ [v]) c < firstBinding (values ++ [v]) d := by
      refine ih.imp_of_mem fun hc hd hlt => ?_
      rwa [firstBinding_append _ (hbound hc), firstBinding_append _ (hbound hd)]
    rcases foundCommands_concat values v with ⟨heq, -⟩ | ⟨c, rfl, hnew, heq⟩
    · rwa [heq]
    · -- A new command is bound behind all others.
      have hunbound : ¬ firstBinding values c < values.length := fun hlt => by
        obtain ⟨d, hd, hserial⟩ := firstBinding_lt_length_iff.mp hlt
        obtain ⟨e, he, heserial⟩ := exists_mem_foundCommands hd
        exact hnew e he (heserial.trans hserial)
      rw [heq, List.pairwise_append]
      refine ⟨hold, List.pairwise_singleton _ _, fun d hd e he => ?_⟩
      cases List.mem_singleton.mp he
      rw [firstBinding_append _ (hbound hd)]
      exact (hbound hd).trans_le (length_le_firstBinding_append _ hunbound)

end Order

/-! ### The roots -/

section Selection

variable {values : List Value} {c d : Command}

/-- Among the plain commands of a module, what is below a command are its nodes. -/
theorem isBelow_iff (hplain : ∀ e ∈ nodesOf (boundCommands values), IsPlain e)
    (hc : .command c ∈ values) : IsBelow d c ↔ d ∈ nodes c.subcommands :=
  isBelow_iff_mem_nodes fun e he => hplain e (mem_nodesOf.mpr ⟨c, mem_boundCommands.mpr hc, he⟩)

/-- The walk notes the commands that are below a command of the module. -/
theorem mem_below_iff_isBelow (hvalues : IsIdentified (nodesOf (boundCommands values)))
    (hplain : ∀ e ∈ nodesOf (boundCommands values), IsPlain e) {nested : List Nat}
    (hnested : below (foundCommands values) = .ok nested) (n : Nat) :
    n ∈ nested ↔ ∃ c d, .command c ∈ values ∧ IsBelow d c ∧ d.serial = n := by
  rw [mem_below_iff (isIdentified_foundCommands hvalues) hnested n]
  simp only [mem_foundCommands_iff hvalues, mem_boundCommands]
  constructor
  · rintro ⟨c, hc, d, hd, hn⟩
    exact ⟨c, d, hc, (isBelow_iff hplain hc).mpr hd, hn⟩
  · rintro ⟨c, d, hc, hd, hn⟩
    exact ⟨c, hc, d, (isBelow_iff hplain hc).mp hd, hn⟩

/-- The roots of a module are its commands that are below no command of it. -/
theorem isRootAmong_iff (hvalues : IsIdentified (nodesOf (boundCommands values)))
    (hplain : ∀ e ∈ nodesOf (boundCommands values), IsPlain e) :
    IsRootAmong values c ↔
      .command c ∈ values ∧ ∀ d, .command d ∈ values → ¬ IsBelow c d := by
  constructor
  · rintro ⟨hbound, hfree⟩
    exact ⟨mem_boundCommands.mp hbound, fun d hd hbelow =>
      hfree d (mem_boundCommands.mpr hd) c hbelow.mem_nodes rfl⟩
  · rintro ⟨hc, hfree⟩
    have hbound := mem_boundCommands.mpr hc
    refine ⟨hbound, fun d hd e he hserial => hfree d (mem_boundCommands.mp hd) ?_⟩
    have heq : e = c :=
      hvalues e (mem_nodesOf_below (mem_nodesOf_of_mem hd) he) c (mem_nodesOf_of_mem hbound) hserial
    exact (isBelow_iff hplain (mem_boundCommands.mp hd)).mpr (heq ▸ he)

/-- A module whose commands have subcommands that are absent or tuples of commands, at every depth.
A serial number stands for the identity of a command.

The walk takes one pass for each command that the module binds and one for each command below
them, and its roots are the commands that it binds and that are below no command that it binds:
each once, in the order of the first bindings, with every command of the module among them or
below one of them, and none below another. -/
theorem rootsOf_selects (hvalues : IsIdentified (nodesOf (boundCommands values)))
    (hplain : ∀ e ∈ nodesOf (boundCommands values), IsPlain e) :
    ∃ nested roots,
      Walks ((foundCommands values).length + nested.length)
        ([], ((foundCommands values).map Value.command).reverse) (nested, []) ∧
      nested.Nodup ∧
      (∀ n, n ∈ nested ↔ ∃ c d, .command c ∈ values ∧ IsBelow d c ∧ d.serial = n) ∧
      rootsOf values = .ok roots ∧
      (∀ c, c ∈ roots ↔ .command c ∈ values ∧ ∀ d, .command d ∈ values → ¬ IsBelow c d) ∧
      roots.Nodup ∧
      roots.Pairwise (fun c d => firstBinding values c < firstBinding values d) ∧
      (∀ c, .command c ∈ values → ∃ root ∈ roots, c = root ∨ IsBelow c root) ∧
      ∀ c ∈ roots, ∀ d ∈ roots, ¬ IsBelow c d := by
  obtain ⟨roots, hroots⟩ := (rootsOf_eq_ok_iff hvalues).mpr fun e he => (hplain e he).isWalkable
  obtain ⟨nested, hnested, hfilter⟩ := exists_below_of_rootsOf hroots
  have hmem (c : Command) : c ∈ roots ↔
      .command c ∈ values ∧ ∀ d, .command d ∈ values → ¬ IsBelow c d :=
    (mem_rootsOf_iff hvalues hroots).trans (isRootAmong_iff hvalues hplain)
  have horder : roots.Pairwise fun c d => firstBinding values c < firstBinding values d :=
    hfilter ▸ (pairwise_foundCommands values).filter _
  refine ⟨nested, roots, walks_of_below hnested, nodup_belowFrom hnested .nil,
    mem_below_iff_isBelow hvalues hplain hnested, hroots, hmem, ?_, horder, fun c hc => ?_,
    fun c hc d hd => ((hmem c).mp hc).2 d ((hmem d).mp hd).1⟩
  · refine horder.imp fun hlt hsame => ?_
    rw [hsame] at hlt
    exact Nat.lt_irrefl _ hlt
  · obtain ⟨root, hroot, hnode⟩ := exists_isRootAmong hvalues (mem_boundCommands.mpr hc)
    refine ⟨root, (mem_rootsOf_iff hvalues hroots).mpr hroot, ?_⟩
    rw [nodes_command] at hnode
    exact (List.mem_cons.mp hnode).imp_right
      (isBelow_iff hplain (mem_boundCommands.mp hroot.bound)).mpr

end Selection

/-! ### Shared subcommands -/

/-- A command of a module, with some subcommands. -/
def bindable (serial : Nat) (name : String) (subcommands : Value) : Command :=
  ⟨serial, .text name, .null, .null, .bool false, .null, subcommands, .null, .null⟩

def adding : Command := bindable 0 "add" .null

def banning : Command := bindable 1 "ban" (.tuple [.command adding])

def moderating : Command := bindable 2 "mod" (.tuple [.command banning, .command adding])

def unbanning : Command := bindable 3 "unban" (.tuple [.command adding])

/-- A module that binds a command of which three others share, and one command twice. -/
def sharedValues : List Value :=
  [.text "moderation", .command adding, .command moderating, .command unbanning, .command banning,
    .command moderating]

theorem mem_nodesOf_sharedValues {c : Command} (h : c ∈ nodesOf (boundCommands sharedValues)) :
    c = adding ∨ c = banning ∨ c = moderating ∨ c = unbanning := by
  have hnodes : nodesOf (boundCommands sharedValues) =
      [adding, moderating, banning, adding, adding, unbanning, adding, banning, adding, moderating,
        banning, adding, adding] := rfl
  rw [hnodes] at h
  simp only [List.mem_cons, List.not_mem_nil, or_false] at h
  tauto

theorem isBelow_sharedValues {c d : Command} (hc : .command c ∈ sharedValues) (hd : IsBelow d c) :
    d = adding ∨ d = banning := by
  rcases mem_nodesOf_sharedValues (mem_nodesOf_of_mem (mem_boundCommands.mpr hc)) with
    rfl | rfl | rfl | rfl
  · exact absurd hd.mem_nodes List.not_mem_nil
  · exact .inl (List.mem_singleton.mp hd.mem_nodes)
  · have hnode : d ∈ [banning, adding, adding] := hd.mem_nodes
    simp only [List.mem_cons, List.not_mem_nil, or_false] at hnode
    tauto
  · exact .inl (List.mem_singleton.mp hd.mem_nodes)

/-- The roots are `mod`, once, and `unban`, with `add` and `ban` below them. -/
theorem rootsOf_selects_shared :
    IsIdentified (nodesOf (boundCommands sharedValues)) ∧
      (∀ c ∈ nodesOf (boundCommands sharedValues), IsPlain c) ∧
      ∃ nested roots,
        Walks (4 + nested.length)
          ([], ((foundCommands sharedValues).map Value.command).reverse) (nested, []) ∧
        nested.Nodup ∧ (∀ n, n ∈ nested ↔ n = 0 ∨ n = 1) ∧
        rootsOf sharedValues = .ok roots ∧ roots.Nodup ∧
        ∀ c, c ∈ roots ↔ c = moderating ∨ c = unbanning := by
  have hidentified : IsIdentified (nodesOf (boundCommands sharedValues)) := by
    intro c hc d hd hserial
    rcases mem_nodesOf_sharedValues hc with rfl | rfl | rfl | rfl <;>
      rcases mem_nodesOf_sharedValues hd with rfl | rfl | rfl | rfl <;>
        first | rfl | cases hserial
  have hplain : ∀ c ∈ nodesOf (boundCommands sharedValues), IsPlain c := by
    intro c hc
    rcases mem_nodesOf_sharedValues hc with rfl | rfl | rfl | rfl
    · exact .inl rfl
    · exact .inr ⟨[adding], rfl⟩
    · exact .inr ⟨[banning, adding], rfl⟩
    · exact .inr ⟨[adding], rfl⟩
  have hadding : IsBelow adding unbanning := .single ⟨_, rfl, List.mem_cons_self⟩
  have hbanning : IsBelow banning moderating := .single ⟨_, rfl, List.mem_cons_self⟩
  have hmoderating : .command moderating ∈ sharedValues := by simp [sharedValues]
  have hunbanning : .command unbanning ∈ sharedValues := by simp [sharedValues]
  obtain ⟨nested, roots, hwalks, hnodup, hnested, hroots, hmem, honce, -⟩ :=
    rootsOf_selects hidentified hplain
  refine ⟨hidentified, hplain, nested, roots, hwalks, hnodup, fun n => ?_, hroots, honce,
    fun c => ?_⟩
  · rw [hnested]
    constructor
    · rintro ⟨c, d, hc, hd, rfl⟩
      rcases isBelow_sharedValues hc hd with rfl | rfl
      · exact .inl rfl
      · exact .inr rfl
    · rintro (rfl | rfl)
      · exact ⟨unbanning, adding, hunbanning, hadding, rfl⟩
      · exact ⟨moderating, banning, hmoderating, hbanning, rfl⟩
  · rw [hmem]
    constructor
    · rintro ⟨hc, hfree⟩
      rcases mem_nodesOf_sharedValues (mem_nodesOf_of_mem (mem_boundCommands.mpr hc)) with
        rfl | rfl | rfl | rfl
      · exact absurd hadding (hfree _ hunbanning)
      · exact absurd hbanning (hfree _ hmoderating)
      · exact .inl rfl
      · exact .inr rfl
    · rintro (rfl | rfl)
      · refine ⟨hmoderating, fun d hd hbelow => ?_⟩
        rcases isBelow_sharedValues hd hbelow with heq | heq <;> cases congrArg CommandOf.serial heq
      · refine ⟨hunbanning, fun d hd hbelow => ?_⟩
        rcases isBelow_sharedValues hd hbelow with heq | heq <;> cases congrArg CommandOf.serial heq

end ChatCommands
