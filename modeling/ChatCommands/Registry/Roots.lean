import ChatCommands.Value.Part

/-!
# Root commands of a module

A module defines commands in variables.  Its roots are those that are not below another command of
the module, each once, in the order in which they are first bound.

The commands below are found with a stack: a command is taken off the top, and its subcommands
that have not been seen are put on.  What is not a command is refused when it comes to the top.

## Main definitions

* `foundCommands` : the commands among the variables of a module.
* `below` : the serial numbers of the commands below some commands.
* `rootsOf` : the roots of a module.
-/

namespace ChatCommands

/-- The commands among some values, each once. -/
def foundCommands (values : List Value) : List Command :=
  values.foldl
    (fun found v =>
      match v with
      | .command c => if found.any fun d => d.serial = c.serial then found else found ++ [c]
      | _ => found)
    []

/-- The subcommands of a command as they are gone through; a false value has none. -/
def children (c : Command) : Except Misuse (List Value) :=
  if c.subcommands.isTruthy then c.subcommands.items else .ok []

mutual

/-- The number of steps that a value on the stack can lead to. -/
def stackWeight : Value → Nat
  | .command ⟨_, _, _, _, _, _, subcommands, _, _⟩ => 1 + innerWeight subcommands
  | _ => 1

/-- The number of steps that the subcommands of a command can lead to. -/
def innerWeight : Value → Nat
  | .list items => stackWeights items
  | .tuple items => stackWeights items
  | .set _ items => stackWeights items
  | .stream _ items => stackWeights items
  | v => (v.elements?.map List.length).getD 0

/-- The number of steps that a stack can lead to. -/
def stackWeights : List Value → Nat
  | [] => 0
  | v :: rest => stackWeight v + stackWeights rest

end

/-- Puts subcommands that have not been seen on the stack, noting those that are commands. -/
def pushChildren (seen : List Nat) (stack : List Value) : List Value → List Nat × List Value
  | [] => (seen, stack)
  | .command c :: rest =>
    if seen.contains c.serial then pushChildren seen stack rest
    else pushChildren (c.serial :: seen) (.command c :: stack) rest
  | v :: rest => pushChildren seen (v :: stack) rest

theorem stackWeights_pushChildren (items : List Value) (seen : List Nat) (stack : List Value) :
    stackWeights (pushChildren seen stack items).2 ≤ stackWeights stack + stackWeights items := by
  induction items generalizing seen stack with
  | nil => simp [pushChildren, stackWeights]
  | cons v rest ih =>
    have push (s : List Nat) : stackWeights (pushChildren s (v :: stack) rest).2 ≤
        stackWeights stack + stackWeights (v :: rest) := by
      have := ih s (v :: stack)
      simp only [stackWeights] at this ⊢
      omega
    have skip (s : List Nat) : stackWeights (pushChildren s stack rest).2 ≤
        stackWeights stack + stackWeights (v :: rest) := by
      have := ih s stack
      simp only [stackWeights] at this ⊢
      omega
    cases v with
    | command c =>
      unfold pushChildren
      split
      · exact skip seen
      · exact push _
    | _ => exact push seen

/-- Items of which none is a command weigh one each. -/
theorem stackWeights_map {α : Type} (f : α → Value) (h : ∀ a, stackWeight (f a) = 1)
    (as : List α) : stackWeights (as.map f) = as.length := by
  induction as with
  | nil => rfl
  | cons a rest ih =>
    simp only [List.map_cons, stackWeights, h, ih, List.length_cons]
    omega

theorem stackWeights_elements (v : Value) (items : List Value) (h : v.elements? = some items) :
    stackWeights items ≤ innerWeight v := by
  cases v <;> simp only [Value.elements?, Option.some.injEq, reduceCtorEq] at h <;>
    subst h <;> simp only [innerWeight, Value.elements?, Option.map_some, Option.getD_some,
      List.length_map]
  case text s => exact Nat.le_of_eq (stackWeights_map _ (fun _ => rfl) _)
  case bytes bs => exact Nat.le_of_eq (stackWeights_map _ (fun _ => rfl) _)
  case map isFrozen entries => exact Nat.le_of_eq (stackWeights_map _ (fun _ => rfl) _)
  case permissions field => exact Nat.le_of_eq (stackWeights_map _ (fun _ => rfl) _)
  case styled t => exact Nat.le_of_eq (stackWeights_map _ (fun _ => rfl) _)
  all_goals exact Nat.le_refl _

theorem stackWeights_children {c : Command} {items : List Value} (h : children c = .ok items) :
    stackWeights items ≤ innerWeight c.subcommands := by
  unfold children Value.items at h
  split at h
  · split at h
    · rename_i found hf
      cases h
      exact stackWeights_elements _ _ hf
    · cases h
  · cases h
    simp [stackWeights]

/-- The serial numbers of the commands below those on a stack, with those seen already. -/
def belowFrom (seen : List Nat) : List Value → Except Misuse (List Nat)
  | [] => .ok seen
  | .command c :: rest =>
    match _found : children c with
    | .error e => .error e
    | .ok items => belowFrom (pushChildren seen rest items).1 (pushChildren seen rest items).2
  | v :: _ => .error (.noAttribute v.typeName "subcommands")
termination_by stack => stackWeights stack
decreasing_by
  have pushed := stackWeights_pushChildren items seen rest
  have inner := stackWeights_children _found
  simp only [stackWeights, stackWeight]
  omega

/-- The serial numbers of the commands below some commands. -/
def below (commands : List Command) : Except Misuse (List Nat) :=
  belowFrom [] (commands.map Value.command).reverse

/-- The roots among the variables of a module. -/
def rootsOf (values : List Value) : Except Misuse (List Command) := do
  let found := foundCommands values
  let nested ← below found
  return found.filter fun c => !nested.contains c.serial

end ChatCommands
