import ChatCommands.Command.Basic
import ChatCommands.Proofs.Registry.Roots

/-!
# What the check of a tree accepts

The check of a tree stops at the first field that is not what its definition documents, in whatever
node or argument it meets it.  It accepts exactly the trees of which every node fits its definition:
it looks at the fields of a node and at its subcommands, which are smaller trees, and this recursion
reaches every node.  So one node that does not fit spoils all trees above it, and a valid tree stays
valid when one valid subtree takes the place of another.

## Main definitions

* `IsFitArgument`, `IsFitNode` : arguments and nodes that fit their definitions.
* `IsReplaced` : a tree with another subtree in one place.
* `AreFitFields` : values given for the fields of a node that make a valid tree.

## Main results

* `isValid_command_iff` : the check of a tree by its root and its subcommands.
* `isValid_iff` : the check of a tree by its nodes.
* `isValid_of_isReplaced` : replacing a subtree.
* `isValid_of_make_iff` : the check of a tree that is made from given values.
* `valid_trees_are_fit` : what the check accepts.
-/

namespace ChatCommands

/-! ### Kinds of values -/

namespace Value

variable {v : Value}

theorem isNull_iff : v.isNull = true ↔ v = .null :=
  ⟨eq_null_of_isNull, fun h => h ▸ rfl⟩

theorem isText_iff : v.isText = true ↔ ∃ s, v = .text s :=
  ⟨eq_text_of_isText, fun ⟨_, h⟩ => h ▸ rfl⟩

theorem isCallable_iff : v.isCallable = true ↔ ∃ f, v = .callable f :=
  ⟨eq_callable_of_isCallable, fun ⟨_, h⟩ => h ▸ rfl⟩

theorem isBool_iff : v.isBool = true ↔ ∃ b, v = .bool b := by
  cases v <;> simp [isBool]

theorem isField_iff : v.isField = true ↔ (∃ n, v.integer? = some n) ∧ ∀ b, v ≠ .bool b := by
  rw [isField, Bool.and_eq_true, Option.isSome_iff_exists, Bool.not_eq_true',
    ← Bool.not_eq_true, isBool_iff, not_exists]

theorem isNullOr_iff {condition : Value → Bool} :
    v.isNullOr condition = true ↔ v = .null ∨ condition v = true := by
  rw [isNullOr, Bool.or_eq_true, isNull_iff]

end Value

/-! ### Fitting nodes -/

/-- An argument that fits its definition: a text for its name, a truth value that says whether it is
variadic, and at least one type, all of them registered tags. -/
structure IsFitArgument (table : Converters) (a : Argument) : Prop where
  name : ∃ s, a.name = .text s
  variadic : ∃ b, a.variadic = .bool b
  nonempty : a.types ≠ []
  types : ∀ tag ∈ a.types, ∃ s, tag = .text s ∧ table.has s = true

/-- A node that fits its definition, by its own fields.  Of its subcommands it only asks that they
are commands.  A guard or handler is a callable of the host; types and methods are values that only
templates reach, and no field is given one. -/
structure IsFitNode (table : Converters) (c : Command) : Prop where
  name : ∃ s, c.name = .text s
  shortcut : c.shortcut = .null ∨ ∃ s, c.shortcut = .text s
  permissions : c.permissions = .null ∨
    (∃ n, c.permissions.integer? = some n) ∧ ∀ b, c.permissions ≠ .bool b
  channel : ∃ b, c.channel = .bool b
  guard : c.guard = .null ∨ ∃ f, c.guard = .callable f
  handler : c.handler = .null ∨ ∃ f, c.handler = .callable f
  subcommands : c.subcommands = .null ∨
    ∃ items, c.subcommands = .tuple items ∧ ∀ v ∈ items, ∃ d, v = .command d
  arguments : c.arguments = .null ∨
    ∃ items, c.arguments = .tuple items ∧ ∀ v ∈ items, ∃ a, v = .argument a ∧ IsFitArgument table a
  leads : c.handler ≠ .null ∨ c.subcommands ≠ .null

section Check

variable {table : Converters} {c d : Command}

theorem isTag_iff {tag : Value} :
    isTag table tag = true ↔ ∃ s, tag = .text s ∧ table.has s = true := by
  cases tag <;> simp [isTag]

theorem isValidArgument_iff {v : Value} :
    isValidArgument table v = true ↔ ∃ a, v = .argument a ∧ IsFitArgument table a := by
  cases v with
  | argument a =>
    simp only [isValidArgument, Bool.and_eq_true, Value.isText_iff, Value.isBool_iff,
      Bool.not_eq_true', List.isEmpty_eq_false_iff, List.all_eq_true, isTag_iff]
    constructor
    · rintro ⟨⟨⟨hname, hvariadic⟩, hnonempty⟩, htypes⟩
      exact ⟨a, rfl, hname, hvariadic, hnonempty, htypes⟩
    · rintro ⟨_, ha, hfit⟩
      cases ha
      exact ⟨⟨⟨hfit.name, hfit.variadic⟩, hfit.nonempty⟩, hfit.types⟩
  | _ => simp [isValidArgument]

theorem areValidArguments_iff {v : Value} :
    areValidArguments table v = true ↔ v = .null ∨
      ∃ items, v = .tuple items ∧ ∀ w ∈ items, ∃ a, w = .argument a ∧ IsFitArgument table a := by
  cases v <;> simp [areValidArguments, isValidArgument_iff]

/-- The check of the subcommands of a node depends on their kind. -/
theorem isValid_eq (table : Converters) (c : Command) :
    isValid table (.command c) =
      (c.name.isText && c.shortcut.isNullOr Value.isText && c.permissions.isNullOr Value.isField &&
        c.channel.isBool && c.guard.isNullOr Value.isCallable &&
        c.handler.isNullOr Value.isCallable && areValidArguments table c.arguments &&
        (match c.subcommands with
          | .null => !c.handler.isNull
          | .tuple items => areValid table items
          | _ => false)) := by
  obtain ⟨serial, name, shortcut, required, channel, guardian, children, definitions, handler⟩ := c
  cases children <;> simp only [isValid]

/-- Valid subcommands are commands. -/
theorem commands_of_valid {v : Value}
    (h : v = .null ∨ ∃ items, v = .tuple items ∧ ∀ w ∈ items, isValid table w = true) :
    v = .null ∨ ∃ items, v = .tuple items ∧ ∀ w ∈ items, ∃ d, w = .command d := by
  rcases h with hnull | ⟨items, hitems, hall⟩
  · exact .inl hnull
  · refine .inr ⟨items, hitems, fun w hw => ?_⟩
    obtain ⟨d, rfl, -⟩ := exists_command_of_isValid (hall w hw)
    exact ⟨d, rfl⟩

/-- A node is accepted when it fits its definition and all its subcommands are accepted. -/
theorem isValid_command_iff :
    isValid table (.command c) = true ↔
      IsFitNode table c ∧ (c.subcommands = .null ∨
        ∃ items, c.subcommands = .tuple items ∧ ∀ v ∈ items, isValid table v = true) := by
  have hhandler : c.handler.isNull = false ↔ c.handler ≠ .null := by
    rw [← Bool.not_eq_true, Value.isNull_iff]
  have hchildren : (match c.subcommands with
        | .null => !c.handler.isNull
        | .tuple items => areValid table items
        | _ => false) = true ↔
      (c.handler ≠ .null ∨ c.subcommands ≠ .null) ∧ (c.subcommands = .null ∨
        ∃ items, c.subcommands = .tuple items ∧ ∀ v ∈ items, isValid table v = true) := by
    cases c.subcommands <;> simp [areValid_iff, hhandler]
  rw [isValid_eq]
  simp only [Bool.and_eq_true, hchildren, Value.isNullOr_iff, Value.isText_iff, Value.isField_iff,
    Value.isBool_iff, Value.isCallable_iff, areValidArguments_iff]
  constructor
  · rintro ⟨⟨⟨⟨⟨⟨⟨hname, hshortcut⟩, hpermissions⟩, hchannel⟩, hguard⟩, hhandler⟩, harguments⟩,
      hleads, hvalid⟩
    exact ⟨⟨hname, hshortcut, hpermissions, hchannel, hguard, hhandler, commands_of_valid hvalid,
      harguments, hleads⟩, hvalid⟩
  · rintro ⟨h, hvalid⟩
    exact ⟨⟨⟨⟨⟨⟨⟨h.name, h.shortcut⟩, h.permissions⟩, h.channel⟩, h.guard⟩, h.handler⟩,
      h.arguments⟩, h.leads, hvalid⟩

/-- The subcommands of a node that fits its definition are the commands below it at once. -/
theorem isValid_iff_children :
    isValid table (.command c) = true ↔
      IsFitNode table c ∧ ∀ d, IsChildOf d c → isValid table (.command d) = true := by
  rw [isValid_command_iff]
  refine and_congr_right fun hfit => ?_
  unfold IsChildOf
  rcases hfit.subcommands with hnull | ⟨items, hitems, hcommands⟩
  · simp [hnull]
  · simp only [hitems, reduceCtorEq, Value.tuple.injEq, exists_eq_left', false_or]
    constructor
    · intro hall d hd
      exact hall _ hd
    · intro hall v hv
      obtain ⟨d, rfl⟩ := hcommands v hv
      exact hall d hv

/-! ### Fitting trees -/

/-- A subcommand has fewer nodes than the command. -/
theorem wellFounded_isChildOf : WellFounded IsChildOf :=
  Subrelation.wf (fun h => length_nodes_lt h.mem_nodes)
    (measure fun c : Command => (nodes (.command c)).length).wf

theorem isValid_of_isBelow (h : IsBelow d c) (hc : isValid table (.command c) = true) :
    isValid table (.command d) = true := by
  induction h with
  | single hchild => exact (isValid_iff_children.1 hc).2 d hchild
  | tail _ hchild ih => exact ih ((isValid_iff_children.1 hc).2 _ hchild)

/-- A tree is accepted when its root and all commands below it fit their definitions. -/
theorem isValid_iff {v : Value} :
    isValid table v = true ↔
      ∃ c, v = .command c ∧ ∀ d, d = c ∨ IsBelow d c → IsFitNode table d := by
  constructor
  · intro h
    obtain ⟨c, rfl, -⟩ := exists_command_of_isValid h
    refine ⟨c, rfl, ?_⟩
    rintro d (rfl | hd)
    · exact (isValid_command_iff.1 h).1
    · exact (isValid_command_iff.1 (isValid_of_isBelow hd h)).1
  · rintro ⟨c, rfl, hfit⟩
    induction c using wellFounded_isChildOf.induction with
    | h c ih =>
      refine isValid_iff_children.2 ⟨hfit c (.inl rfl), fun d hd => ih d hd fun e he => ?_⟩
      rcases he with rfl | he
      · exact hfit e (.inr (.single hd))
      · exact hfit e (.inr (.tail he hd))

/-! ### Replacing a subtree -/

/-- A tree has another subtree in one place.  The commands above the place are made anew, so that
their serial numbers change. -/
inductive IsReplaced (old new : Value) : Value → Value → Prop
  | whole : IsReplaced old new old new
  | inside {c : Command} {front back : List Value} {v w : Value} (h : IsReplaced old new v w)
      (hc : c.subcommands = .tuple (front ++ v :: back)) (serial : Nat) :
      IsReplaced old new (.command c)
        (.command { c with serial := serial, subcommands := .tuple (front ++ w :: back) })

theorem forall_isValid_of_tuple {items : List Value} (h : isValid table (.command c) = true)
    (hc : c.subcommands = .tuple items) : ∀ v ∈ items, isValid table v = true := by
  rcases (isValid_command_iff.1 h).2 with hnull | ⟨items', hitems', hall⟩
  · cases hc.symm.trans hnull
  · cases hc.symm.trans hitems'
    exact hall

/-- A node that fits its definition is accepted with any valid subcommands. -/
theorem IsFitNode.isValid_with {items : List Value} (h : IsFitNode table c)
    (hitems : ∀ v ∈ items, isValid table v = true) (serial : Nat) :
    isValid table (.command { c with serial := serial, subcommands := .tuple items }) = true := by
  exact isValid_command_iff.2 ⟨⟨h.name, h.shortcut, h.permissions, h.channel, h.guard, h.handler,
    commands_of_valid (.inr ⟨_, rfl, hitems⟩), h.arguments, .inr nofun⟩, .inr ⟨_, rfl, hitems⟩⟩

/-- A valid tree stays valid when a valid subtree takes the place of another one. -/
theorem isValid_of_isReplaced {old new v w : Value} (h : IsReplaced old new v w)
    (hnew : isValid table new = true) (hv : isValid table v = true) : isValid table w = true := by
  induction h with
  | whole => exact hnew
  | @inside c front back v w _ hc serial ih =>
    have hitems := forall_isValid_of_tuple hv hc
    refine (isValid_command_iff.1 hv).1.isValid_with (fun u hu => ?_) serial
    rcases List.mem_append.1 hu with hu | hu
    · exact hitems u (List.mem_append_left _ hu)
    · rcases List.mem_cons.1 hu with rfl | hu
      · exact ih (hitems v (by simp))
      · exact hitems u (by simp [hu])

end Check

/-! ### Given fields -/

/-- A field is left out: it is not given, or given as nothing. -/
def IsLeftOut (given : Option Value) : Prop :=
  given = none ∨ given = some .null ∨ given = some .unset

/-- A field is given as a sequence whose items satisfy a condition. -/
def IsSequenceOf (condition : Value → Prop) (given : Option Value) : Prop :=
  ∃ items, (given = some (.list items) ∨ given = some (.tuple items)) ∧ ∀ v ∈ items, condition v

/-- Values given for the fields of a node make a valid tree.  Subcommands and arguments may be given
as lists, of which a snapshot is kept; permissions in any form but a truth value, as they are
resolved. -/
structure AreFitFields (table : Converters) (f : CommandFields) : Prop where
  name : ∃ s, f.name = .text s
  shortcut : IsLeftOut f.shortcut ∨ ∃ s, f.shortcut = some (.text s)
  permissions : ∀ b, f.permissions ≠ some (.bool b)
  channel : f.channel = none ∨ ∃ b, f.channel = some (.bool b)
  guard : IsLeftOut f.guard ∨ ∃ g, f.guard = some (.callable g)
  handler : IsLeftOut f.handler ∨ ∃ g, f.handler = some (.callable g)
  subcommands : IsLeftOut f.subcommands ∨ IsSequenceOf (isValid table · = true) f.subcommands
  arguments : IsLeftOut f.arguments ∨
    IsSequenceOf (fun v => ∃ a, v = .argument a ∧ IsFitArgument table a) f.arguments
  leads : ¬ (IsLeftOut f.handler ∧ IsLeftOut f.subcommands)

namespace CommandOf

variable {v : Option Value}

theorem given_eq_null_iff : given v = .null ↔ IsLeftOut v := by
  rcases v with _ | v
  · simp [given, IsLeftOut, Value.orElse, Value.isUnset]
  · cases v <;> simp [given, IsLeftOut, Value.orElse, Value.isUnset]

theorem given_eq_iff {w : Value} (hnull : w ≠ .null) (hunset : w ≠ .unset) :
    given v = w ↔ v = some w := by
  rcases v with _ | v
  · simp [given, Value.orElse, Value.isUnset, hnull.symm]
  · cases v <;> simp [given, Value.orElse, Value.isUnset, hnull.symm, hunset.symm]

/-- A field that may be left out is kept as it was given. -/
theorem given_optional_iff {α : Type} {f : α → Value} (hnull : ∀ a, f a ≠ .null)
    (hunset : ∀ a, f a ≠ .unset) :
    (given v = .null ∨ ∃ a, given v = f a) ↔ IsLeftOut v ∨ ∃ a, v = some (f a) :=
  or_congr given_eq_null_iff (exists_congr fun a => given_eq_iff (hnull a) (hunset a))

theorem frozen_given_eq_null_iff : (given v).frozen = .null ↔ IsLeftOut v := by
  rw [← given_eq_null_iff]
  cases given v <;> simp [Value.frozen]

/-- A snapshot is a tuple exactly when a sequence was given. -/
theorem frozen_given_eq_tuple_iff {items : List Value} :
    (given v).frozen = .tuple items ↔ v = some (.list items) ∨ v = some (.tuple items) := by
  rcases v with _ | v
  · simp [given, Value.orElse, Value.isUnset, Value.frozen]
  · cases v <;> simp [given, Value.orElse, Value.isUnset, Value.frozen]

theorem frozen_optional_iff {condition : Value → Prop} :
    ((given v).frozen = .null ∨
        ∃ items, (given v).frozen = .tuple items ∧ ∀ w ∈ items, condition w) ↔
      IsLeftOut v ∨ IsSequenceOf condition v :=
  or_congr frozen_given_eq_null_iff
    (exists_congr fun _ => and_congr_left' frozen_given_eq_tuple_iff)

/-- The permissions that a node keeps are a field of permissions unless a truth value was given. -/
theorem fits_permissionsOf_iff {given required : Value} (h : permissionsOf given = .ok required) :
    (required = .null ∨ (∃ n, required.integer? = some n) ∧ ∀ b, required ≠ .bool b) ↔
      ∀ b, given ≠ .bool b := by
  rw [permissionsOf] at h
  split at h
  case isTrue hkept =>
    obtain rfl := Except.ok.inj h
    rw [Value.isNull_iff, Option.isSome_iff_exists] at hkept
    rcases hkept with rfl | hinteger
    · simp
    · have hnull : given ≠ .null := by
        rintro rfl
        simp [Value.integer?] at hinteger
      simp [hnull, hinteger]
  case isFalse hresolved =>
    have hbool : ∀ b, given ≠ .bool b := by
      rintro b rfl
      exact hresolved (.inr rfl)
    cases hfield : Permission.resolve given with
    | error e =>
      rw [hfield] at h
      cases h
    | ok field =>
      rw [hfield] at h
      obtain rfl := Except.ok.inj h
      simp [Value.integer?, hbool]

/-- A node that is made is a valid tree exactly when the values given for its fields fit. -/
theorem isValid_of_make_iff {table : Converters} {serial : Nat} {f : CommandFields} {c : Command}
    (h : make serial f = .ok c) : isValid table (.command c) = true ↔ AreFitFields table f := by
  have hchannel : (∃ b, f.channel.getD (.bool false) = .bool b) ↔
      f.channel = none ∨ ∃ b, f.channel = some (.bool b) := by
    cases f.channel <;> simp
  have hgiven : (∀ b, f.permissions.getD .null ≠ .bool b) ↔
      ∀ b, f.permissions ≠ some (.bool b) := by
    cases f.permissions <;> simp
  cases hrequired : permissionsOf (f.permissions.getD .null) with
  | error e =>
    rw [make, hrequired] at h
    cases h
  | ok required =>
    have hpermissions := (fits_permissionsOf_iff hrequired).trans hgiven
    rw [make, hrequired] at h
    obtain rfl := Except.ok.inj h
    constructor
    · intro hvalid
      obtain ⟨hfit, hsub⟩ := isValid_command_iff.1 hvalid
      refine ⟨hfit.name, (given_optional_iff nofun nofun).1 hfit.shortcut,
        hpermissions.1 hfit.permissions, hchannel.1 hfit.channel,
        (given_optional_iff nofun nofun).1 hfit.guard,
        (given_optional_iff nofun nofun).1 hfit.handler, frozen_optional_iff.1 hsub,
        frozen_optional_iff.1 hfit.arguments, ?_⟩
      rintro ⟨hhandler, hsubcommands⟩
      exact hfit.leads.elim (· (given_eq_null_iff.2 hhandler))
        (· (frozen_given_eq_null_iff.2 hsubcommands))
    · intro hfit
      have hsub := frozen_optional_iff.2 hfit.subcommands
      refine isValid_command_iff.2 ⟨⟨hfit.name, (given_optional_iff nofun nofun).2 hfit.shortcut,
        hpermissions.2 hfit.permissions, hchannel.2 hfit.channel,
        (given_optional_iff nofun nofun).2 hfit.guard,
        (given_optional_iff nofun nofun).2 hfit.handler, commands_of_valid hsub,
        frozen_optional_iff.2 hfit.arguments, ?_⟩, hsub⟩
      rw [← not_and_or]
      rintro ⟨hhandler, hsubcommands⟩
      exact hfit.leads ⟨given_eq_null_iff.1 hhandler, frozen_given_eq_null_iff.1 hsubcommands⟩

end CommandOf

/-! ### What the check accepts -/

/-- The check accepts a value exactly when it is a command that fits its definition like all
commands below it.  So one node that does not fit, or one argument, spoils the whole tree; a valid
tree stays valid when a valid subtree takes the place of another; and of the nodes that are made
from given values it accepts those whose values fit, with the items of a list as good as those of a
tuple, and no other container. -/
theorem valid_trees_are_fit (table : Converters) :
    (∀ v, isValid table v = true ↔
        ∃ c, v = .command c ∧ ∀ d, d = c ∨ IsBelow d c → IsFitNode table d) ∧
      (∀ c d, d = c ∨ IsBelow d c → ¬ IsFitNode table d → isValid table (.command c) = false) ∧
      (∀ c d items v, d = c ∨ IsBelow d c → d.arguments = .tuple items → v ∈ items →
        (¬ ∃ a, v = .argument a ∧ IsFitArgument table a) →
        isValid table (.command c) = false) ∧
      (∀ old new v w, IsReplaced old new v w → isValid table new = true →
        isValid table v = true → isValid table w = true) ∧
      ∀ serial f c, CommandOf.make serial f = .ok c →
        (isValid table (.command c) = true ↔ AreFitFields table f) := by
  have hspoilt : ∀ c d, d = c ∨ IsBelow d c → ¬ IsFitNode table d →
      isValid table (.command c) = false := by
    intro c d hd hunfit
    rw [← Bool.not_eq_true, isValid_iff]
    rintro ⟨c', hc', hfit⟩
    cases hc'
    exact hunfit (hfit d hd)
  refine ⟨fun v => isValid_iff, hspoilt, fun c d items v hd hitems hv hunfit => ?_,
    fun old new v w h hnew hv => isValid_of_isReplaced h hnew hv,
    fun serial f c h => CommandOf.isValid_of_make_iff h⟩
  refine hspoilt c d hd fun hfit => ?_
  rcases hfit.arguments with hnull | ⟨items', hitems', hfits⟩
  · cases hitems.symm.trans hnull
  · cases hitems.symm.trans hitems'
    exact hunfit (hfits v hv)

/-- A command that answers, and is called by a name. -/
def answeringTo (name : Value) : Command :=
  ⟨0, name, .null, .null, .bool false, .null, .null, .null, .callable (.routine "answer")⟩

/-- The fields of a group around one command, which is given in a list. -/
def groupFields (c : Command) : CommandFields :=
  ⟨.text "group", none, none, none, none, some (.list [.command c]), none, none⟩

/-- A group around one command. -/
def groupOf (c : Command) : Command :=
  ⟨1, .text "group", .null, .null, .bool false, .null, .tuple [.command c], .null, .null⟩

/-- A group is valid with `ping` or, in its place, with `pong`, but not with a command whose name is
a number. -/
theorem valid_trees_are_fit_group :
    CommandOf.make 1 (groupFields (answeringTo (.text "ping"))) =
        .ok (groupOf (answeringTo (.text "ping"))) ∧
      isValid Converters.standard (.command (groupOf (answeringTo (.text "ping")))) = true ∧
      isValid Converters.standard (.command (groupOf (answeringTo (.text "pong")))) = true ∧
      isValid Converters.standard (.command (groupOf (answeringTo (.int 5)))) = false := by
  obtain ⟨-, hspoilt, -, hreplaced, hmade⟩ := valid_trees_are_fit Converters.standard
  have hmake (name : Value) : CommandOf.make 1 (groupFields (answeringTo name)) =
      .ok (groupOf (answeringTo name)) := rfl
  have hping : isValid Converters.standard (.command (answeringTo (.text "ping"))) = true := by
    decide
  have hpong : isValid Converters.standard (.command (answeringTo (.text "pong"))) = true := by
    decide
  have hfields : AreFitFields Converters.standard (groupFields (answeringTo (.text "ping"))) := by
    refine ⟨⟨_, rfl⟩, .inl (.inl rfl), nofun, .inl rfl, .inl (.inl rfl), .inl (.inl rfl),
      .inr ⟨_, .inl rfl, List.forall_mem_singleton.2 hping⟩, .inl (.inl rfl), ?_⟩
    rintro ⟨-, h⟩
    rcases h with h | h | h <;> cases h
  have hgroup := (hmade 1 _ _ (hmake (.text "ping"))).2 hfields
  have hplace : IsReplaced (.command (answeringTo (.text "ping")))
      (.command (answeringTo (.text "pong"))) (.command (groupOf (answeringTo (.text "ping"))))
      (.command (groupOf (answeringTo (.text "pong")))) :=
    @IsReplaced.inside _ _ _ [] [] _ _ .whole rfl 1
  have hunfit : ¬ IsFitNode Converters.standard (answeringTo (.int 5)) := fun h => by
    obtain ⟨s, hs⟩ := h.name
    cases hs
  exact ⟨hmake _, hgroup, hreplaced _ _ _ _ hplace hpong hgroup,
    hspoilt _ _ (.inr (.single ⟨_, rfl, List.mem_cons_self⟩)) hunfit⟩

end ChatCommands
