import ChatCommands.Proofs.Permission.Decision

/-!
# Granting permissions

Nothing is missing if the holder is an administrator or holds every bit of what is required, and
more bits only help with either.  So whoever passes a gate passes it with more permissions as well,
and a requirement that stands for nothing cannot be compared with a larger field either.

## Main definitions

* `Permission.Extends` : a value that stands for all the permissions of another one, and maybe more.
* `Permission.HoldsAdministrator` : a value that stands for the administrator permission.
* `Event.IsBlock` : the record that the gate writes of a message it blocks.

## Main results

* `Permission.missing_of_extends` : where nothing is missing, nothing is with more permissions.
* `Permission.emits_gate_iff` : a gate writes no record of a block exactly if nothing is missing
  or the requirement cannot be compared with what is held.
* `Permission.gate_of_extends` : more permissions change nothing at a gate that blocks nobody.
-/

namespace ChatCommands

namespace Permission

theorem missingKeys_of_covers {field field' required : Nat}
    (hcovers : ∀ bit, field.testBit bit = true → field'.testBit bit = true)
    (hnil : missingKeys field required = .ok []) : missingKeys field' required = .ok [] := by
  rw [missingKeys_eq_nil_iff] at hnil ⊢
  exact hnil.imp (hcovers administratorBit) fun h bit hbit => hcovers bit (h bit hbit)

/-! ### Values that stand for more -/

/-- A value stands for all the permissions of another one, and maybe for more. -/
def Extends (held' held : Value) : Prop :=
  ∃ field field', resolve held = .ok field ∧ resolve held' = .ok field' ∧
    ∀ bit, field.testBit bit = true → field'.testBit bit = true

/-- A value stands for the administrator permission. -/
def HoldsAdministrator (held : Value) : Prop :=
  ∃ field, resolve held = .ok field ∧ isAdministrator field = true

/-- More bits stand for more permissions. -/
theorem extends_or (field more : Nat) (hfield : resolve (.int field) = .ok field)
    (hmore : resolve (.int (field ||| more : Nat)) = .ok (field ||| more)) :
    Extends (.int (field ||| more : Nat)) (.int field) := by
  refine ⟨field, field ||| more, hfield, hmore, fun bit hbit => ?_⟩
  rw [Nat.testBit_or, hbit, Bool.true_or]

/-- Where no key is missing, none is missing with more permissions, and what stands for no field
stands for none with more permissions. -/
theorem missing_of_extends {held held' required : Value} (h : Extends held' held)
    (hnarrow : ∀ n, resolve required = .ok n → IsNarrow n)
    (hnil : ∀ keys, missing held required = .ok keys → keys = []) :
    missing held' required = missing held required := by
  obtain ⟨field, field', hfield, hfield', hcovers⟩ := h
  rw [missing_of_resolve hfield] at hnil ⊢
  rw [missing_of_resolve hfield']
  cases hrequired : resolve required with
  | error e => rfl
  | ok n =>
    rw [hrequired] at hnil
    have htold : missingKeys field n = .ok ((shortfall field n).map bitKey) :=
      missingKeys_of_canBeTold (hnarrow n hrequired).canBeTold
    have hkeys : missingKeys field n = .ok [] := htold.trans (congrArg _ (hnil _ htold))
    exact (missingKeys_of_covers hcovers hkeys).trans hkeys.symm

/-- An administrator misses nothing of any field. -/
theorem missing_of_holdsAdministrator {held required : Value} (h : HoldsAdministrator held)
    {n : Nat} (hrequired : resolve required = .ok n) : missing held required = .ok [] := by
  obtain ⟨field, hfield, hadmin⟩ := h
  exact (missing_eq_nil_iff hfield hrequired).mpr (.inl hadmin)

end Permission

/-! ### The record of a block -/

/-- Whether an event is the record of a message that a gate blocks: gates write no other. -/
def Event.IsBlock : Event → Prop
  | .log _ .permissions _ => True
  | _ => False

namespace Permission

variable {h : Host} {m : Message} {l : Locale} {required : Value} {inChannel : Bool}

/-- A gate writes no record of a block exactly if it finds no key missing. -/
theorem emits_gate_iff :
    ((gate h m l required inChannel).Emits fun e => ¬ e.IsBlock) ↔
      ∀ keys, missing (m.held inChannel) required = .ok keys → keys = [] := by
  constructor
  · intro hgate keys hkeys
    by_contra hne
    rw [gate_of_ne_nil hkeys hne] at hgate
    have hlog := hgate.of_bind_left
    rw [block_eq] at hlog
    exact hlog.of_bind_left _ List.mem_cons_self trivial
  · intro hnil
    cases hmissing : missing (m.held inChannel) required with
    | error e =>
      rw [gate_of_error hmissing]
      exact .ofExcept _
    | ok keys =>
      rw [hnil keys hmissing] at hmissing
      rw [gate_of_nil hmissing]
      exact .pure _

/-- A gate that blocks nobody does the same for an author who holds more. -/
theorem gate_of_extends {m' : Message} (hheld : Extends (m'.held inChannel) (m.held inChannel))
    (hnarrow : ∀ n, resolve required = .ok n → IsNarrow n)
    (hgate : (gate h m l required inChannel).Emits fun e => ¬ e.IsBlock) :
    gate h m' l required inChannel = gate h m l required inChannel := by
  have hnil := emits_gate_iff.mp hgate
  have hmissing := missing_of_extends hheld hnarrow hnil
  cases hkeys : missing (m.held inChannel) required with
  | error e => rw [gate_of_error hkeys, gate_of_error (hmissing.trans hkeys)]
  | ok keys =>
    have hnone : missing (m.held inChannel) required = .ok [] := by rw [hkeys, hnil keys hkeys]
    rw [gate_of_nil hnone, gate_of_nil (hmissing.trans hnone)]

end Permission

end ChatCommands
