import ChatCommands.Proofs.Permission.Peeling
import ChatCommands.Proofs.Permission.Size

/-!
# The bits that a holder misses

An administrator misses nothing, anyone else the bits that are required and not held.  Their keys
are found one after another, and all of them or none: whoever misses a bit whose value has too many
digits is told nothing.

## Main definitions

* `Permission.shortfall` : the bits that a holder misses.
* `Permission.CanBeTold` : the keys of these bits can be written.

## Main results

* `Permission.mem_shortfall` : which bits a holder misses.
* `Permission.missingKeys_eq` : the keys that a holder misses are those of the shortfall.
* `Permission.missingKeys_eq_nil_iff` : when nothing is missing.
-/

namespace ChatCommands.Permission

variable {held required bit : Nat}

/-! ### The shortfall -/

/-- The bits that a holder misses of a requirement, in increasing order. -/
def shortfall (held required : Nat) : List Nat :=
  if isAdministrator held then [] else bitsOf (lacking held required)

theorem mem_shortfall :
    bit ∈ shortfall held required ↔
      isAdministrator held = false ∧ required.testBit bit = true ∧ held.testBit bit = false := by
  rw [shortfall]
  cases isAdministrator held with
  | true => simp
  | false => simp [mem_bitsOf, testBit_lacking]

theorem pairwise_shortfall (held required : Nat) : (shortfall held required).Pairwise (· < ·) := by
  rw [shortfall]
  split
  · exact .nil
  · exact pairwise_bitsOf _

theorem shortfall_ne_nil_iff :
    shortfall held required ≠ [] ↔ isAdministrator held = false ∧
      ∃ bit, required.testBit bit = true ∧ held.testBit bit = false := by
  refine ⟨fun hne => ?_, fun ⟨hadmin, bit, hbit⟩ =>
    List.ne_nil_of_mem (mem_shortfall.mpr ⟨hadmin, hbit⟩)⟩
  obtain ⟨bit, hbit⟩ := List.exists_mem_of_ne_nil _ hne
  obtain ⟨hadmin, hlacks⟩ := mem_shortfall.mp hbit
  exact ⟨hadmin, bit, hlacks⟩

theorem shortfall_eq_nil_iff :
    shortfall held required = [] ↔ isAdministrator held = true ∨
      ∀ bit, required.testBit bit = true → held.testBit bit = true := by
  rw [← not_iff_not]
  refine shortfall_ne_nil_iff.trans ?_
  simp only [not_or, Bool.not_eq_true, not_forall, exists_prop]

/-- Whoever is no administrator lacks just the administrator bit of the administrator field. -/
theorem lacking_administrator (hadmin : isAdministrator held = false) :
    lacking held administrator = administrator := by
  refine Nat.eq_of_testBit_eq fun bit => ?_
  rw [testBit_lacking]
  by_cases hbit : bit = administratorBit
  · rw [hbit, show held.testBit administratorBit = false from hadmin, Bool.not_false, Bool.and_true]
  · have hnone : administrator.testBit bit = false :=
      Nat.testBit_two_pow_of_ne fun h => hbit h.symm
    rw [hnone, Bool.false_and]

/-! ### The keys of the shortfall -/

/-- The keys of all bits that a holder misses can be written. -/
def CanBeTold (held required : Nat) : Prop :=
  ∀ bit ∈ shortfall held required, bit < writableBits

instance : Decidable (CanBeTold held required) :=
  inferInstanceAs (Decidable (∀ bit ∈ shortfall held required, bit < writableBits))

theorem canBeTold_of_bits (h : ∀ bit, required.testBit bit = true → bit < writableBits) :
    CanBeTold held required :=
  fun bit hbit => h bit (mem_shortfall.mp hbit).2.1

theorem IsNarrow.canBeTold (h : IsNarrow required) : CanBeTold held required :=
  canBeTold_of_bits fun _ => h.lt_writableBits

/-- The keys of some bits are found unless the value of one has too many digits. -/
theorem mapM_valueKey (bits : List Nat) :
    (bits.map (2 ^ ·)).mapM valueKey =
      if ∀ bit ∈ bits, bit < writableBits then .ok (bits.map bitKey) else .error .unwritable := by
  induction bits with
  | nil => rfl
  | cons bit rest ih =>
    rw [List.map_cons, List.mapM_cons, valueKey_two_pow, ih]
    simp only [List.forall_mem_cons]
    by_cases hbit : bit < writableBits
    · by_cases hrest : ∀ other ∈ rest, other < writableBits
      · rw [if_pos hbit, if_pos hrest, if_pos ⟨hbit, hrest⟩]
        rfl
      · rw [if_pos hbit, if_neg hrest, if_neg (mt And.right hrest)]
        rfl
    · rw [if_neg hbit, if_neg (mt And.left hbit)]
      rfl

/-- The loop over the bits finds the keys of the shortfall. -/
theorem mapM_valueKey_peeled (hadmin : isAdministrator held = false) (required : Nat) :
    (peeled (lacking held required)).mapM valueKey =
      if CanBeTold held required then .ok ((shortfall held required).map bitKey)
      else .error .unwritable := by
  have hbits : shortfall held required = bitsOf (lacking held required) :=
    if_neg (Bool.eq_false_iff.mp hadmin)
  rw [peeled_eq, ← hbits, mapM_valueKey]
  rfl

/-- The keys that a holder misses are those of the shortfall, the administrator bit included. -/
theorem missingKeys_eq (held required : Nat) :
    missingKeys held required =
      if CanBeTold held required then .ok ((shortfall held required).map bitKey)
      else .error .unwritable := by
  rw [missingKeys]
  cases hadmin : isAdministrator held with
  | true =>
    have hnil : shortfall held required = [] := if_pos hadmin
    have htold : CanBeTold held required := fun bit hbit => by
      rw [hnil] at hbit
      cases hbit
    rw [if_pos rfl, if_pos htold, hnil, List.map_nil]
  | false =>
    rw [if_neg Bool.false_ne_true]
    by_cases hrequired : required = administrator
    · rw [if_pos hrequired, hrequired, ← mapM_valueKey_peeled hadmin,
        lacking_administrator hadmin]
      decide +kernel
    · rw [if_neg hrequired, mapM_valueKey_peeled hadmin]

theorem missingKeys_of_canBeTold (h : CanBeTold held required) :
    missingKeys held required = .ok ((shortfall held required).map bitKey) := by
  rw [missingKeys_eq, if_pos h]

/-- Nothing is missing exactly if the holder is an administrator or holds every required bit. -/
theorem missingKeys_eq_nil_iff :
    missingKeys held required = .ok [] ↔
      isAdministrator held = true ∨
        ∀ bit, required.testBit bit = true → held.testBit bit = true := by
  rw [← shortfall_eq_nil_iff]
  constructor
  · intro h
    rw [missingKeys_eq] at h
    split at h
    · exact List.map_eq_nil_iff.mp (Except.ok.inj h)
    · cases h
  · intro h
    have htold : CanBeTold held required := fun bit hbit => by
      rw [h] at hbit
      cases hbit
    rw [missingKeys_of_canBeTold htold, h, List.map_nil]

end ChatCommands.Permission
