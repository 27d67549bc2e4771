/-!
# Masks of fields

A field is masked by an integer of any sign.  A negative integer stands, in two's complement, for
all bits but those of the natural number below its magnitude.  A field and its negative share
exactly one bit, the lowest one that is set, so that the bits of a field can be taken off one after
another.

## Main definitions

* `Permission.masked` : the bits that a field shares with an integer.
* `Permission.lowestBit` : the lowest bit of a field.
* `Permission.peeled` : the bits of a field, taken off from the lowest up.
-/

namespace ChatCommands.Permission

/-- The bits of a field that another field does not have. -/
def cleared (field other : Nat) : Nat :=
  field ^^^ (field &&& other)

/-- The bits that a field shares with an integer. -/
def masked (field : Nat) : Int → Nat
  | .ofNat mask => field &&& mask
  | .negSucc absent => cleared field absent

/-- The lowest bit of a field, by its value. -/
def lowestBit (field : Nat) : Nat :=
  masked field (-field)

/-- A field without its lowest bit is smaller. -/
theorem xor_lowestBit_lt {field : Nat} (h : field ≠ 0) : field ^^^ lowestBit field < field := by
  obtain ⟨n, rfl⟩ := Nat.exists_eq_succ_of_ne_zero h
  have hrest : n.succ ^^^ lowestBit n.succ = n.succ &&& n := by
    change n.succ ^^^ (n.succ ^^^ (n.succ &&& n)) = _
    rw [← Nat.xor_assoc, Nat.xor_self, Nat.zero_xor]
  rw [hrest]
  exact Nat.lt_succ_of_le Nat.and_le_right

/-- The bits of a field by their values, each taken off as the lowest one of what is left. -/
@[semireducible] def peeled (field : Nat) : List Nat :=
  if field = 0 then []
  else lowestBit field :: peeled (field ^^^ lowestBit field)
termination_by field
decreasing_by exact xor_lowestBit_lt ‹_›

end ChatCommands.Permission
