import ChatCommands.Proofs.Dispatch.Stage
import ChatCommands.Proofs.Permission.Shortfall

/-!
# Requirements that can be decided

The check of command trees asks a requirement for its kind only, an integer that is no truth
value, while the gate also asks for its range.  A well-formed node can therefore require a
negative field, and a message that reaches it is neither blocked nor let through: the gate fails.
All other requirements of well-formed nodes are decided, as long as the numbers that the gate
writes do not have too many digits.

## Main definitions

* `Permission.AreWithinLimit` : two fields that can be compared within the limit on digits.

## Main results

* `Permission.resolve_of_isField` : the field that an integer stands for.
* `Permission.missing_of_fields` : the comparison of two fields.
* `Permission.exists_missing_iff` : what is held can be compared with exactly those fields that are
  not negative and within the limit.
* `blocks_decided_iff` : the permission stage of a well-formed node decides exactly if its
  requirement is not negative and within the limit.
-/

namespace ChatCommands

namespace Permission

/-- The field that an integer stands for. -/
theorem resolve_of_isField {v : Value} (hfield : v.isField = true) {n : Int}
    (hn : v.integer? = some n) : resolve v = ofField n := by
  cases v <;> simp only [Value.integer?, reduceCtorEq, Option.some.injEq] at hn
  case bool b => cases b <;> cases hfield
  all_goals
    subst hn
    simp only [resolve, ofNumber, Value.integer?]

theorem exists_integer_of_isField {v : Value} (hfield : v.isField = true) :
    ∃ n, v.integer? = some n := by
  rw [Value.isField, Bool.and_eq_true] at hfield
  exact Option.isSome_iff_exists.mp hfield.1

theorem exists_integer_of_isBitField {v : Value} (h : v.IsBitField) :
    ∃ n : Nat, v.integer? = some (n : Int) := by
  obtain ⟨n, hn⟩ := exists_integer_of_isField h.isField
  exact ⟨n.toNat, by rw [hn, Int.toNat_of_nonneg (h.nonneg n hn)]⟩

theorem resolve_of_natCast {v : Value} (hfield : v.isField = true) {n : Nat}
    (hn : v.integer? = some (n : Int)) : resolve v = ofBits n := by
  rw [resolve_of_isField hfield hn, ofField, if_neg (by omega), Int.toNat_natCast]

/-- A number with narrow bits stands for them. -/
theorem resolve_of_isNarrow {n : Nat} (hn : IsNarrow n) : resolve (.int n) = .ok n :=
  (resolve_of_natCast rfl rfl).trans hn.ofBits

theorem resolve_of_negative {v : Value} (hfield : v.isField = true) {n : Int}
    (hn : v.integer? = some n) (hneg : n < 0) : resolve v = .error (.negativePermissions n) := by
  rw [resolve_of_isField hfield hn, ofField, if_pos hneg]

/-! ### The comparison of two fields -/

/-- Two fields that can be compared within the limit on digits: both can be named, and so can all
that the holder misses. -/
def AreWithinLimit (held required : Value) : Prop :=
  ∀ n k : Nat, held.integer? = some (n : Int) → required.integer? = some (k : Int) →
    isNameable n = true ∧ isNameable k = true ∧ CanBeTold n k

theorem missing_of_resolve {held : Value} {field : Nat} (h : resolve held = .ok field)
    (required : Value) : missing held required = resolve required >>= missingKeys field := by
  rw [missing, h]
  rfl

/-- Nothing is missing exactly if the holder is an administrator or holds every required bit. -/
theorem missing_eq_nil_iff {held required : Value} {field wanted : Nat}
    (hheld : resolve held = .ok field) (hrequired : resolve required = .ok wanted) :
    missing held required = .ok [] ↔ isAdministrator field = true ∨
      ∀ bit, wanted.testBit bit = true → field.testBit bit = true := by
  rw [missing_of_resolve hheld, hrequired]
  exact missingKeys_eq_nil_iff

section Fields

variable {held required : Value} {n : Nat} (hheld : held.IsBitField)
  (hn : held.integer? = some (n : Int)) (hfield : required.isField = true)

include hheld hn hfield

theorem missing_of_fields {k : Nat} (hk : required.integer? = some (k : Int)) :
    missing held required = if isNameable n = true ∧ isNameable k = true ∧ CanBeTold n k
      then .ok ((shortfall n k).map bitKey) else .error .unwritable := by
  rw [missing, resolve_of_natCast hheld.isField hn, resolve_of_natCast hfield hk]
  by_cases hnamed : isNameable n = true
  · by_cases hnamed' : isNameable k = true
    · rw [ofBits_of_isNameable hnamed, ofBits_of_isNameable hnamed']
      refine (missingKeys_eq n k).trans ?_
      simp only [hnamed, hnamed', true_and]
    · rw [ofBits_of_isNameable hnamed, ofBits_of_not_isNameable hnamed',
        if_neg fun h => hnamed' h.2.1]
      rfl
  · rw [ofBits_of_not_isNameable hnamed, if_neg (mt And.left hnamed)]
    rfl

/-- A negative requirement is refused, unless what is held cannot be named. -/
theorem missing_of_negative {k : Int} (hk : required.integer? = some k) (hneg : k < 0) :
    missing held required =
      .error (if isNameable n then .negativePermissions k else .unwritable) := by
  rw [missing, resolve_of_natCast hheld.isField hn, resolve_of_negative hfield hk hneg, ofBits]
  cases isNameable n <;> rfl

end Fields

theorem areWithinLimit_iff {held required : Value} {n k : Nat} (hn : held.integer? = some (n : Int))
    (hk : required.integer? = some (k : Int)) :
    AreWithinLimit held required ↔ isNameable n = true ∧ isNameable k = true ∧ CanBeTold n k := by
  refine ⟨fun h => h n k hn hk, fun h n' k' hn' hk' => ?_⟩
  cases Int.ofNat.inj (Option.some.inj (hn.symm.trans hn'))
  cases Int.ofNat.inj (Option.some.inj (hk.symm.trans hk'))
  exact h

section Comparison

variable {held required : Value} (hheld : held.IsBitField)

include hheld

theorem exists_missing (hrequired : required.IsBitField) (hlimit : AreWithinLimit held required) :
    ∃ keys, missing held required = .ok keys := by
  obtain ⟨n, hn⟩ := exists_integer_of_isBitField hheld
  obtain ⟨k, hk⟩ := exists_integer_of_isBitField hrequired
  rw [missing_of_fields hheld hn hrequired.isField hk, if_pos (hlimit n k hn hk)]
  exact ⟨_, rfl⟩

theorem missing_of_not_areWithinLimit (hrequired : required.IsBitField)
    (hlimit : ¬ AreWithinLimit held required) : missing held required = .error .unwritable := by
  obtain ⟨n, hn⟩ := exists_integer_of_isBitField hheld
  obtain ⟨k, hk⟩ := exists_integer_of_isBitField hrequired
  rw [areWithinLimit_iff hn hk] at hlimit
  rw [missing_of_fields hheld hn hrequired.isField hk, if_neg hlimit]

/-- What is held can be compared with exactly those fields that are not negative and within the
limit. -/
theorem exists_missing_iff (hfield : required.isField = true) :
    (∃ keys, missing held required = .ok keys) ↔
      required.IsBitField ∧ AreWithinLimit held required := by
  refine ⟨fun ⟨keys, hkeys⟩ => ?_, fun h => exists_missing hheld h.1 h.2⟩
  obtain ⟨n, hn⟩ := exists_integer_of_isBitField hheld
  have hrequired : required.IsBitField := ⟨hfield, fun k hk => by
    by_contra hneg
    rw [missing_of_negative hheld hn hfield hk (Int.not_le.mp hneg)] at hkeys
    cases hkeys⟩
  refine ⟨hrequired, ?_⟩
  by_contra hlimit
  rw [missing_of_not_areWithinLimit hheld hrequired hlimit] at hkeys
  cases hkeys

end Comparison

/-- Fields that are narrow are within the limit. -/
theorem areWithinLimit_of_isNarrow {held required : Value}
    (hheld : ∀ n : Nat, held.integer? = some (n : Int) → IsNarrow n)
    (hrequired : ∀ n : Nat, required.integer? = some (n : Int) → IsNarrow n) :
    AreWithinLimit held required :=
  fun n k hn hk =>
    ⟨(hheld n hn).isNameable, (hrequired k hk).isNameable, (hrequired k hk).canBeTold⟩

theorem areWithinLimit_int (n k : Nat) (hn : n < 2 ^ keys.length) (hk : k < 2 ^ keys.length) :
    AreWithinLimit (.int n) (.int k) :=
  areWithinLimit_of_isNarrow
    (fun _ h => Int.ofNat.inj (Option.some.inj h) ▸ isNarrow_of_lt hn)
    fun _ h => Int.ofNat.inj (Option.some.inj h) ▸ isNarrow_of_lt hk

end Permission

section Stage

variable {E : Engine} {m : Message} {l : Locale} {c : Command}

/-- A stage whose requirement is not negative and within the limit is decided. -/
theorem exists_blocks_of_isBitField (hheld : (m.held c.channel.isTruthy).IsBitField)
    (hrequired : c.permissions.isNull = true ∨ c.permissions.IsBitField)
    (hlimit : Permission.AreWithinLimit (m.held c.channel.isTruthy) c.permissions)
    (hl : l.Formats m.channel) : ∃ b, (blocks E m l c).outcome = .ok b := by
  by_cases hnull : c.permissions.isNull = true
  · rw [blocks_of_isNull hnull]
    exact ⟨false, rfl⟩
  · obtain ⟨keys, hkeys⟩ :=
      Permission.exists_missing hheld (hrequired.resolve_left hnull) hlimit
    rw [blocks_eq_gate hnull]
    exact ⟨_, Permission.outcome_gate_of_missing hl hkeys⟩

/-- The permission stage of a well-formed node decides whether a message is blocked exactly if the
requirement of the node is not negative and can be compared within the limit on digits; any other
one is refused before anything happens. -/
theorem blocks_decided_iff (E : Engine) (m : Message) (l : Locale) {table : Converters} {v : Value}
    (hvalid : isValid table v = true) {c : Command} (hc : c ∈ nodes v)
    (hnull : ¬ c.permissions.isNull = true) (hheld : (m.held c.channel.isTruthy).IsBitField) :
    ((∃ keys, Permission.missing (m.held c.channel.isTruthy) c.permissions = .ok keys) ↔
      c.permissions.IsBitField ∧
        Permission.AreWithinLimit (m.held c.channel.isTruthy) c.permissions) ∧
    (l.Formats m.channel →
      ((∃ b, (blocks E m l c).outcome = .ok b) ↔ c.permissions.IsBitField ∧
        Permission.AreWithinLimit (m.held c.channel.isTruthy) c.permissions)) ∧
    (¬ c.permissions.IsBitField → ∃ n < 0, c.permissions.integer? = some n ∧
      ∀ held : Nat, (m.held c.channel.isTruthy).integer? = some (held : Int) →
        blocks E m l c = Run.fail (.refusal
          (if Permission.isNameable held then .negativePermissions n else .unwritable))) ∧
    (c.permissions.IsBitField →
      ¬ Permission.AreWithinLimit (m.held c.channel.isTruthy) c.permissions →
        blocks E m l c = Run.fail (.refusal .unwritable)) := by
  have hfield : c.permissions.isField = true :=
    Value.of_isNullOr (isWellFormed_of_mem_nodes hvalid c hc).required hnull
  have hdecided := Permission.exists_missing_iff hheld hfield
  refine ⟨hdecided,
    fun hl => ⟨fun ⟨b, hb⟩ => ?_, fun h => exists_blocks_of_isBitField hheld (.inr h.1) h.2 hl⟩,
    fun hneg => ?_, fun hrequired hlimit => ?_⟩
  · -- A gate that cannot compare fails.
    rw [← hdecided]
    cases hmissing : Permission.missing (m.held c.channel.isTruthy) c.permissions with
    | ok keys => exact ⟨keys, rfl⟩
    | error e =>
      rw [blocks_eq_gate hnull, Permission.gate_of_error hmissing] at hb
      cases hb
  · obtain ⟨n, hn⟩ := Permission.exists_integer_of_isField hfield
    have hlt : n < 0 := by
      by_contra hle
      refine hneg ⟨hfield, fun k hk => ?_⟩
      cases hn.symm.trans hk
      exact Int.not_lt.mp hle
    refine ⟨n, hlt, hn, fun held hnumber => ?_⟩
    rw [blocks_eq_gate hnull]
    exact Permission.gate_of_error (Permission.missing_of_negative hheld hnumber hfield hn hlt)
  · rw [blocks_eq_gate hnull]
    exact Permission.gate_of_error (Permission.missing_of_not_areWithinLimit hheld hrequired hlimit)

theorem isBitField_int (n : Nat) : (Value.int n).IsBitField where
  isField := rfl
  nonneg k hk := by
    cases hk
    exact Int.natCast_nonneg n

/-- A command that requires a negative field. -/
def negativeKick : Command :=
  ⟨0, .text "kick", .null, .int (-1), .bool false, .null, .null, .null,
    .callable (.routine "kick")⟩

/-- An administrator. -/
def administrator : Message :=
  ⟨.text "kick", .text "bea", false, .int 8, .int 8, .text "hall"⟩

/-- An engine whose callables do nothing. -/
def idle : Engine :=
  ⟨Host.bare, Converters.standard, fun _ _ _ _ _ => Run.done .null⟩

/-- A tree with a negative requirement is well formed, and even an administrator fails at it. -/
theorem blocks_decided_negativeKick :
    isValid Converters.standard (.command negativeKick) = true ∧
    negativeKick ∈ nodes (.command negativeKick) ∧ ¬ negativeKick.permissions.isNull = true ∧
    (administrator.held false).IsBitField ∧
    blocks idle administrator Locale.english negativeKick =
      Run.fail (.refusal (.negativePermissions (-1))) := by
  have hvalid : isValid Converters.standard (.command negativeKick) = true := by decide
  have hmem : negativeKick ∈ nodes (.command negativeKick) := by
    rw [nodes_command]
    exact List.mem_cons_self
  have hnull : ¬ negativeKick.permissions.isNull = true := nofun
  have hheld : (administrator.held negativeKick.channel.isTruthy).IsBitField := isBitField_int 8
  have hneg : ¬ negativeKick.permissions.IsBitField :=
    fun h => absurd (h.nonneg (-1) rfl) (by decide)
  obtain ⟨n, -, hn, hfail⟩ :=
    (blocks_decided_iff idle administrator Locale.english hvalid hmem hnull hheld).2.2.1 hneg
  cases hn
  exact ⟨hvalid, hmem, hnull, hheld, hfail 8 rfl⟩

end Stage

end ChatCommands
