import ChatCommands.Proofs.Permission.Nesting

/-!
# What a holder lacks

The keys that a holder misses name the set difference of what is required and what is held, bit by
bit in increasing order; an administrator misses nothing.  Whoever misses a bit whose value has too
many digits gets no keys at all.  As long as the bits that are missing have names, their keys stand
for exactly these bits, and whoever is granted them misses nothing more.

## Main results

* `Permission.missing_is_difference` : what is missing, bit by bit, and when it cannot be told.
* `Permission.granting_missing_suffices` : whoever is granted what is missing misses nothing.
-/

namespace ChatCommands.Permission

variable {held required bit : Nat}

/-! ### The difference -/

theorem permissionMembers_getElem? (h : bit < keys.length) :
    Value.permissionMembers[bit]? = some (writtenName (bitKey bit), .permissions (2 ^ bit)) := by
  rw [Value.permissionMembers, List.getElem?_map, List.getElem?_zipIdx,
    List.getElem?_eq_getElem h, Option.map_some, Option.map_some, Nat.zero_add, bitKey_of_lt h]
  rfl

theorem missing_eq {v w : Value} (hheld : resolve v = .ok held)
    (hrequired : resolve w = .ok required) :
    missing v w = if CanBeTold held required then .ok ((shortfall held required).map bitKey)
      else .error .unwritable := by
  rw [missing_of_resolve hheld, hrequired]
  exact missingKeys_eq held required

theorem missing_of_canBeTold {v w : Value} (hheld : resolve v = .ok held)
    (hrequired : resolve w = .ok required) (htold : CanBeTold held required) :
    missing v w = .ok ((shortfall held required).map bitKey) := by
  rw [missing_eq hheld hrequired, if_pos htold]

theorem canBeTold_iff :
    CanBeTold held required ↔ ∀ bit, isAdministrator held = false → required.testBit bit = true →
      held.testBit bit = false → 2 ^ bit < 10 ^ Digits.most := by
  have hwritable (bit : Nat) : bit < writableBits ↔ 2 ^ bit < 10 ^ Digits.most := by
    rw [← isWritable_two_pow_iff, isWritable_iff]
  simp only [CanBeTold, mem_shortfall, hwritable, and_imp]

/-- A number stands for itself, unless it has bits with names next to others that cannot be
written. -/
theorem resolve_natCast (n : Nat) :
    resolve (.int n) = if n % 2 ^ 41 = 0 ∨ n - n % 2 ^ 41 < 10 ^ Digits.most then .ok n
      else .error .unwritable := by
  have hnamed : isNameable n = true ↔ n % 2 ^ 41 = 0 ∨ n - n % 2 ^ 41 < 10 ^ Digits.most :=
    isNameable_iff.trans (or_congr_right isWritable_iff)
  rw [resolve_of_natCast rfl rfl, ofBits]
  simp only [hnamed]

/-- What a holder misses is the set difference, one key for each bit in increasing order: the
lower-case name of a named bit, and the decimal value of any other.  The case of the administrator
field is no exception to what the loop over the bits finds.  A bit that is missing and has more
digits than can be written is refused, together with all others. -/
theorem missing_is_difference {v w : Value} (hheld : resolve v = .ok held)
    (hrequired : resolve w = .ok required) :
    ((∀ bit, isAdministrator held = false → required.testBit bit = true →
        held.testBit bit = false → 2 ^ bit < 10 ^ Digits.most) →
      ∃ bits : List Nat, missing v w = .ok (bits.map bitKey) ∧ bits.Pairwise (· < ·) ∧
        (bits.map bitKey).Nodup ∧
        ∀ bit, bit ∈ bits ↔
          isAdministrator held = false ∧ required.testBit bit = true ∧ held.testBit bit = false) ∧
    (∀ bit, isAdministrator held = false → required.testBit bit = true →
      held.testBit bit = false → ¬ 2 ^ bit < 10 ^ Digits.most →
        missing v w = .error .unwritable) ∧
    (∀ bit < 41, ∃ name, Value.permissionMembers[bit]? = some (name, .permissions (2 ^ bit)) ∧
      bitKey bit = Text.lower name) ∧
    (∀ bit, 41 ≤ bit → bitKey bit = toString (2 ^ bit)) ∧
    (isAdministrator held = false →
      missing v w = (peeled (lacking held required)).mapM valueKey) ∧
    (missing v w = .ok [] ↔ isAdministrator held = true ∨
      ∀ bit, required.testBit bit = true → held.testBit bit = true) ∧
    (∀ n : Nat, resolve (.int n) =
      if n % 2 ^ 41 = 0 ∨ n - n % 2 ^ 41 < 10 ^ Digits.most then .ok n
      else .error .unwritable) := by
  have hmissing := missing_eq hheld hrequired
  refine ⟨fun htold => ⟨shortfall held required,
      missing_of_canBeTold hheld hrequired (canBeTold_iff.mpr htold), pairwise_shortfall _ _, ?_,
      fun _ => mem_shortfall⟩,
    fun bit hadmin hbit hlacks hwide => ?_, fun bit hbit => ?_, fun bit hbit => bitKey_of_le hbit,
    fun hadmin => ?_, ?_, resolve_natCast⟩
  · have hnodup : (shortfall held required).Nodup :=
      (pairwise_shortfall held required).imp fun h => h.ne
    exact hnodup.map bitKey_injective
  · rw [hmissing, if_neg fun htold => hwide (canBeTold_iff.mp htold bit hadmin hbit hlacks)]
  · exact ⟨_, permissionMembers_getElem? hbit, (lower_writtenName (bitKey_mem_keys hbit)).symm⟩
  · rw [hmissing, mapM_valueKey_peeled hadmin]
  · exact missing_eq_nil_iff hheld hrequired

/-- Who may kick and stream misses three of five bits, one of them without a name. -/
theorem missing_is_difference_streamer :
    resolve (.int 514) = .ok 514 ∧
      resolve (.int (2 ^ 50 + 774 : Nat)) = .ok (2 ^ 50 + 774) ∧
      missing (.int 514) (.int (2 ^ 50 + 774 : Nat)) =
        .ok ["ban_members", "priority_speaker", "1125899906842624"] ∧
      (missing (.int 514) (.int (2 ^ 50 + 774 : Nat)) = .ok [] ↔
        isAdministrator 514 = true ∨
          ∀ bit, (2 ^ 50 + 774).testBit bit = true → (514).testBit bit = true) := by
  have hsmall : 2 ^ 50 + 774 < 2 ^ (writableBits - 1) :=
    Nat.lt_trans (show 2 ^ 50 + 774 < 2 ^ 51 by decide)
      (Nat.pow_lt_pow_right Nat.one_lt_two (by decide))
  have hheld : resolve (.int 514) = .ok 514 := rfl
  have hrequired : resolve (.int (2 ^ 50 + 774 : Nat)) = .ok (2 ^ 50 + 774) :=
    resolve_of_isNarrow hsmall
  have h := missing_is_difference hheld hrequired
  refine ⟨hheld, hrequired, ?_, h.2.2.2.2.2.1⟩
  rw [h.2.2.2.2.1 (by decide)]
  decide +kernel

/-- Who holds nothing is not told about a bit whose value has more digits than can be written. -/
theorem missing_of_wide :
    resolve (.int (0 : Nat)) = .ok 0 ∧ resolve (.int (2 ^ 15000 : Nat)) = .ok (2 ^ 15000) ∧
      isAdministrator 0 = false ∧ (2 ^ 15000).testBit 15000 = true ∧
      (0).testBit 15000 = false ∧
      missing (.int (0 : Nat)) (.int (2 ^ 15000 : Nat)) = .error .unwritable := by
  have hdvd : 2 ^ 41 ∣ 2 ^ 15000 := Nat.pow_dvd_pow 2 (Nat.le_of_ble_eq_true rfl)
  have hmod : 2 ^ 15000 % 2 ^ 41 = 0 := Nat.mod_eq_zero_of_dvd hdvd
  have hheld : resolve (.int (0 : Nat)) = .ok 0 := by rw [resolve_natCast, if_pos (.inl rfl)]
  have hrequired : resolve (.int (2 ^ 15000 : Nat)) = .ok (2 ^ 15000) := by
    rw [resolve_natCast, if_pos (.inl hmod)]
  have hbit : (2 ^ 15000).testBit 15000 = true := Nat.testBit_two_pow_self
  have hlacks : (0).testBit 15000 = false := Nat.zero_testBit _
  have hadmin : isAdministrator 0 = false := Nat.zero_testBit _
  have htold : ¬ CanBeTold 0 (2 ^ 15000) := fun h =>
    absurd (h 15000 (mem_shortfall.mpr ⟨hadmin, hbit, hlacks⟩)) (by decide)
  refine ⟨hheld, hrequired, hadmin, hbit, hlacks, ?_⟩
  rw [missing_eq hheld hrequired, if_neg htold]

/-! ### Granting the shortfall -/

theorem leavesAll_texts (names : List String) :
    leavesAll (names.map Value.text) = names.map Value.text := by
  induction names with
  | nil => rfl
  | cons name rest ih =>
    rw [List.map_cons, leavesAll, ih]
    rfl

/-- The keys of named bits stand for these bits. -/
theorem resolve_keyTuple {bits : List Nat} (hnamed : ∀ bit ∈ bits, bit < keys.length) :
    ∃ granted, resolve (keyTuple (bits.map bitKey)) = .ok granted ∧
      ∀ bit, granted.testBit bit = true ↔ bit ∈ bits := by
  have hkey : ∀ bit ∈ bits, resolve (.text (bitKey bit)) = .ok (2 ^ bit) := fun bit hbit => by
    rw [resolve, ofKey_bitKey (hnamed bit hbit)]
  have hleaves : leaves (keyTuple (bits.map bitKey)) = (bits.map bitKey).map Value.text :=
    leavesAll_texts _
  simp only [List.map_map] at hleaves
  obtain ⟨granted, hgranted⟩ :
      ∃ granted, IsUnion granted (leaves (keyTuple (bits.map bitKey))) := by
    rw [hleaves]
    exact exists_isUnion (List.forall_mem_map.mpr fun bit hbit => ⟨_, hkey bit hbit⟩)
  have hbits (bit : Nat) : granted.testBit bit = true ↔ bit ∈ bits := by
    rw [hgranted.bits, hleaves]
    constructor
    · rintro ⟨v, hv, n, hn, htest⟩
      obtain ⟨other, hother, rfl⟩ := List.mem_map.mp hv
      cases (hkey other hother).symm.trans hn
      rw [Nat.testBit_two_pow, decide_eq_true_eq] at htest
      exact htest ▸ hother
    · exact fun hbit =>
        ⟨_, List.mem_map_of_mem hbit, _, hkey bit hbit, Nat.testBit_two_pow_self⟩
  have hlt : granted < 2 ^ keys.length := Nat.lt_pow_two_of_testBit granted fun bit hle => by
    by_contra htest
    exact absurd (hnamed bit ((hbits bit).mp (Bool.not_eq_false _ ▸ htest))) (Nat.not_lt.mpr hle)
  exact ⟨granted, (resolve_of_isUnion hgranted).trans (isNarrow_of_lt hlt).ofBits, hbits⟩

/-- The keys of what is missing, as long as all of it has names, stand for what is required and not
held, nothing in the case of an administrator; whoever is granted that misses nothing. -/
theorem granting_missing_suffices {v w : Value} (hheld : resolve v = .ok held)
    (hrequired : resolve w = .ok required)
    (hnamed : ∀ bit, required.testBit bit = true → held.testBit bit = false → bit < 41) :
    ∃ names granted, missing v w = .ok names ∧ resolve (keyTuple names) = .ok granted ∧
      (∀ bit, granted.testBit bit =
        (!isAdministrator held && (required.testBit bit && !held.testBit bit))) ∧
      (isAdministrator held = true → granted = 0) ∧
      ∀ u, resolve u = .ok (held ||| granted) → missing u w = .ok [] := by
  have hbits : ∀ bit ∈ shortfall held required, bit < keys.length := fun bit hbit =>
    have h := mem_shortfall.mp hbit
    hnamed bit h.2.1 h.2.2
  have htold : CanBeTold held required := fun bit hbit =>
    Nat.lt_trans (hbits bit hbit) (by decide)
  obtain ⟨granted, hresolve, hmem⟩ := resolve_keyTuple hbits
  have hgranted : ∀ bit, granted.testBit bit =
      (!isAdministrator held && (required.testBit bit && !held.testBit bit)) := by
    intro bit
    rw [Bool.eq_iff_iff, hmem, mem_shortfall]
    simp only [Bool.and_eq_true, Bool.not_eq_true']
  refine ⟨_, granted, missing_of_canBeTold hheld hrequired htold, hresolve, hgranted,
    fun hadmin => ?_, fun u hu => ?_⟩
  · refine Nat.eq_of_testBit_eq fun bit => ?_
    rw [hgranted, hadmin, Nat.zero_testBit]
    rfl
  · refine (missing_eq_nil_iff hu hrequired).mpr ?_
    by_cases hadmin : isAdministrator held = true
    · exact .inl (by rw [isAdministrator, Nat.testBit_or, show held.testBit _ = true from hadmin,
        Bool.true_or])
    · refine .inr fun bit hbit => ?_
      rw [Nat.testBit_or, hgranted, hbit, Bool.eq_false_iff.mpr hadmin]
      cases held.testBit bit <;> rfl

/-- Who may kick and stream, and is granted to ban and to speak with priority, misses nothing
more. -/
theorem granting_missing_suffices_streamer :
    resolve (.int 514) = .ok 514 ∧ resolve (.int 774) = .ok 774 ∧
      (∀ bit, (774).testBit bit = true → (514).testBit bit = false → bit < 41) ∧
      missing (.int 514) (.int 774) = .ok ["ban_members", "priority_speaker"] ∧
      resolve (keyTuple ["ban_members", "priority_speaker"]) = .ok 260 ∧
      missing (.int (514 ||| 260 : Nat)) (.int 774) = .ok [] := by
  have hheld : resolve (.int 514) = .ok 514 := rfl
  have hrequired : resolve (.int 774) = .ok 774 := rfl
  have hnamed : ∀ bit, (774).testBit bit = true → (514).testBit bit = false → bit < 41 := by
    intro bit hbit _
    have hlt : 2 ^ bit < 2 ^ 10 := (Nat.ge_two_pow_of_testBit hbit).trans_lt (by decide)
    have := (Nat.pow_lt_pow_iff_right Nat.one_lt_two).mp hlt
    omega
  obtain ⟨names, granted, hnames, hgranted, -, -, hfull⟩ :=
    granting_missing_suffices hheld hrequired hnamed
  have hkeys : missing (.int 514) (.int 774) = .ok ["ban_members", "priority_speaker"] := by
    decide +kernel
  cases hnames.symm.trans hkeys
  have hbits : resolve (keyTuple ["ban_members", "priority_speaker"]) = .ok 260 := by
    decide +kernel
  cases hgranted.symm.trans hbits
  have hgrant : resolve (.int (514 ||| 260 : Nat)) = .ok (514 ||| 260) := rfl
  exact ⟨hheld, hrequired, hnamed, hkeys, hbits, hfull _ hgrant⟩

end ChatCommands.Permission
