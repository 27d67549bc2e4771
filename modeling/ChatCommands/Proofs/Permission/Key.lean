import ChatCommands.Permission.Requirement
import ChatCommands.Proofs.Text.Dotted
import Mathlib.Algebra.Group.Nat.Defs
import Mathlib.Data.List.Nodup

/-!
# Keys of permissions

A named bit has the lower-case form of the name of its permission as its key, every other bit the
decimal value of the bit, which has too many digits to be written from some bit on.  No two bits
have the same key, and the key of a named bit leads back to the bit, in any letter case.

## Main definitions

* `Permission.isKeyLetter` : the characters of keys.
* `Permission.writableBits` : the number of bits whose values can be written.

## Main results

* `Permission.lower_writtenName` : keys are the lower case of names.
* `Permission.isWritable_two_pow_iff` : the bits whose values can be written.
* `Permission.valueKey_two_pow` : the key of the value of a bit is the key of the bit, unless the
  value has too many digits.
* `Permission.bitKey_injective` : no two bits have the same key.
* `Permission.ofKey_bitKey` : the key of a named bit stands for that bit.
* `Permission.dotted_bitKey` : keys have no dots.
-/

namespace ChatCommands.Permission

variable {bit : Nat}

/-! ### The table of keys -/

/-- The characters of keys: small letters and the underscore. -/
def isKeyLetter (c : Char) : Bool :=
  c.isLower || c = '_'

theorem nodup_keys : keys.Nodup := by
  decide +kernel

/-- Keys are words of key letters. -/
theorem isKeyLetter_of_mem_keys {key : String} (h : key ∈ keys) :
    key.toList ≠ [] ∧ ∀ c ∈ key.toList, isKeyLetter c = true := by
  have hall : (keys.all fun key => !key.toList.isEmpty && key.toList.all isKeyLetter) = true := by
    decide +kernel
  have hkey := List.all_eq_true.mp hall key h
  rwa [Bool.and_eq_true, Bool.not_eq_true', List.isEmpty_eq_false_iff, List.all_eq_true] at hkey

/-- A letter of a key is the lower case of its upper case, and neither a dot nor a digit. -/
theorem of_isKeyLetter {c : Char} (h : isKeyLetter c = true) :
    (∃ d, Text.upperChar c = [d] ∧ ∀ before after, Text.lowerInContext before d after = [c]) ∧
      c ≠ '.' ∧ c.isDigit = false := by
  have hcode : ∀ n < 123, isKeyLetter (Char.ofNat n) = true →
      Text.upperChar (Char.ofNat n) = [(Char.ofNat n).toUpper] ∧
        (Char.ofNat n).toUpper.toNat ≠ 0x3a3 ∧
        Text.lowerChar (Char.ofNat n).toUpper = [Char.ofNat n] ∧
        Char.ofNat n ≠ '.' ∧ (Char.ofNat n).isDigit = false := by
    decide +kernel
  have hlt : c.toNat < 123 := by
    rcases Bool.or_eq_true_iff.mp h with hlower | hunder
    · have := (Bool.and_eq_true_iff.mp hlower).2
      exact Nat.lt_succ_of_le (UInt32.le_iff_toNat_le.mp (of_decide_eq_true this))
    · rw [of_decide_eq_true hunder]
      decide
  rw [← Char.ofNat_toNat c] at h ⊢
  obtain ⟨hupper, hsigma, hlower, hdot, hdigit⟩ := hcode c.toNat hlt h
  refine ⟨⟨_, hupper, fun before after => ?_⟩, hdot, hdigit⟩
  rw [Text.lowerInContext, if_neg hsigma, hlower]

theorem lowerFrom_upper {chars : List Char} (h : ∀ c ∈ chars, isKeyLetter c = true)
    (before : List Char) : Text.lowerFrom before (chars.flatMap Text.upperChar) = chars := by
  induction chars generalizing before with
  | nil => rfl
  | cons c rest ih =>
    obtain ⟨hc, hrest⟩ := List.forall_mem_cons.mp h
    obtain ⟨⟨d, hupper, hlower⟩, -⟩ := of_isKeyLetter hc
    rw [List.flatMap_cons, hupper, List.singleton_append, Text.lowerFrom, hlower, ih hrest,
      List.singleton_append]

/-- Keys are the lower case of the names of permissions. -/
theorem lower_writtenName {key : String} (h : key ∈ keys) :
    Text.lower (writtenName key) = key := by
  rw [Text.lower, writtenName, Text.upper, String.toList_ofList,
    lowerFrom_upper (isKeyLetter_of_mem_keys h).2, String.ofList_toList]

/-! ### The key of a bit -/

theorem bitKey_of_lt (h : bit < keys.length) : bitKey bit = keys[bit] := by
  rw [bitKey, List.getElem?_eq_getElem h]

theorem bitKey_of_le (h : keys.length ≤ bit) : bitKey bit = toString (2 ^ bit) := by
  rw [bitKey, List.getElem?_eq_none h]
  rfl

theorem lookup_zipIdx (names : List String) (first bit : Nat) :
    ((names.zipIdx first).map fun (key, i) => (Nat.pow 2 i, key)).lookup (2 ^ (first + bit)) =
      names[bit]? := by
  induction names generalizing first bit with
  | nil => rfl
  | cons name rest ih =>
    rw [List.zipIdx_cons, List.map_cons, List.lookup_cons]
    cases bit with
    | zero => simp
    | succ bit =>
      have hne : (2 ^ (first + (bit + 1)) == Nat.pow 2 first) = false := by
        rw [beq_eq_false_iff_ne]
        intro heq
        have := (Nat.pow_right_inj Nat.one_lt_two).mp heq
        omega
      have hnext : first + (bit + 1) = first + 1 + bit := by omega
      rw [hne, hnext, ih, List.getElem?_cons_succ]

theorem getD_lookup_valueKeys (bit : Nat) :
    (valueKeys.lookup (2 ^ bit)).getD (toString (2 ^ bit)) = bitKey bit := by
  have hlookup := lookup_zipIdx keys 0 bit
  rw [Nat.zero_add] at hlookup
  rw [valueKeys, hlookup, bitKey]
  cases keys[bit]? <;> rfl

/-! ### Bits that can be written -/

/-- The number of bits whose values can be written. -/
def writableBits : Nat := 14285

theorem isWritable_iff {n : Nat} : Digits.isWritable n = true ↔ n < 10 ^ Digits.most :=
  decide_eq_true_iff

theorem isWritable_of_le {m n : Nat} (hle : m ≤ n) (h : Digits.isWritable n = true) :
    Digits.isWritable m = true :=
  decide_eq_true (Nat.lt_of_le_of_lt hle (of_decide_eq_true h))

/-- The value of a bit has few enough digits below some bit, and too many from there on. -/
theorem isWritable_two_pow_iff : Digits.isWritable (2 ^ bit) = true ↔ bit < writableBits := by
  have hlast : Digits.isWritable (2 ^ (writableBits - 1)) = true := by decide +kernel
  have hnext : ¬ Digits.isWritable (2 ^ writableBits) = true := by decide +kernel
  constructor
  · intro hbit
    by_contra hle
    exact hnext (isWritable_of_le (Nat.pow_le_pow_right Nat.two_pos (Nat.not_lt.mp hle)) hbit)
  · intro hlt
    exact isWritable_of_le (Nat.pow_le_pow_right Nat.two_pos (Nat.le_sub_one_of_lt hlt)) hlast

/-- The key of the value of a bit is the key of the bit, unless the value has too many digits. -/
theorem valueKey_two_pow (bit : Nat) :
    valueKey (2 ^ bit) = if bit < writableBits then .ok (bitKey bit) else .error .unwritable := by
  by_cases hbit : bit < writableBits
  · rw [if_pos hbit, valueKey, decimal, if_pos (isWritable_two_pow_iff.mpr hbit)]
    exact congrArg Except.ok (getD_lookup_valueKeys bit)
  · rw [if_neg hbit, valueKey, decimal, if_neg (mt isWritable_two_pow_iff.mp hbit)]
    rfl

/-! ### Texts of keys -/

theorem toList_toString (n : Nat) : (toString n).toList = Nat.toDigits 10 n := by
  exact String.toList_ofList

theorem toString_injective : Function.Injective (toString : Nat → String) := by
  intro m n h
  have hdigits : Nat.toDigits 10 m = Nat.toDigits 10 n := by
    rw [← toList_toString, ← toList_toString, h]
  rw [← Nat.ofDigitChars_ten_toDigits (n := m), hdigits, Nat.ofDigitChars_ten_toDigits]

theorem isDigit_of_mem_toString {n : Nat} {c : Char} (h : c ∈ (toString n).toList) :
    c.isDigit = true := by
  rw [toList_toString] at h
  exact Nat.isDigit_of_mem_toDigits (by decide) (by decide) h

/-- No key is written in digits. -/
theorem toString_not_mem_keys (n : Nat) : toString n ∉ keys := by
  intro h
  obtain ⟨hne, hletters⟩ := isKeyLetter_of_mem_keys h
  obtain ⟨c, hc⟩ := List.exists_mem_of_ne_nil _ hne
  have hdigit := (of_isKeyLetter (hletters c hc)).2.2
  rw [isDigit_of_mem_toString hc] at hdigit
  cases hdigit

theorem bitKey_mem_keys (h : bit < keys.length) : bitKey bit ∈ keys := by
  rw [bitKey_of_lt h]
  exact List.getElem_mem h

theorem bitKey_mem_keys_iff : bitKey bit ∈ keys ↔ bit < keys.length := by
  refine ⟨fun h => ?_, bitKey_mem_keys⟩
  by_contra hle
  rw [bitKey_of_le (Nat.not_lt.mp hle)] at h
  exact toString_not_mem_keys _ h

/-- No two bits have the same key. -/
theorem bitKey_injective : Function.Injective bitKey := by
  intro a b h
  by_cases ha : a < keys.length
  · have hb : b < keys.length := bitKey_mem_keys_iff.mp (h ▸ bitKey_mem_keys ha)
    rw [bitKey_of_lt ha, bitKey_of_lt hb] at h
    exact nodup_keys.getElem_inj_iff.mp h
  · have hb : ¬ b < keys.length := fun hb => ha (bitKey_mem_keys_iff.mp (h ▸ bitKey_mem_keys hb))
    rw [bitKey_of_le (Nat.not_lt.mp ha), bitKey_of_le (Nat.not_lt.mp hb)] at h
    exact (Nat.pow_right_inj Nat.one_lt_two).mp (toString_injective h)

/-- Keys have no dots. -/
theorem dotted_bitKey (bit : Nat) : Text.dotted (bitKey bit) = [bitKey bit] := by
  refine Text.dotted_of_not_mem ?_
  by_cases h : bit < keys.length
  · have hletters := (isKeyLetter_of_mem_keys (bitKey_mem_keys h)).2
    exact fun hdot => (of_isKeyLetter (hletters '.' hdot)).2.1 rfl
  · rw [bitKey_of_le (Nat.not_lt.mp h)]
    exact fun hdot => absurd (isDigit_of_mem_toString hdot) (by decide)

/-! ### Back to the bit -/

/-- The key of a named bit names that bit. -/
theorem bitOfKey?_bitKey (h : bit < keys.length) : bitOfKey? (bitKey bit) = some bit := by
  rw [bitKey_of_lt h, bitOfKey?, List.findIdx?_eq_some_iff_getElem]
  refine ⟨h, decide_eq_true rfl, fun other hother => ?_⟩
  rw [decide_eq_true_eq]
  intro hsame
  have hlt : other < keys.length := Nat.lt_trans hother h
  have hkeys : keys[other] = keys[bit] := by
    rw [← lower_writtenName (List.getElem_mem hlt), hsame]
    exact lower_writtenName (List.getElem_mem h)
  exact absurd (nodup_keys.getElem_inj_iff.mp hkeys) (Nat.ne_of_lt hother)

/-- The key of a named bit stands for that bit. -/
theorem ofKey_bitKey (h : bit < keys.length) : ofKey (bitKey bit) = .ok (2 ^ bit) := by
  rw [ofKey, bitOfKey?_bitKey h]
  rfl

end ChatCommands.Permission
