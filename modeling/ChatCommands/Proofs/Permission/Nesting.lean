import ChatCommands.Proofs.Permission.Decision
import Mathlib.Algebra.Group.Nat.Defs

/-!
# Nested requirements

Lists and tuples of permissions stand for the permissions of all their items, at every depth.  What
such a value stands for is therefore decided by its leaves: the union of their fields, whatever
their order, number and grouping, or the refusal of the first leaf that stands for nothing.  A union
that cannot be named is refused as well, which does not happen to narrow fields.

## Main definitions

* `Permission.leaves` : the leaves of a nested value, from left to right.
* `Permission.IsUnion` : the union of the fields of some values.
* `Permission.Reads` : what a leaf stands for, or why it stands for nothing.
* `Permission.HasNarrowLeaves` : a value with narrow fields only.

## Main results

* `Permission.resolve_of_isUnion` : a value stands for the union of its leaves.
* `Permission.resolve_of_leaf_error` : it is refused for the first leaf that stands for nothing.
* `Permission.reads_iff` : a leaf that is no collection stands for one thing.
* `Permission.resolve_unites_leaves` : the field of a nested value is the union of its leaves.
-/

namespace ChatCommands.Permission

/-! ### Leaves -/

mutual

/-- The leaves of a nested value, from left to right. -/
def leaves : Value → List Value
  | .list items => leavesAll items
  | .tuple items => leavesAll items
  | v => [v]

/-- The leaves of several values. -/
def leavesAll : List Value → List Value
  | [] => []
  | v :: rest => leaves v ++ leavesAll rest

end

theorem leavesAll_append (vs ws : List Value) :
    leavesAll (vs ++ ws) = leavesAll vs ++ leavesAll ws := by
  induction vs with
  | nil => rfl
  | cons v rest ih => rw [List.cons_append, leavesAll, leavesAll, ih, List.append_assoc]

/-! ### Unions of fields -/

/-- A field is the union of the fields of some values, all of which stand for a field. -/
structure IsUnion (field : Nat) (vs : List Value) : Prop where
  resolves : ∀ v ∈ vs, ∃ n, resolve v = .ok n
  bits : ∀ bit, field.testBit bit = true ↔
    ∃ v ∈ vs, ∃ n, resolve v = .ok n ∧ n.testBit bit = true

namespace IsUnion

variable {field other : Nat} {v : Value} {vs ws : List Value}

theorem nil : IsUnion 0 [] where
  resolves := nofun
  bits bit := by simp

theorem singleton {n : Nat} (h : resolve v = .ok n) : IsUnion n [v] where
  resolves w hw := ⟨n, List.mem_singleton.mp hw ▸ h⟩
  bits bit := by simp [h]

theorem append (h : IsUnion field vs) (h' : IsUnion other ws) :
    IsUnion (field ||| other) (vs ++ ws) where
  resolves v hv := (List.mem_append.mp hv).elim (h.resolves v) (h'.resolves v)
  bits bit := by
    simp only [Nat.testBit_or, Bool.or_eq_true, h.bits, h'.bits, List.mem_append, or_and_right,
      exists_or]

/-- Some values have one union. -/
theorem unique (h : IsUnion field vs) (h' : IsUnion other vs) : field = other :=
  Nat.eq_of_testBit_eq fun bit => Bool.eq_iff_iff.mpr ((h.bits bit).trans (h'.bits bit).symm)

/-- Neither the order nor the number of the values matters. -/
theorem of_mem_iff (h : IsUnion field vs) (hsame : ∀ v, v ∈ ws ↔ v ∈ vs) : IsUnion field ws where
  resolves v hv := h.resolves v ((hsame v).mp hv)
  bits bit := by simp only [h.bits, hsame]

/-- The union of narrow fields is narrow. -/
theorem isNarrow (h : IsUnion field vs)
    (hnarrow : ∀ v ∈ vs, ∀ n, resolve v = .ok n → IsNarrow n) : IsNarrow field := by
  refine Nat.lt_pow_two_of_testBit field fun bit hbit => ?_
  by_contra hhas
  obtain ⟨v, hv, n, hn, htest⟩ := (h.bits bit).mp (Bool.not_eq_false _ ▸ hhas)
  have hlt : n < 2 ^ bit :=
    Nat.lt_of_lt_of_le (hnarrow v hv n hn) (Nat.pow_le_pow_right Nat.two_pos hbit)
  rw [Nat.testBit_lt_two_pow hlt] at htest
  cases htest

end IsUnion

/-- Values that stand for fields have a union. -/
theorem exists_isUnion {vs : List Value} (h : ∀ v ∈ vs, ∃ n, resolve v = .ok n) :
    ∃ field, IsUnion field vs := by
  induction vs with
  | nil => exact ⟨0, .nil⟩
  | cons v rest ih =>
    obtain ⟨⟨n, hn⟩, hrest⟩ := List.forall_mem_cons.mp h
    obtain ⟨field, hfield⟩ := ih hrest
    exact ⟨n ||| field, (IsUnion.singleton hn).append hfield⟩

/-- A field that some value stands for stands for itself. -/
theorem resolve_permissions {v : Value} {field : Nat} (h : resolve v = .ok field) :
    resolve (.permissions field) = .ok field :=
  (resolve_of_natCast rfl rfl).trans (ofBits_of_isNameable (isNameable_of_resolve h))

/-! ### Taking in the leaves -/

theorem resolveAll_append (combined : Nat) (vs ws : List Value) :
    resolveAll combined (vs ++ ws) =
      resolveAll combined vs >>= fun union => resolveAll union ws := by
  induction vs generalizing combined with
  | nil => rfl
  | cons v rest ih =>
    rw [List.cons_append]
    cases h : resolve v with
    | error e =>
      rw [resolveAll_cons_of_error h, resolveAll_cons_of_error h]
      rfl
    | ok field =>
      rw [resolveAll_cons_of_ok h, resolveAll_cons_of_ok h]
      cases ofBits (combined ||| field) with
      | error e => rfl
      | ok union => exact ih union

theorem resolveAll_singleton_of_ok {v : Value} {field : Nat} (h : resolve v = .ok field)
    (combined : Nat) : resolveAll combined [v] = ofBits (combined ||| field) := by
  rw [resolveAll_cons_of_ok h]
  cases ofBits (combined ||| field) <;> rfl

theorem resolveAll_singleton (v : Value) : resolveAll 0 [v] = resolve v := by
  cases h : resolve v with
  | error e => exact resolveAll_cons_of_error h 0 []
  | ok field =>
    rw [resolveAll_singleton_of_ok h, Nat.zero_or, ofBits_of_isNameable (isNameable_of_resolve h)]

/-- A step that takes the fields of some values into a field.  It gives the union or refuses one
that cannot be named; it does not go past a value that stands for nothing. -/
structure TakesIn (step : Nat → Except Refusal Nat) (vs : List Value) : Prop where
  union : ∀ {field}, IsUnion field vs → ∀ {combined}, isNameable combined = true →
    step combined = ofBits (combined ||| field)
  resolves : ∀ {combined result}, step combined = .ok result → ∀ v ∈ vs, ∃ n, resolve v = .ok n
  refuses : ∀ {before v after e}, vs = before ++ v :: after →
    (∀ w ∈ before, ∃ n, resolve w = .ok n ∧ IsNarrow n) → resolve v = .error e →
      ∀ {combined}, IsNarrow combined → step combined = .error e

namespace TakesIn

variable {step next : Nat → Except Refusal Nat} {vs ws : List Value}

theorem nil : TakesIn (resolveAll · []) [] where
  union h combined hcombined := by
    rw [resolveAll, h.unique .nil, Nat.or_zero, ofBits_of_isNameable hcombined]
  resolves _ := nofun
  refuses hsplit := by simp at hsplit

/-- A leaf takes in itself. -/
theorem leaf (v : Value) : TakesIn (resolveAll · [v]) [v] where
  union h combined _ := by
    obtain ⟨n, hn⟩ := h.resolves v List.mem_cons_self
    rw [resolveAll_singleton_of_ok hn, h.unique (.singleton hn)]
  resolves {combined result} h w hw := by
    rw [List.mem_singleton.mp hw]
    cases hv : resolve v with
    | error e =>
      rw [resolveAll_cons_of_error hv] at h
      cases h
    | ok n => exact ⟨n, rfl⟩
  refuses {before w after e} hsplit _ he combined _ := by
    cases before with
    | nil =>
      cases hsplit
      exact resolveAll_cons_of_error he combined []
    | cons first rest => simp at hsplit

/-- A collection takes in what its items take in. -/
theorem collection {v : Value} {items : List Value} (hv : resolve v = resolveAll 0 items)
    (h : TakesIn (resolveAll · items) vs) : TakesIn (resolveAll · [v]) vs where
  union {field} hfield combined _ := by
    have hresolve := hv.trans (h.union hfield isNameable_zero)
    rw [Nat.zero_or] at hresolve
    by_cases hnamed : isNameable field = true
    · exact resolveAll_singleton_of_ok (hresolve.trans (ofBits_of_isNameable hnamed)) combined
    · rw [resolveAll_cons_of_error (hresolve.trans (ofBits_of_not_isNameable hnamed)),
        ofBits_of_not_isNameable (mt isNameable_right hnamed)]
  resolves {combined result} hok := by
    cases hresolve : resolve v with
    | error e =>
      rw [resolveAll_cons_of_error hresolve] at hok
      cases hok
    | ok n => exact h.resolves (hv.symm.trans hresolve)
  refuses hsplit hbefore he combined _ :=
    resolveAll_cons_of_error
      (hv.trans (h.refuses hsplit hbefore he isNarrow_zero)) combined []

/-- Two steps after one another take in what both take in. -/
theorem append (h : TakesIn step vs) (h' : TakesIn next ws) :
    TakesIn (fun combined => step combined >>= next) (vs ++ ws) where
  union {field} hfield combined hcombined := by
    obtain ⟨a, ha⟩ := exists_isUnion fun v hv => hfield.resolves v (List.mem_append_left ws hv)
    obtain ⟨b, hb⟩ := exists_isUnion fun v hv => hfield.resolves v (List.mem_append_right vs hv)
    rw [hfield.unique (ha.append hb), ← Nat.or_assoc, h.union ha hcombined]
    by_cases hnamed : isNameable (combined ||| a) = true
    · rw [ofBits_of_isNameable hnamed]
      exact h'.union hb hnamed
    · rw [ofBits_of_not_isNameable hnamed, ofBits_of_not_isNameable (mt isNameable_left hnamed)]
      rfl
  resolves {combined result} hok := by
    cases hstep : step combined with
    | error e =>
      rw [hstep] at hok
      cases hok
    | ok union =>
      rw [hstep] at hok
      exact List.forall_mem_append.mpr ⟨h.resolves hstep, h'.resolves hok⟩
  refuses {before v after e} hsplit hbefore he combined hcombined := by
    -- The value that is refused may be one of those taken in last.
    have hlast : ∀ {rest : List Value}, before = vs ++ rest → ws = rest ++ v :: after →
        (step combined >>= next) = .error e := by
      rintro rest rfl hrest
      obtain ⟨hfront, hback⟩ := List.forall_mem_append.mp hbefore
      obtain ⟨a, ha⟩ := exists_isUnion fun w hw => (hfront w hw).imp fun _ => And.left
      have hnarrow : IsNarrow a := ha.isNarrow fun w hw n hn => by
        obtain ⟨n', hn', hnarrow⟩ := hfront w hw
        cases hn.symm.trans hn'
        exact hnarrow
      rw [h.union ha hcombined.isNameable, (hcombined.or hnarrow).ofBits]
      exact h'.refuses hrest hback he (hcombined.or hnarrow)
    obtain ⟨rest, hbefore', hrest⟩ | ⟨rest, hvs, hrest⟩ := List.append_eq_append_iff.mp hsplit
    · exact hlast hbefore' hrest
    · cases rest with
      | nil =>
        have hfront : before = vs ++ [] := by rw [hvs, List.append_nil, List.append_nil]
        exact hlast hfront hrest.symm
      | cons first rest =>
        cases hrest
        rw [h.refuses hvs hbefore he hcombined]
        rfl

end TakesIn

mutual

/-- A value takes in its leaves. -/
theorem takesIn_leaves : ∀ v : Value, TakesIn (resolveAll · [v]) (leaves v)
  | .list items => .collection (by rw [resolve]) (takesIn_leavesAll items)
  | .tuple items => .collection (by rw [resolve]) (takesIn_leavesAll items)
  | .null | .unset | .bool _ | .int _ | .float _ | .text _ | .bytes _ | .set _ _ | .stream _ _
  | .map _ _ | .permissions _ | .code _ | .holder _ | .styled _ | .callable _ | .command _
  | .argument _ => .leaf _

theorem takesIn_leavesAll : ∀ items : List Value, TakesIn (resolveAll · items) (leavesAll items)
  | [] => .nil
  | v :: rest => by
    have hrest := (takesIn_leaves v).append (takesIn_leavesAll rest)
    simp only [← resolveAll_append] at hrest
    exact hrest

end

/-! ### What a leaf stands for -/

/-- A value that holds others and can be gone through. -/
def isCollection : Value → Bool
  | .list _ | .tuple _ | .set _ _ | .stream _ _ | .map _ _ | .bytes _ => true
  | _ => false

/-- An object that holds a field of permissions. -/
def holdsField : Value → Bool
  | .holder content => content.isField
  | _ => false

/-- A value that is no field, key, object with a field, or collection. -/
def isForeign (v : Value) : Bool :=
  !v.isField && !v.isText && !holdsField v && !isCollection v

/-- What a leaf stands for: the field of an integer, the bit of a key, or the field that an object
holds.  Fields that cannot be named, negative fields, unknown keys and all other leaves are
refused. -/
inductive Reads : Value → Except Refusal Nat → Prop
  | field {v : Value} {n : Nat} (isField : v.isField = true) (value : v.integer? = some (n : Int))
      (nameable : isNameable n = true) : Reads v (.ok n)
  | nameless {v : Value} {n : Nat} (isField : v.isField = true)
      (value : v.integer? = some (n : Int)) (wide : isNameable n = false) :
      Reads v (.error .unwritable)
  | negative {v : Value} {n : Int} (isField : v.isField = true) (value : v.integer? = some n)
      (neg : n < 0) : Reads v (.error (.negativePermissions n))
  | key {key : String} {bit : Nat} (named : bitOfKey? key = some bit) :
      Reads (.text key) (.ok (2 ^ bit))
  | unknown {key : String} (unnamed : bitOfKey? key = none) :
      Reads (.text key) (.error (.unknownPermission (Text.quote key)))
  | held {content : Value} {result : Except Refusal Nat} (isField : content.isField = true)
      (reads : Reads content result) : Reads (.holder content) result
  | foreign {v : Value} (isForeign : isForeign v = true) : Reads v (.error .notPermissionLike)

theorem ofNumber_of_isField {v : Value} (hfield : v.isField = true) : ofNumber v = resolve v := by
  obtain ⟨n, hn⟩ := exists_integer_of_isField hfield
  rw [resolve_of_isField hfield hn, ofNumber, hn]
  intro b hb
  subst hb
  cases hfield

theorem ofNumber_of_not_isField {v : Value} (hfield : v.isField = false) :
    ofNumber v = .error .notPermissionLike := by
  cases v <;> first | rfl | cases hfield

theorem resolve_of_isForeign {v : Value} (h : isForeign v = true) :
    resolve v = .error .notPermissionLike := by
  simp only [isForeign, Bool.and_eq_true, Bool.not_eq_true'] at h
  obtain ⟨⟨⟨hfield, htext⟩, hholder⟩, hcollection⟩ := h
  cases v with
  | text | list | tuple | set | map | stream | bytes => contradiction
  | holder content => exact ofNumber_of_not_isField hholder
  | _ => exact ofNumber_of_not_isField hfield

theorem Reads.resolve_eq {v : Value} {result : Except Refusal Nat} (h : Reads v result) :
    resolve v = result := by
  induction h with
  | field hfield hn hnamed => rw [resolve_of_natCast hfield hn, ofBits_of_isNameable hnamed]
  | nameless hfield hn hwide =>
    rw [resolve_of_natCast hfield hn, ofBits_of_not_isNameable (Bool.eq_false_iff.mp hwide)]
  | negative hfield hn hneg => exact resolve_of_negative hfield hn hneg
  | key hbit => rw [resolve, ofKey, hbit]; rfl
  | unknown hbit => rw [resolve, ofKey, hbit]
  | held hfield _ ih => rw [resolve, ofNumber_of_isField hfield, ih]
  | foreign h => exact resolve_of_isForeign h

theorem reads_of_isField {v : Value} (hfield : v.isField = true) : ∃ result, Reads v result := by
  obtain ⟨n, hn⟩ := exists_integer_of_isField hfield
  by_cases hneg : n < 0
  · exact ⟨_, .negative hfield hn hneg⟩
  · rw [← Int.toNat_of_nonneg (Int.not_lt.mp hneg)] at hn
    cases hnamed : isNameable n.toNat with
    | true => exact ⟨_, .field hfield hn hnamed⟩
    | false => exact ⟨_, .nameless hfield hn hnamed⟩

theorem reads_of_isText {v : Value} (htext : v.isText = true) : ∃ result, Reads v result := by
  obtain ⟨key, rfl⟩ := Value.eq_text_of_isText htext
  cases hbit : bitOfKey? key with
  | none => exact ⟨_, .unknown hbit⟩
  | some bit => exact ⟨_, .key hbit⟩

theorem reads_of_holdsField {v : Value} (hholder : holdsField v = true) :
    ∃ result, Reads v result := by
  cases v with
  | holder content =>
    obtain ⟨result, hresult⟩ := reads_of_isField (v := content) hholder
    exact ⟨result, .held hholder hresult⟩
  | _ => cases hholder

/-- A leaf that is no collection stands for something, or there is a reason why it does not. -/
theorem exists_reads {v : Value} (h : isCollection v = false) : ∃ result, Reads v result := by
  by_cases hforeign : isForeign v = true
  · exact ⟨_, .foreign hforeign⟩
  · have hcases : (v.isField = true ∨ v.isText = true) ∨ holdsField v = true := by
      simpa only [isForeign, h, Bool.not_false, Bool.and_true, Bool.and_eq_true, Bool.not_eq_true',
        not_and_or, Bool.not_eq_false] using hforeign
    rcases hcases with (hfield | htext) | hholder
    · exact reads_of_isField hfield
    · exact reads_of_isText htext
    · exact reads_of_holdsField hholder

/-- A leaf that is no collection stands for one thing. -/
theorem reads_iff {v : Value} {result : Except Refusal Nat} (h : isCollection v = false) :
    Reads v result ↔ resolve v = result := by
  refine ⟨Reads.resolve_eq, fun hresult => ?_⟩
  obtain ⟨result', hreads⟩ := exists_reads h
  rwa [← hresult, hreads.resolve_eq]

/-- A leaf that is a number, a key or an object with a field has a wrong value; any other one is
of the wrong type. -/
theorem Reads.failureClass_eq {v : Value} {result : Except Refusal Nat} (h : Reads v result)
    {e : Refusal} (he : result = .error e) :
    e.failureClass = if isForeign v then .type else .value := by
  induction h with
  | field | key => cases he
  | nameless hfield | negative hfield =>
    cases he
    rw [isForeign, hfield]
    rfl
  | unknown =>
    cases he
    rfl
  | @held content _ hfield hreads ih =>
    have hforeign : isForeign (.holder content) = false := by
      simp only [isForeign, holdsField, hfield, Bool.not_true, Bool.and_false, Bool.false_and]
    have hcontent : isForeign content = false := by
      rw [isForeign, hfield]
      rfl
    rw [ih he, hforeign, hcontent]
  | foreign hforeign =>
    cases he
    rw [hforeign]
    rfl

/-! ### Nested values -/

/-- A nested value all of whose fields are narrow. -/
def HasNarrowLeaves (v : Value) : Prop :=
  ∀ leaf ∈ leaves v, ∀ n, resolve leaf = .ok n → IsNarrow n

section Nested

variable {v w : Value} {field : Nat}

theorem hasNarrowLeaves_of_reads
    (h : ∀ leaf ∈ leaves v, ∃ n, Reads leaf (.ok n) ∧ IsNarrow n) : HasNarrowLeaves v := by
  intro leaf hleaf n hn
  obtain ⟨k, hk, hnarrow⟩ := h leaf hleaf
  cases hk.resolve_eq.symm.trans hn
  exact hnarrow

/-- A value whose leaves all stand for fields stands for their union, unless that cannot be
named. -/
theorem resolve_of_isUnion (h : IsUnion field (leaves v)) : resolve v = ofBits field := by
  rw [← resolveAll_singleton, (takesIn_leaves v).union h isNameable_zero, Nat.zero_or]

/-- What a value stands for is the union of its leaves. -/
theorem isUnion_of_resolve (h : resolve v = .ok field) : IsUnion field (leaves v) := by
  obtain ⟨union, hunion⟩ :=
    exists_isUnion ((takesIn_leaves v).resolves ((resolveAll_singleton v).trans h))
  obtain ⟨-, rfl⟩ := ofBits_eq_ok_iff.mp ((resolve_of_isUnion hunion).symm.trans h)
  exact hunion

/-- A value is refused for its first leaf that stands for nothing, if those before it are narrow. -/
theorem resolve_of_leaf_error {before after : List Value} {leaf : Value} {e : Refusal}
    (hsplit : leaves v = before ++ leaf :: after)
    (hbefore : ∀ other ∈ before, ∃ n, resolve other = .ok n ∧ IsNarrow n)
    (hleaf : resolve leaf = .error e) : resolve v = .error e := by
  rw [← resolveAll_singleton]
  exact (takesIn_leaves v).refuses hsplit hbefore hleaf isNarrow_zero

/-- Neither the order nor the number nor the grouping of the leaves matters. -/
theorem resolve_of_same_leaves (hsame : ∀ leaf, leaf ∈ leaves w ↔ leaf ∈ leaves v)
    (h : resolve v = .ok field) : resolve w = .ok field := by
  rw [resolve_of_isUnion ((isUnion_of_resolve h).of_mem_iff hsame),
    ofBits_of_isNameable (isNameable_of_resolve h)]

/-- Values that stand for nothing come after narrow fields only, or not at all. -/
theorem exists_first_error {vs : List Value}
    (hnarrow : ∀ v ∈ vs, ∀ n, resolve v = .ok n → IsNarrow n) :
    (∀ v ∈ vs, ∃ n, resolve v = .ok n) ∨ ∃ before v after e, vs = before ++ v :: after ∧
      (∀ w ∈ before, ∃ n, resolve w = .ok n ∧ IsNarrow n) ∧ resolve v = .error e := by
  induction vs with
  | nil => exact .inl nofun
  | cons v rest ih =>
    obtain ⟨hv, hrest⟩ := List.forall_mem_cons.mp hnarrow
    cases hresolve : resolve v with
    | error e => exact .inr ⟨[], v, rest, e, rfl, nofun, hresolve⟩
    | ok n =>
      refine (ih hrest).imp (fun h => List.forall_mem_cons.mpr ⟨⟨n, hresolve⟩, h⟩) ?_
      rintro ⟨before, w, after, e, rfl, hbefore, hw⟩
      exact ⟨v :: before, w, after, e, rfl,
        List.forall_mem_cons.mpr ⟨⟨n, hresolve, hv n hresolve⟩, hbefore⟩, hw⟩

/-- Narrow leaves may be grouped in any way. -/
theorem resolve_of_eq_leaves (hnarrow : HasNarrowLeaves v) (hsame : leaves w = leaves v) :
    resolve w = resolve v := by
  obtain hall | ⟨before, leaf, after, e, hsplit, hbefore, hleaf⟩ := exists_first_error hnarrow
  · obtain ⟨field, hfield⟩ := exists_isUnion hall
    rw [resolve_of_isUnion hfield, resolve_of_isUnion (hsame ▸ hfield)]
  · rw [resolve_of_leaf_error hsplit hbefore hleaf,
      resolve_of_leaf_error (hsame.trans hsplit) hbefore hleaf]

/-- A command stores what its permissions stand for, unless they are an integer or none. -/
theorem permissions_make {serial : Nat} {f : CommandFields} (hgiven : f.permissions = some v)
    (hnull : v.isNull = false) (hinteger : v.integer? = none) :
    (CommandOf.make serial f).map CommandOf.permissions = (resolve v).map Value.permissions := by
  have hcondition : ¬ (v.isNull = true ∨ v.integer?.isSome = true) := by
    rw [hnull, hinteger]
    exact nofun
  rw [CommandOf.make, hgiven, Option.getD_some, CommandOf.permissionsOf, if_neg hcondition]
  cases resolve v <;> rfl

end Nested

mutual

/-- Leaves have no leaves but themselves. -/
theorem leavesAll_leaves : ∀ v : Value, leavesAll (leaves v) = leaves v
  | .list items => leavesAll_leavesAll items
  | .tuple items => leavesAll_leavesAll items
  | .null | .unset | .bool _ | .int _ | .float _ | .text _ | .bytes _ | .set _ _ | .stream _ _
  | .map _ _ | .permissions _ | .code _ | .holder _ | .styled _ | .callable _ | .command _
  | .argument _ => rfl

theorem leavesAll_leavesAll : ∀ items : List Value, leavesAll (leavesAll items) = leavesAll items
  | [] => rfl
  | v :: rest => by
    rw [leavesAll, leavesAll_append, leavesAll_leaves v, leavesAll_leavesAll rest]

end

/-- A value whose leaves all stand for fields stands for the union of these, in whatever order,
number and grouping the leaves come, unless the union cannot be named, which is no matter of narrow
fields; otherwise it is refused for the first leaf that stands for nothing.  A command keeps exactly
this. -/
theorem resolve_unites_leaves (v : Value) :
    ((∀ leaf ∈ leaves v, ∃ n, Reads leaf (.ok n)) →
      ∃ field, (∀ bit, field.testBit bit = true ↔
          ∃ leaf ∈ leaves v, ∃ n, Reads leaf (.ok n) ∧ n.testBit bit = true) ∧
        resolve v = ofBits field ∧ (HasNarrowLeaves v → resolve v = .ok field)) ∧
    (∀ before leaf after e, leaves v = before ++ leaf :: after →
      (∀ other ∈ before, ∃ n, Reads other (.ok n) ∧ IsNarrow n) → Reads leaf (.error e) →
        resolve v = .error e ∧ e.failureClass = if isForeign leaf then .type else .value) ∧
    (∀ leaf, isCollection leaf = false → ∃! result, Reads leaf result) ∧
    (∀ w, (∀ leaf, leaf ∈ leaves w ↔ leaf ∈ leaves v) →
      ∀ field, resolve v = .ok field → resolve w = .ok field) ∧
    (HasNarrowLeaves v → (∀ w, leaves w = leaves v → resolve w = resolve v) ∧
      resolve (.list (leaves v)) = resolve v ∧ resolve (.tuple (leaves v)) = resolve v) ∧
    (∀ field, resolve v = .ok field → resolve (.permissions field) = .ok field) ∧
    (∀ serial (f : CommandFields), f.permissions = some v → v.isNull = false →
      v.integer? = none →
        (CommandOf.make serial f).map CommandOf.permissions =
          (resolve v).map Value.permissions) := by
  refine ⟨fun hreads => ?_, fun before leaf after e hsplit hbefore hleaf => ⟨?_, ?_⟩,
    fun leaf hleaf => ?_, fun w hsame field => resolve_of_same_leaves hsame, fun hnarrow => ?_,
    fun field => resolve_permissions, fun serial f => permissions_make⟩
  · have hleaves : ∀ leaf ∈ leaves v, ∃ n, resolve leaf = .ok n := fun leaf hleaf =>
      (hreads leaf hleaf).imp fun n hn => hn.resolve_eq
    obtain ⟨field, hfield⟩ := exists_isUnion hleaves
    refine ⟨field, fun bit => (hfield.bits bit).trans ?_, resolve_of_isUnion hfield,
      fun hnarrow => (resolve_of_isUnion hfield).trans (hfield.isNarrow hnarrow).ofBits⟩
    constructor
    · rintro ⟨leaf, hleaf, n, hn, hbit⟩
      obtain ⟨n', hn'⟩ := hreads leaf hleaf
      cases hn.symm.trans hn'.resolve_eq
      exact ⟨leaf, hleaf, n, hn', hbit⟩
    · rintro ⟨leaf, hleaf, n, hn, hbit⟩
      exact ⟨leaf, hleaf, n, hn.resolve_eq, hbit⟩
  · exact resolve_of_leaf_error hsplit (fun other hother =>
      (hbefore other hother).imp fun n hn => ⟨hn.1.resolve_eq, hn.2⟩) hleaf.resolve_eq
  · exact hleaf.failureClass_eq rfl
  · exact ⟨resolve leaf, (reads_iff hleaf).mpr rfl, fun result hresult => hresult.resolve_eq.symm⟩
  · exact ⟨fun w => resolve_of_eq_leaves hnarrow,
      resolve_of_eq_leaves hnarrow (leavesAll_leaves v),
      resolve_of_eq_leaves hnarrow (leavesAll_leaves v)⟩

/-- A key, an object and a field with a bit that has no name, in nested lists, stand for their
union; in front of a truth value an unknown key is refused. -/
theorem resolve_unites_leaves_nested :
    (∃ field, resolve (.tuple [.text "Kick_Members", .list [.holder (.int 8), .list []],
        .int (2 ^ 50 : Nat)]) = .ok field ∧ ∀ bit, field.testBit bit = true ↔
          ∃ leaf ∈ [Value.text "Kick_Members", .holder (.int 8), .int (2 ^ 50 : Nat)],
            ∃ n, Reads leaf (.ok n) ∧ n.testBit bit = true) ∧
      resolve (.list [.int 1, .tuple [.text "nobody", .bool true]]) =
        .error (.unknownPermission "'nobody'") := by
  have hsmall {n : Nat} (hn : n < 2 ^ 51) : IsNarrow n :=
    Nat.lt_trans hn (Nat.pow_lt_pow_right Nat.one_lt_two (by decide))
  have hkick : Reads (.text "Kick_Members") (.ok (2 ^ 1)) := .key (by decide +kernel)
  have hholder : Reads (.holder (.int 8)) (.ok 8) :=
    .held rfl (.field rfl rfl (hsmall (by decide)).isNameable)
  have hunnamed : Reads (.int (2 ^ 50 : Nat)) (.ok (2 ^ 50)) :=
    .field rfl rfl (hsmall (by decide)).isNameable
  have hone : Reads (.int 1) (.ok 1) := .field rfl rfl (hsmall (by decide)).isNameable
  have hnobody : Reads (.text "nobody") (.error (.unknownPermission "'nobody'")) :=
    .unknown (by decide +kernel)
  constructor
  · have hleaves : ∀ leaf ∈ leaves (.tuple [.text "Kick_Members",
        .list [.holder (.int 8), .list []], .int (2 ^ 50 : Nat)]),
        ∃ n, Reads leaf (.ok n) ∧ IsNarrow n := by
      intro leaf hleaf
      rcases List.mem_cons.mp hleaf with rfl | hleaf
      · exact ⟨_, hkick, hsmall (by decide)⟩
      · rcases List.mem_pair.mp hleaf with rfl | rfl
        · exact ⟨_, hholder, hsmall (by decide)⟩
        · exact ⟨_, hunnamed, hsmall (by decide)⟩
    obtain ⟨field, hbits, -, hfield⟩ := (resolve_unites_leaves (.tuple [.text "Kick_Members",
      .list [.holder (.int 8), .list []], .int (2 ^ 50 : Nat)])).1
      fun leaf hleaf => (hleaves leaf hleaf).imp fun _ => And.left
    exact ⟨field, hfield (hasNarrowLeaves_of_reads hleaves), hbits⟩
  · refine ((resolve_unites_leaves (.list [.int 1, .tuple [.text "nobody", .bool true]])).2.1
      [.int 1] (.text "nobody") [.bool true] _ rfl (fun other hother => ?_) hnobody).1
    rw [List.mem_singleton.mp hother]
    exact ⟨1, hone, hsmall (by decide)⟩

end ChatCommands.Permission
