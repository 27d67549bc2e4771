import Mathlib.Data.List.Forall2
import ChatCommands.Value.Item
import ChatCommands.Proofs.Decimal.Rank

/-!
# Sameness of keys

Keys are the same when one is the other or they are equal: numbers across their kinds, sets without
regard to order, and everything that is no data when it is one and the same.  On what can be a key
this is an equivalence, which is what a set of keys rests on.

A value without items is compared by an atom: by what it is, by the serial number it carries, or by
its magnitude when it is a number.  Tuples are compared item by item.  For sets, equal lengths and
the same item for every item of the one set give the same item for every item of the other, since
the items of a set are pairwise different.

## Main definitions

* `Value.Magnitude`, `Value.magnitude?` : what numbers are compared by.
* `Value.Atom`, `Value.atom?` : what values without items are compared by.
* `Value.IsKey` : the values that can be keys.
* `Value.IsProper` : the values whose sets are sets.

## Main results

* `Value.same_iff_of_atom` : sameness of values without items.
* `Value.IsKey.same_refl`, `Value.IsKey.same_symm`, `Value.IsKey.same_trans` : sameness of keys is
  an equivalence.
* `Value.IsProper.isKey` : a proper value is a key when it is hashable or a set.
* `Value.IsKey.isIn_congr` : keys that are the same are in the same lists.
-/

namespace ChatCommands

namespace Binary64

theorem scaledInt_number (negative : Bool) (rank : Nat) :
    scaledInt (.number negative rank) =
      if negative then -((ratio rank).1 : Int) else ((ratio rank).1 : Int) :=
  rfl

theorem equalsInt_number (negative : Bool) (rank : Nat) (n : Int) :
    equalsInt (.number negative rank) n =
      (decide (rank < infinityRank) && decide (scaledInt (.number negative rank) = n * unit)) :=
  rfl

/-- Finite numbers have the same value exactly when they are numerically equal. -/
theorem scaledInt_eq_iff (na nb : Bool) (ra rb : Nat) :
    scaledInt (.number na ra) = scaledInt (.number nb rb) ↔
      ra = rb ∧ (na = nb ∨ ra = 0) := by
  have hinjective := ratio_strictMono.injective
  have hzero : (ratio 0).1 = 0 := by simp [ratio, significand]
  have hiff (r : Nat) : (ratio r).1 = 0 ↔ r = 0 := by
    rw [← hzero]
    exact hinjective.eq_iff
  have hsame : (ratio ra).1 = (ratio rb).1 ↔ ra = rb := hinjective.eq_iff
  have hzero_a := hiff ra
  have hzero_b := hiff rb
  simp only [scaledInt_number]
  cases na <;> cases nb <;> simp <;> omega

end Binary64

namespace Value

/-! ### Values without items -/

/-- What numbers are compared by: a finite one by its number of units, and one that is not a number
by its serial number. -/
inductive Magnitude
  | finite (units : Int)
  | infinite (negative : Bool) (rank : Nat)
  | notANumber (serial : Nat)

/-- What values without items are compared by. -/
inductive Atom
  | null
  | unset
  | text (s : String)
  | bytes (bs : List UInt8)
  | number (m : Magnitude)
  | stream (serial : Nat)
  | callable (key : Nat ⊕ String)
  | command (serial : Nat)
  | argument (serial : Nat)

/-- The magnitude of an integer. -/
def integerMagnitude (n : Int) : Magnitude :=
  .finite (n * Binary64.unit)

/-- The magnitude of a binary64 number. -/
def floatMagnitude : Binary64 → Magnitude
  | .nan serial => .notANumber serial
  | .number negative rank =>
    if rank < Binary64.infinityRank then .finite (Binary64.scaledInt (.number negative rank))
    else .infinite negative rank

/-- The magnitude of a number of any kind. -/
def magnitude? : Value → Option Magnitude
  | .float x => some (floatMagnitude x)
  | v => v.integer?.map integerMagnitude

/-- What a callable is compared by: the serial number of a script, the name of a routine. -/
def callableKey : Callable → Nat ⊕ String
  | .script s => .inl s.serial
  | .routine name => .inr name

/-- What a value is compared by when it has no items. -/
def atom? : Value → Option Atom
  | .null => some .null
  | .unset => some .unset
  | .text s => some (.text s)
  | .bytes bs => some (.bytes bs)
  | .stream serial _ => some (.stream serial)
  | .callable c => some (.callable (callableKey c))
  | .command c => some (.command c.serial)
  | .argument a => some (.argument a.serial)
  | v => v.magnitude?.map .number

/-- Whether a value is compared as a whole, not by what is in it. -/
def isScalar : Value → Bool
  | .list _ | .tuple _ | .set _ _ | .map _ _ | .holder _ | .styled _ => false
  | _ => true

theorem exists_atom {v : Value} (h : v.isScalar = true) : ∃ a, v.atom? = some a := by
  cases v <;> simp [isScalar, atom?, magnitude?, integer?] at h ⊢

/-- Two binary64 numbers are the same exactly when they have the same magnitude. -/
theorem floatSame_iff (x y : Binary64) :
    (x.isSame y || x.equals y) = true ↔ floatMagnitude x = floatMagnitude y := by
  match x, y with
  | .nan m, .nan n => simp [Binary64.isSame, Binary64.equals, floatMagnitude]
  | .nan m, .number nb rb =>
    by_cases hb : rb < Binary64.infinityRank <;>
      simp [Binary64.isSame, Binary64.equals, floatMagnitude, hb]
  | .number na ra, .nan n =>
    by_cases ha : ra < Binary64.infinityRank <;>
      simp [Binary64.isSame, Binary64.equals, floatMagnitude, ha]
  | .number na ra, .number nb rb =>
    have hvalue := Binary64.scaledInt_eq_iff na nb ra rb
    have hpos : 0 < Binary64.infinityRank := by decide
    simp only [Binary64.isSame, Binary64.equals, floatMagnitude, Bool.false_or, Bool.and_eq_true,
      Bool.or_eq_true, decide_eq_true_eq]
    by_cases ha : ra < Binary64.infinityRank <;> by_cases hb : rb < Binary64.infinityRank
    · simp [ha, hb, ← hvalue]
    · simp [ha, hb]
      omega
    · simp [ha, hb]
      omega
    · simp [ha, hb]
      grind

/-- A binary64 number equals an integer exactly when they have the same magnitude. -/
theorem floatEqualsInt_iff (x : Binary64) (n : Int) :
    x.equalsInt n = true ↔ floatMagnitude x = integerMagnitude n := by
  cases x with
  | nan serial => exact ⟨nofun, nofun⟩
  | number negative rank =>
    rw [Binary64.equalsInt_number]
    by_cases h : rank < Binary64.infinityRank
    · simp only [h, floatMagnitude, integerMagnitude, decide_true, Bool.true_and,
        decide_eq_true_eq, if_true, Magnitude.finite.injEq]
    · simp only [h, floatMagnitude, integerMagnitude, decide_false, Bool.false_and, if_false,
        Bool.false_eq_true, reduceCtorEq]

theorem integerMagnitude_injective : Function.Injective integerMagnitude := by
  intro m n h
  have hunit : (Binary64.unit : Int) ≠ 0 := by
    have := Binary64.unit_pos
    omega
  exact Int.eq_of_mul_eq_mul_right hunit (Magnitude.finite.inj h)

theorem magnitude?_of_ne_float {v : Value} (h : ∀ x, v ≠ .float x) :
    v.magnitude? = v.integer?.map integerMagnitude := by
  unfold magnitude?
  split
  case h_1 x => exact absurd rfl (h x)
  case h_2 => rfl

/-- Two values, not both floats, are equal as numbers exactly when they have the same magnitude. -/
theorem numericEquals_iff {v w : Value} (h : ∀ x y, v = .float x → w ≠ .float y) :
    (v.numericEquals w).getD false = true ↔ ∃ m, v.magnitude? = some m ∧ w.magnitude? = some m := by
  unfold numericEquals
  split
  case h_1 x y => exact absurd rfl (h x y rfl)
  case h_2 x hw =>
    rw [magnitude?_of_ne_float hw]
    cases w.integer? with
    | none => simp [magnitude?]
    | some n =>
      simp only [magnitude?, Option.map_some, Option.getD_some, floatEqualsInt_iff,
        Option.some.injEq, exists_eq_left']
      exact eq_comm
  case h_3 y hv =>
    rw [magnitude?_of_ne_float hv]
    cases v.integer? <;> simp [magnitude?, floatEqualsInt_iff]
  case h_4 hv hw _ =>
    rw [magnitude?_of_ne_float hv, magnitude?_of_ne_float hw]
    cases v.integer? <;> cases w.integer? <;> simp [integerMagnitude_injective.eq_iff, eq_comm]

theorem sameCallable_iff (c d : Callable) :
    sameCallable c d = true ↔ callableKey c = callableKey d := by
  cases c <;> cases d <;> simp [sameCallable, callableKey]

/-- A number is the same as another value exactly when that has the same magnitude. -/
theorem same_iff_of_magnitude {v w : Value} {m : Magnitude} (h : v.magnitude? = some m) :
    v.same w = true ↔ w.magnitude? = some m := by
  by_cases hfloats : ∃ x y, v = .float x ∧ w = .float y
  · obtain ⟨x, y, rfl, rfl⟩ := hfloats
    rw [← h, same, floatSame_iff, magnitude?, magnitude?, Option.some.injEq]
    exact eq_comm
  · have hsame : v.same w = (v.numericEquals w).getD false := by
      cases v <;> simp only [magnitude?, integer?, Option.map_none, reduceCtorEq] at h <;>
        cases w <;> simp_all [same]
    have hboth : ∀ x y, v = .float x → w ≠ .float y := fun x y hv hw => hfloats ⟨x, y, hv, hw⟩
    rw [hsame, numericEquals_iff hboth, h]
    simp [eq_comm]

/-- A value without items is the same as another exactly when that has the same atom. -/
theorem same_iff_of_atom {v w : Value} {a : Atom} (h : v.atom? = some a) :
    v.same w = true ↔ w.atom? = some a := by
  cases hm : v.magnitude? with
  | some m =>
    obtain rfl : .number m = a := by
      cases v <;> simp_all [atom?, magnitude?, integer?]
    rw [same_iff_of_magnitude hm]
    cases w <;> simp [atom?, magnitude?, integer?]
  | none =>
    cases v <;> simp only [atom?, hm, Option.some.injEq, Option.map_none, reduceCtorEq] at h <;>
      subst h <;> cases w <;>
      simp [same, numericEquals, atom?, magnitude?, integer?, sameCallable_iff] <;> exact eq_comm

/-! ### Values with items -/

theorem sameAll_iff (xs ys : List Value) :
    sameAll xs ys = true ↔ List.Forall₂ (fun x y => x.same y = true) xs ys := by
  induction xs generalizing ys with
  | nil => cases ys <;> simp [sameAll]
  | cons x xs ih => cases ys <;> simp [sameAll, ih]

theorem allIn_iff (xs ys : List Value) :
    allIn xs ys = true ↔ ∀ x ∈ xs, ∃ y ∈ ys, x.same y = true := by
  induction xs with
  | nil => simp [allIn]
  | cons x xs ih => simp [allIn, ih]

theorem same_tuple_iff (xs : List Value) (w : Value) :
    (tuple xs).same w = true ↔
      ∃ ys, w = .tuple ys ∧ List.Forall₂ (fun x y => x.same y = true) xs ys := by
  cases w <;> simp [same, numericEquals, integer?, sameAll_iff]

theorem same_set_iff (isFrozen : Bool) (xs : List Value) (w : Value) :
    (set isFrozen xs).same w = true ↔
      ∃ f ys, w = .set f ys ∧ xs.length = ys.length ∧ ∀ x ∈ xs, ∃ y ∈ ys, x.same y = true := by
  cases w <;> simp [same, numericEquals, integer?, allIn_iff]

/-! ### Keys -/

/-- The values that can be keys: what has no items, tuples of hashable keys, and sets of hashable
keys that are pairwise different. -/
inductive IsKey : Value → Prop
  | scalar {v : Value} (h : v.isScalar = true) : IsKey v
  | tuple {items : List Value} (hkeys : ∀ v ∈ items, IsKey v)
      (hhashable : ∀ v ∈ items, v.unhashableType? = none) : IsKey (.tuple items)
  | set {isFrozen : Bool} {items : List Value} (hkeys : ∀ v ∈ items, IsKey v)
      (hhashable : ∀ v ∈ items, v.unhashableType? = none)
      (hdifferent : items.Pairwise fun v w => v.same w = false) : IsKey (.set isFrozen items)

/-- When every item of a list has a partner in a list that is no longer, and no two of them share
one, everything in that list is a partner. -/
theorem exists_partner {α β : Type} {R : α → β → Prop} {xs : List α} {ys : List β}
    (hpartner : ∀ x ∈ xs, ∃ y ∈ ys, R x y)
    (happart : xs.Pairwise fun x x' => ∀ y ∈ ys, R x y → ¬ R x' y)
    (hlength : ys.length ≤ xs.length) : ∀ y ∈ ys, ∃ x ∈ xs, R x y := by
  induction xs generalizing ys with
  | nil =>
    rintro y hy
    rw [List.length_nil, Nat.le_zero, List.length_eq_zero_iff] at hlength
    rw [hlength] at hy
    cases hy
  | cons x xs ih =>
    obtain ⟨partner, hmem, hx⟩ := hpartner x (List.mem_cons_self ..)
    obtain ⟨front, back, rfl⟩ := List.append_of_mem hmem
    obtain ⟨hfirst, hrest⟩ := List.pairwise_cons.1 happart
    -- The others have their partners outside the one that is taken.
    have hothers : ∀ y ∈ front ++ back, ∃ x' ∈ xs, R x' y := by
      refine ih ?_ ?_ ?_
      · rintro x' hx'
        obtain ⟨y, hy, hxy⟩ := hpartner x' (List.mem_cons_of_mem _ hx')
        have hne : y ≠ partner := by
          rintro rfl
          exact hfirst x' hx' y hmem hx hxy
        exact ⟨y, by simpa [hne] using hy, hxy⟩
      · refine hrest.imp fun {x' x''} h y hy => h y ?_
        simp only [List.mem_append, List.mem_cons] at hy ⊢
        exact hy.imp_right Or.inr
      · simp only [List.length_append, List.length_cons] at hlength ⊢
        omega
    rintro y hy
    by_cases hy' : y ∈ front ++ back
    · obtain ⟨x', hx', hxy⟩ := hothers y hy'
      exact ⟨x', List.mem_cons_of_mem _ hx', hxy⟩
    · obtain rfl : y = partner := by
        simp only [List.mem_append, List.mem_cons] at hy hy'
        tauto
      exact ⟨x, List.mem_cons_self .., hx⟩

/-- Item by item, a relation is transitive where it is so from the items of the first list. -/
theorem forall₂_trans {R : Value → Value → Prop} {xs ys zs : List Value}
    (htrans : ∀ x ∈ xs, ∀ y z, R x y → R y z → R x z) (hxy : List.Forall₂ R xs ys)
    (hyz : List.Forall₂ R ys zs) : List.Forall₂ R xs zs := by
  induction hxy generalizing zs with
  | nil => exact hyz
  | cons hfirst _ ih =>
    cases hyz with
    | cons hsecond hrest =>
      exact .cons (htrans _ (List.mem_cons_self ..) _ _ hfirst hsecond)
        (ih (fun x hx => htrans x (List.mem_cons_of_mem _ hx)) hrest)

/-- Item by item, a relation is symmetric where it is so from the items of the first list. -/
theorem forall₂_symm {R : Value → Value → Prop} {xs ys : List Value}
    (hsymm : ∀ x ∈ xs, ∀ y, R x y → R y x) (hxy : List.Forall₂ R xs ys) :
    List.Forall₂ R ys xs := by
  induction hxy with
  | nil => exact .nil
  | cons hfirst _ ih =>
    exact .cons (hsymm _ (List.mem_cons_self ..) _ hfirst)
      (ih fun x hx => hsymm x (List.mem_cons_of_mem _ hx))

theorem IsKey.same_refl {v : Value} (h : v.IsKey) : v.same v = true := by
  induction h with
  | @scalar v h =>
    obtain ⟨a, ha⟩ := exists_atom h
    exact (same_iff_of_atom ha).2 ha
  | @tuple items _ _ ih =>
    exact (same_tuple_iff items _).2 ⟨items, rfl, List.forall₂_same.2 ih⟩
  | @set isFrozen items _ _ _ ih =>
    exact (same_set_iff isFrozen items _).2
      ⟨isFrozen, items, rfl, rfl, fun x hx => ⟨x, hx, ih x hx⟩⟩

theorem IsKey.same_trans {u v w : Value} (hu : u.IsKey) (huv : u.same v = true)
    (hvw : v.same w = true) : u.same w = true := by
  induction hu generalizing v w with
  | @scalar u h =>
    obtain ⟨a, ha⟩ := exists_atom h
    rw [same_iff_of_atom ha] at huv ⊢
    exact (same_iff_of_atom huv).1 hvw
  | @tuple items _ _ ih =>
    obtain ⟨ys, rfl, hys⟩ := (same_tuple_iff items v).1 huv
    obtain ⟨zs, rfl, hzs⟩ := (same_tuple_iff ys w).1 hvw
    exact (same_tuple_iff items _).2
      ⟨zs, rfl, forall₂_trans (fun x hx _ _ => ih x hx) hys hzs⟩
  | @set isFrozen items _ _ _ ih =>
    obtain ⟨f, ys, rfl, hlen, hys⟩ := (same_set_iff isFrozen items v).1 huv
    obtain ⟨g, zs, rfl, hlen', hzs⟩ := (same_set_iff f ys w).1 hvw
    refine (same_set_iff isFrozen items _).2 ⟨g, zs, rfl, hlen.trans hlen', ?_⟩
    rintro x hx
    obtain ⟨y, hy, hxy⟩ := hys x hx
    obtain ⟨z, hz, hyz⟩ := hzs y hy
    exact ⟨z, hz, ih x hx hxy hyz⟩

theorem IsKey.same_symm {v w : Value} (hv : v.IsKey) (h : v.same w = true) :
    w.same v = true := by
  induction hv generalizing w with
  | @scalar v hscalar =>
    obtain ⟨a, ha⟩ := exists_atom hscalar
    rw [same_iff_of_atom ha] at h
    exact (same_iff_of_atom h).2 ha
  | @tuple items _ _ ih =>
    obtain ⟨ys, rfl, hys⟩ := (same_tuple_iff items w).1 h
    exact (same_tuple_iff ys _).2 ⟨items, rfl, forall₂_symm (fun x hx _ => ih x hx) hys⟩
  | @set isFrozen items hkeys _ hdifferent ih =>
    obtain ⟨f, ys, rfl, hlen, hys⟩ := (same_set_iff isFrozen items w).1 h
    refine (same_set_iff f ys _).2 ⟨isFrozen, items, rfl, hlen.symm, ?_⟩
    -- Two different items cannot be equal to the same one.
    have happart : items.Pairwise fun x x' =>
        ∀ y ∈ ys, x.same y = true → ¬ x'.same y = true := by
      refine hdifferent.imp_of_mem fun {x x'} hx hx' hne y _ hxy hx'y => ?_
      have hxx' := (hkeys x hx).same_trans hxy (ih x' hx' hx'y)
      rw [hne] at hxx'
      cases hxx'
    rintro y hy
    obtain ⟨x, hx, hxy⟩ := exists_partner hys happart hlen.ge y hy
    exact ⟨x, hx, ih x hx hxy⟩

theorem IsKey.same_comm {v w : Value} (hv : v.IsKey) (hw : w.IsKey) :
    v.same w = w.same v :=
  Bool.eq_iff_iff.2 ⟨hv.same_symm, hw.same_symm⟩

/-- Keys that are the same are the same as the same values. -/
theorem IsKey.same_congr {v w : Value} (hv : v.IsKey) (hw : w.IsKey)
    (h : v.same w = true) (u : Value) : v.same u = w.same u :=
  Bool.eq_iff_iff.2 ⟨hw.same_trans (hv.same_symm h), hv.same_trans h⟩

/-- Keys that are the same are in the same lists. -/
theorem IsKey.isIn_congr {v w : Value} (hv : v.IsKey) (hw : w.IsKey)
    (h : v.same w = true) (items : List Value) : v.isIn items = w.isIn items := by
  simp only [isIn, hv.same_congr hw h]

/-! ### Proper values -/

mutual

/-- The sets in a value are sets: their items are hashable and pairwise different. -/
def IsProper : Value → Prop
  | .list items => AreProper items
  | .tuple items => AreProper items
  | .stream _ items => AreProper items
  | .set _ items => AreProper items ∧ (∀ v ∈ items, v.unhashableType? = none) ∧
      items.Pairwise fun v w => v.same w = false
  | _ => True

/-- The sets in the values of a list are sets. -/
def AreProper : List Value → Prop
  | [] => True
  | v :: rest => IsProper v ∧ AreProper rest

end

theorem areProper_iff (items : List Value) : AreProper items ↔ ∀ v ∈ items, v.IsProper := by
  induction items with
  | nil => simp [AreProper]
  | cons v rest ih => simp [AreProper, ih]

theorem unhashableIn?_eq_none_iff (items : List Value) :
    unhashableIn? items = none ↔ ∀ v ∈ items, v.unhashableType? = none := by
  induction items with
  | nil => simp [unhashableIn?]
  | cons v rest ih =>
    cases h : v.unhashableType? <;> simp [unhashableIn?, h, ih]

/-- Whether a value can be asked for among keys: a set stands for its frozen self. -/
def CanBeAsked (v : Value) : Prop :=
  v.unhashableType? = none ∨ ∃ isFrozen items, v = .set isFrozen items

mutual

/-- A proper value that can be asked for is a key. -/
theorem IsProper.isKey : (v : Value) → v.IsProper → v.CanBeAsked → v.IsKey
  | .tuple items, h, hasked =>
    have hhashable : ∀ v ∈ items, v.unhashableType? = none := by
      simpa [CanBeAsked, unhashableType?, unhashableIn?_eq_none_iff] using hasked
    .tuple (AreProper.areKeys items h hhashable) hhashable
  | .set _ items, ⟨h, hhashable, hdifferent⟩, _ =>
    .set (AreProper.areKeys items h hhashable) hhashable hdifferent
  | .list _, _, hasked | .map _ _, _, hasked | .holder _, _, hasked | .styled _, _, hasked => by
    simp [CanBeAsked, unhashableType?] at hasked
  | .null, _, _ | .unset, _, _ | .bool _, _, _ | .int _, _, _ | .float _, _, _ | .text _, _, _
  | .bytes _, _, _ | .stream _ _, _, _ | .permissions _, _, _ | .code _, _, _
  | .callable _, _, _ | .command _, _, _ | .argument _, _, _ => .scalar rfl

/-- Proper hashable values are keys. -/
theorem AreProper.areKeys : (items : List Value) → AreProper items →
    (∀ v ∈ items, v.unhashableType? = none) → ∀ v ∈ items, v.IsKey
  | [], _, _ => by simp
  | v :: rest, ⟨hv, hrest⟩, hhashable => by
    obtain ⟨hfirst, hothers⟩ := List.forall_mem_cons.1 hhashable
    exact List.forall_mem_cons.2
      ⟨IsProper.isKey v hv (.inl hfirst), AreProper.areKeys rest hrest hothers⟩

end

/-- Every key can be asked for. -/
theorem IsKey.canBeAsked {v : Value} (h : v.IsKey) : v.CanBeAsked := by
  cases h with
  | @scalar v h => cases v <;> simp_all [CanBeAsked, unhashableType?, isScalar]
  | tuple _ hhashable =>
    exact .inl ((unhashableIn?_eq_none_iff _).2 hhashable)
  | set => exact .inr ⟨_, _, rfl⟩

end Value

end ChatCommands
