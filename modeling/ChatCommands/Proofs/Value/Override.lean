import ChatCommands.Proofs.Value.Entries
import Mathlib.Data.List.Basic

/-!
# Entries overridden by others

Where the entries of one map are overridden by those of another, the keys of the first come in
their order and the new ones behind them in theirs, and under each key is the override if there is
one.  This fixes the result, so overriding is associative and overriding with the same twice is
overriding once.

## Main definitions

* `Entries.IsOverridden` : entries overridden by others, key by key.

## Main results

* `Entries.ext_lookup` : entries are known by the order of their keys and what is found under them.
* `Entries.isOverridden_union`, `Entries.IsOverridden.eq` : the union is the one such result.
* `Entries.union_assoc`, `Entries.union_union_self` : overriding in several steps.
-/

namespace ChatCommands.Entries

/-- The entries of `base` overridden by those of `overrides`: the keys of `base` come first, and
under each key is what overrides it, if something does. -/
structure IsOverridden (base overrides result : Entries) : Prop where
  keys : result.keys = base.keys ++ overrides.keys.filter (· ∉ base.keys)
  lookup : ∀ key, result.lookup key = (overrides.lookup key).or (base.lookup key)

theorem keys_cons (e : String × Value) (rest : Entries) : keys (e :: rest) = e.1 :: keys rest := rfl

/-- Entries with each key once are known by the order of their keys and what is found under them. -/
theorem ext_lookup {entries others : Entries} (hnodup : entries.keys.Nodup)
    (hkeys : entries.keys = others.keys) (hlookup : ∀ key, entries.lookup key = others.lookup key) :
    entries = others := by
  induction entries generalizing others with
  | nil => exact (List.map_eq_nil_iff.mp hkeys.symm).symm
  | cons e rest ih =>
    obtain ⟨key, v⟩ := e
    cases others with
    | nil => cases hkeys
    | cons e' rest' =>
      obtain ⟨key', v'⟩ := e'
      simp only [keys_cons, List.cons.injEq] at hkeys
      obtain ⟨rfl, hkeys⟩ := hkeys
      obtain ⟨hkey, hnodup⟩ := List.nodup_cons.mp hnodup
      have hv : v = v' := by simpa using hlookup key
      refine List.cons_eq_cons.mpr ⟨by rw [hv], ih hnodup hkeys fun other => ?_⟩
      by_cases hother : other = key
      · -- Behind its only place the key is found in neither.
        subst hother
        rw [lookup_eq_none_iff_keys.mpr hkey, lookup_eq_none_iff_keys.mpr (hkeys ▸ hkey)]
      · simpa [lookup_cons_eq, hother] using hlookup other

section Union

variable {base overrides : Entries}

theorem lookup_union (h : overrides.keys.Nodup) (base : Entries) (key : String) :
    (union base overrides).lookup key = (overrides.lookup key).or (base.lookup key) := by
  induction overrides generalizing base with
  | nil => rfl
  | cons e rest ih =>
    obtain ⟨k, v⟩ := e
    obtain ⟨hk, hrest⟩ := List.nodup_cons.mp h
    change (union (put k v base) rest).lookup key = _
    rw [ih hrest, lookup_put, lookup_cons_eq]
    by_cases hkey : key = k
    · -- The key does not come again, so what is set here stays.
      subst hkey
      rw [if_pos rfl, if_pos rfl, lookup_eq_none_iff_keys.mpr hk]
      rfl
    · rw [if_neg hkey, if_neg hkey]

theorem keys_union (h : overrides.keys.Nodup) (base : Entries) :
    (union base overrides).keys = base.keys ++ overrides.keys.filter (· ∉ base.keys) := by
  induction overrides generalizing base with
  | nil => simp [union, keys]
  | cons e rest ih =>
    obtain ⟨k, v⟩ := e
    obtain ⟨hk, hrest⟩ := List.nodup_cons.mp h
    change (union (put k v base) rest).keys = _
    rw [ih hrest, keys_put, keys_cons]
    by_cases hbase : k ∈ base.keys
    · rw [if_pos hbase, List.filter_cons_of_neg (by simpa using hbase)]
    · rw [if_neg hbase, List.filter_cons_of_pos (by simpa using hbase), List.append_assoc,
        List.singleton_append]
      congr 2
      refine List.filter_congr fun other hother => ?_
      have hne : other ≠ k := fun heq => hk (heq ▸ hother)
      simp [hne]

theorem isOverridden_union (h : overrides.keys.Nodup) (base : Entries) :
    IsOverridden base overrides (union base overrides) :=
  ⟨keys_union h base, lookup_union h base⟩

/-- Entries can be overridden in one way only. -/
theorem IsOverridden.eq {result : Entries} (h : IsOverridden base overrides result)
    (hbase : base.keys.Nodup) (hoverrides : overrides.keys.Nodup) :
    union base overrides = result := by
  have hunion := isOverridden_union hoverrides base
  exact ext_lookup (nodup_keys_union hbase overrides) (hunion.keys.trans h.keys.symm)
    fun key => (hunion.lookup key).trans (h.lookup key).symm

/-- Overriding one after another is overriding with both at once. -/
theorem union_assoc {later : Entries} (hbase : base.keys.Nodup) (hoverrides : overrides.keys.Nodup)
    (hlater : later.keys.Nodup) :
    union (union base overrides) later = union base (union overrides later) := by
  have hboth : (union overrides later).keys.Nodup := nodup_keys_union hoverrides later
  refine (IsOverridden.eq ⟨?_, fun key => ?_⟩ hbase hboth).symm
  · rw [keys_union hlater, keys_union hoverrides, keys_union hlater, List.filter_append,
      List.append_assoc, List.filter_filter]
    congr 2
    refine List.filter_congr fun key _ => ?_
    by_cases hkey : key ∈ base.keys <;> simp [hkey]
  · rw [lookup_union hlater, lookup_union hoverrides, lookup_union hlater, Option.or_assoc]

/-- What overrides something overrides it once and for all. -/
theorem union_union_self (hbase : base.keys.Nodup) (hoverrides : overrides.keys.Nodup) :
    union base (union base overrides) = union base overrides := by
  refine IsOverridden.eq ⟨?_, fun key => ?_⟩ hbase (nodup_keys_union hbase overrides)
  · have hnone : base.keys.filter (· ∉ base.keys) = [] := List.filter_eq_nil_iff.mpr (by simp)
    rw [keys_union hoverrides, List.filter_append, hnone, List.nil_append, List.filter_filter]
    congr 1
    exact List.filter_congr fun key _ => by simp
  · rw [lookup_union hoverrides]
    cases overrides.lookup key <;> cases base.lookup key <;> rfl

end Union

end ChatCommands.Entries
