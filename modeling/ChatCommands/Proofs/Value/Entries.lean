import ChatCommands.Value.Entries
import Mathlib.Data.List.Nodup

/-!
# Entries by key

Setting a key changes what is found under it and nothing else, and never puts a key in twice.  A
merged map has under each key what its two sides have there, merged where both have something.

## Main definitions

* `Entries.keys` : the keys of entries, in order.
* `Value.IsMap` : the maps.
* `Value.HasDistinctKeys` : no map that is reached through maps has a key twice.

## Main results

* `Entries.lookup_put`, `Entries.keys_put` : what is found after a key has been set, and the keys.
* `Entries.nodup_keys_ofList` : entries from a list have each key once.
* `Value.lookup_mergeEntries` : what is found under a key of merged entries.
-/

namespace ChatCommands

namespace Entries

/-- The keys of entries, in order. -/
def keys (entries : Entries) : List String :=
  entries.map Prod.fst

theorem lookup_eq_none_iff_keys {entries : Entries} {key : String} :
    entries.lookup key = none ↔ key ∉ entries.keys := by
  simp only [keys, List.lookup_eq_none_iff, List.mem_map, bne_iff_ne, not_exists, not_and]
  exact forall₂_congr fun e _ => ne_comm

theorem lookup_cons_eq (k : String) (w : Value) (rest : Entries) (key : String) :
    List.lookup key ((k, w) :: rest) = if key = k then some w else rest.lookup key := by
  rw [List.lookup_cons]
  by_cases h : key = k
  · simp [h]
  · rw [beq_false_of_ne h, if_neg h]

theorem mem_of_lookup {entries : Entries} {key : String} {v : Value}
    (h : entries.lookup key = some v) : (key, v) ∈ entries := by
  obtain ⟨front, back, rfl, -⟩ := List.lookup_eq_some_iff.mp h
  simp

section Put

variable (key : String) (v : Value)

theorem lookup_put (entries : Entries) (other : String) :
    (put key v entries).lookup other = if other = key then some v else entries.lookup other := by
  induction entries with
  | nil => rw [put, lookup_cons_eq]
  | cons e rest ih =>
    obtain ⟨k, w⟩ := e
    rw [put, lookup_cons_eq]
    split
    · rename_i hk
      subst hk
      rw [lookup_cons_eq]
      split <;> rfl
    · rename_i hk
      rw [lookup_cons_eq, ih]
      by_cases h : other = k
      · rw [if_pos h, if_pos h, if_neg (h ▸ hk)]
      · rw [if_neg h, if_neg h]

theorem keys_put (entries : Entries) :
    (put key v entries).keys = if key ∈ entries.keys then entries.keys else entries.keys ++ [key] := by
  induction entries with
  | nil => simp [put, keys]
  | cons e rest ih =>
    rw [put]
    by_cases hk : e.1 = key
    · simp [hk, keys]
    · have hkey : key ∈ keys (e :: rest) ↔ key ∈ keys rest := by
        simp [keys, Ne.symm hk]
      simp only [if_neg hk, hkey]
      change e.1 :: keys (put key v rest) = _
      rw [ih]
      split <;> rfl

variable {key v}

theorem nodup_keys_put {entries : Entries} (h : entries.keys.Nodup) :
    (put key v entries).keys.Nodup := by
  rw [keys_put]
  split
  · exact h
  · rename_i hkey
    rw [← List.concat_eq_append]
    exact h.concat hkey

/-- Setting a key brings in its value only. -/
theorem mem_put {entries : Entries} {e : String × Value} (h : e ∈ put key v entries) :
    e ∈ entries ∨ e = (key, v) := by
  induction entries with
  | nil => exact .inr (List.mem_singleton.mp h)
  | cons first rest ih =>
    rw [put] at h
    split at h
    · rcases List.mem_cons.mp h with h | h
      · exact .inr h
      · exact .inl (List.mem_cons_of_mem _ h)
    · rcases List.mem_cons.mp h with h | h
      · exact .inl (h ▸ List.mem_cons_self)
      · exact (ih h).imp_left (List.mem_cons_of_mem _)

end Put

theorem nodup_keys_union {base : Entries} (h : base.keys.Nodup) (overrides : Entries) :
    (union base overrides).keys.Nodup := by
  induction overrides generalizing base with
  | nil => exact h
  | cons e rest ih => exact ih (nodup_keys_put h)

theorem mem_union {base overrides : Entries} {e : String × Value} (h : e ∈ union base overrides) :
    e ∈ base ∨ e ∈ overrides := by
  induction overrides generalizing base with
  | nil => exact .inl h
  | cons first rest ih =>
    rcases ih h with h | h
    · exact (mem_put h).imp_right fun h => List.mem_cons.mpr (.inl h)
    · exact .inr (List.mem_cons_of_mem _ h)

theorem nodup_keys_ofList (entries : List (String × Value)) : (ofList entries).keys.Nodup :=
  nodup_keys_union (show (keys []).Nodup from List.nodup_nil) entries

theorem mem_ofList {entries : List (String × Value)} {e : String × Value}
    (h : e ∈ ofList entries) : e ∈ entries :=
  (mem_union h).resolve_left List.not_mem_nil

end Entries

namespace Value

/-- Whether a value is a map. -/
def IsMap (v : Value) : Prop :=
  ∃ isFrozen entries, v = .map isFrozen entries

/-- No map that is reached through maps has a key twice. -/
inductive HasDistinctKeys : Value → Prop
  | map {isFrozen : Bool} {entries : Entries} (hkeys : entries.keys.Nodup)
      (hentries : ∀ e ∈ entries, HasDistinctKeys e.2) : HasDistinctKeys (.map isFrozen entries)
  | leaf {v : Value} (h : ¬ v.IsMap) : HasDistinctKeys v

theorem isMap_map (isFrozen : Bool) (entries : Entries) : (Value.map isFrozen entries).IsMap :=
  ⟨isFrozen, entries, rfl⟩

theorem HasDistinctKeys.nodup_keys {isFrozen : Bool} {entries : Entries}
    (h : (Value.map isFrozen entries).HasDistinctKeys) : entries.keys.Nodup := by
  cases h with
  | map hkeys hentries => exact hkeys
  | leaf h => exact absurd (isMap_map isFrozen entries) h

theorem HasDistinctKeys.of_mem {isFrozen : Bool} {entries : Entries}
    (h : (Value.map isFrozen entries).HasDistinctKeys) {e : String × Value} (he : e ∈ entries) :
    e.2.HasDistinctKeys := by
  cases h with
  | map hkeys hentries => exact hentries e he
  | leaf h => exact absurd (isMap_map isFrozen entries) h

/-! ### Merging -/

/-- Unless both sides are maps, the override is taken. -/
theorem merge_of_not_isMap {base override : Value} (h : ¬ (base.IsMap ∧ override.IsMap)) :
    base.merge override = override := by
  unfold merge
  split
  · exact absurd ⟨isMap_map _ _, isMap_map _ _⟩ h
  · rfl

/-- Under a key of merged entries is what either side has there, merged where both have
something. -/
theorem lookup_mergeEntries {overrides : Entries} (hkeys : overrides.keys.Nodup) (base : Entries)
    (key : String) :
    (mergeEntries base overrides).lookup key =
      Option.merge merge (base.lookup key) (overrides.lookup key) := by
  induction overrides generalizing base with
  | nil => simp [mergeEntries]
  | cons e rest ih =>
    obtain ⟨k, v⟩ := e
    obtain ⟨hk, hrest⟩ := List.nodup_cons.mp hkeys
    rw [mergeEntries, ih hrest, Entries.lookup_put]
    by_cases h : key = k
    · -- The key does not come again, so what is set here stays.
      subst h
      have hnone : List.lookup key rest = none := Entries.lookup_eq_none_iff_keys.mpr hk
      rw [if_pos rfl, hnone, List.lookup_cons_self, Option.merge_none_right]
      cases base.lookup key <;> rfl
    · rw [if_neg h, Entries.lookup_cons_eq, if_neg h]

end Value

end ChatCommands
