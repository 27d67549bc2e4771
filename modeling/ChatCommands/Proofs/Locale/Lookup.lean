import ChatCommands.Locale.Basic
import ChatCommands.Proofs.Value.Entries

/-!
# Paths of the data

A path leads through maps only: where it meets anything else before its end, it leads nowhere.

## Main results

* `Locale.lookup_append` : a path in two steps.
* `Locale.viewAt?_eq_some_iff` : there is a view exactly where the data has a map.
* `Locale.lookup_append_of_viewAt?` : below a path without a view there is nothing.
-/

namespace ChatCommands.Locale

variable {l : Locale} {path rest : List String}

theorem lookup_append (path rest : List String) (v : Value) :
    lookup (path ++ rest) v = (lookup path v).bind (lookup rest) := by
  induction path generalizing v with
  | nil => rfl
  | cons segment path ih =>
    rw [List.cons_append, lookup, lookup, Option.bind_assoc]
    exact congrArg _ (funext ih)

/-- Only a map has something below it. -/
theorem lookup_of_not_isMap {v : Value} (h : ¬ v.IsMap) (hpath : path ≠ []) :
    lookup path v = none := by
  obtain ⟨segment, rest, rfl⟩ := List.exists_cons_of_ne_nil hpath
  rw [lookup]
  cases v with
  | map isFrozen entries => exact absurd (Value.isMap_map isFrozen entries) h
  | _ => rfl

/-- There is a view at a path exactly when the path leads to a map. -/
theorem viewAt?_eq_some_iff {v : Locale} :
    l.viewAt? path = some v ↔ (∃ w, lookup path l.data = some w ∧ w.IsMap) ∧ v = ⟨l.data, path⟩ := by
  unfold viewAt?
  split
  · rename_i isFrozen entries hlookup
    simp [hlookup, Value.isMap_map, eq_comm]
  · rename_i hnone
    refine iff_of_false nofun ?_
    rintro ⟨⟨w, hw, isFrozen, entries, rfl⟩, -⟩
    exact hnone isFrozen entries hw

theorem viewAt?_eq_none_iff :
    l.viewAt? path = none ↔ ∀ w, lookup path l.data = some w → ¬ w.IsMap := by
  rw [Option.eq_none_iff_forall_ne_some]
  constructor
  · intro h w hw hmap
    exact h ⟨l.data, path⟩ (viewAt?_eq_some_iff.mpr ⟨⟨w, hw, hmap⟩, rfl⟩)
  · intro h v hv
    obtain ⟨⟨w, hw, hmap⟩, -⟩ := viewAt?_eq_some_iff.mp hv
    exact h w hw hmap

/-! ### Below a path without a view -/

theorem lookup_append_of_viewAt? (hrest : rest ≠ []) (h : l.viewAt? path = none) :
    lookup (path ++ rest) l.data = none := by
  rw [lookup_append]
  cases hw : lookup path l.data with
  | none => rfl
  | some w => exact lookup_of_not_isMap (viewAt?_eq_none_iff.mp h w hw) hrest

theorem textAt?_append_of_viewAt? (hrest : rest ≠ []) (h : l.viewAt? path = none) :
    l.textAt? (path ++ rest) = none := by
  rw [textAt?, lookup_append_of_viewAt? hrest h]

theorem viewAt?_append_of_viewAt? (hrest : rest ≠ []) (h : l.viewAt? path = none) :
    l.viewAt? (path ++ rest) = none := by
  rw [viewAt?, lookup_append_of_viewAt? hrest h]

end ChatCommands.Locale
