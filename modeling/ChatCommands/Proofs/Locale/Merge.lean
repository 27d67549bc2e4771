import ChatCommands.Locale.Source
import ChatCommands.Proofs.Document.Keys
import ChatCommands.Proofs.Locale.Lookup
import Mathlib.Data.List.Permutation

/-!
# Merged texts, path by path

A locale file only holds what it changes.  What the merged texts have at a path is told by what
the two sides have there: the override where there is one, merged into the section that it meets
when it is a section itself, and otherwise what was there before.  Nothing is left below a section
that was overridden by something else.

## Main definitions

* `Locale.IsCutOff` : a path that meets something other than a map before its end.
* `Locale.IsOverlay` : what merged texts have at every path.

## Main results

* `Locale.lookup_merge`, `Locale.lookup_merge_of_isCutOff` : what is found at a path of a merged
  map.
* `Locale.merge_overlays` : merging overlays one map on another, and so does loading a file.
-/

namespace ChatCommands.Locale

open Value (merge)

/-! ### Paths that are cut off -/

/-- The path meets something other than a map before its end. -/
def IsCutOff (path : List String) (v : Value) : Prop :=
  ∃ front w, front <+: path ∧ front ≠ path ∧ lookup front v = some w ∧ ¬ w.IsMap

section CutOff

variable {segment : String} {path : List String} {v : Value}

theorem not_isCutOff_nil : ¬ IsCutOff [] v := by
  rintro ⟨front, w, hfront, hne, -⟩
  exact hne (List.prefix_nil.mp hfront)

theorem isCutOff_cons_iff :
    IsCutOff (segment :: path) v ↔
      ¬ v.IsMap ∨ ∃ w, v.entry? segment = some w ∧ IsCutOff path w := by
  constructor
  · rintro ⟨front, w, hfront, hne, hw, hmap⟩
    cases front with
    | nil =>
      cases hw
      exact .inl hmap
    | cons first front =>
      obtain ⟨rfl, hrest⟩ := List.cons_prefix_cons.mp hfront
      obtain ⟨u, hu, hw⟩ := Option.bind_eq_some_iff.mp hw
      exact .inr ⟨u, hu, front, w, hrest, fun h => hne (h ▸ rfl), hw, hmap⟩
  · rintro (hmap | ⟨u, hu, front, w, hfront, hne, hw, hmap⟩)
    · exact ⟨[], v, List.nil_prefix, List.cons_ne_nil segment path |>.symm, rfl, hmap⟩
    · refine ⟨segment :: front, w, List.cons_prefix_cons.mpr ⟨rfl, hfront⟩, ?_, ?_, hmap⟩
      · exact fun h => hne (List.cons.inj h).2
      · rw [lookup, hu, Option.bind_some, hw]

/-- A path that is cut off leads nowhere. -/
theorem IsCutOff.lookup_eq_none (h : IsCutOff path v) : lookup path v = none := by
  obtain ⟨front, w, ⟨back, rfl⟩, hne, hw, hmap⟩ := h
  rw [lookup_append, hw, Option.bind_some]
  exact lookup_of_not_isMap hmap fun hback => hne (by rw [hback, List.append_nil])

end CutOff

/-! ### Merged maps -/

section Merge

variable {base overrides : Value} {path : List String}

theorem lookup_cons_merge {segment : String} (hkeys : overrides.HasDistinctKeys)
    (hbase : base.IsMap) (hoverrides : overrides.IsMap) :
    lookup (segment :: path) (merge base overrides) =
      (Option.merge merge (base.entry? segment) (overrides.entry? segment)).bind (lookup path) := by
  obtain ⟨_, below, rfl⟩ := hbase
  obtain ⟨_, above, rfl⟩ := hoverrides
  rw [lookup, merge, Value.entry?, Value.lookup_mergeEntries hkeys.nodup_keys]
  rfl

theorem hasDistinctKeys_of_entry_eq {segment : String} {v w : Value} (h : v.HasDistinctKeys)
    (hw : v.entry? segment = some w) : w.HasDistinctKeys := by
  cases v with
  | map isFrozen entries => exact h.of_mem (Entries.mem_of_lookup hw)
  | _ => cases hw

/-- Where the path is not cut off in the overrides, a merged map has what either side has, merged
where both have something. -/
theorem lookup_merge (hkeys : overrides.HasDistinctKeys) (hpath : ¬ IsCutOff path overrides) :
    lookup path (merge base overrides) =
      Option.merge merge (lookup path base) (lookup path overrides) := by
  induction path generalizing base overrides with
  | nil => rfl
  | cons segment path ih =>
    obtain ⟨hmap, hbelow⟩ := not_or.mp (mt isCutOff_cons_iff.mpr hpath)
    rw [not_not] at hmap
    by_cases hbase : base.IsMap
    · rw [lookup_cons_merge hkeys hbase hmap, lookup, lookup]
      cases hv : overrides.entry? segment with
      | none => simp
      | some v =>
        cases base.entry? segment with
        | none => simp
        | some w =>
          exact ih (hasDistinctKeys_of_entry_eq hkeys hv) fun hcut => hbelow ⟨v, hv, hcut⟩
    · rw [Value.merge_of_not_isMap fun h => hbase h.1,
        lookup_of_not_isMap hbase (List.cons_ne_nil segment path), Option.merge_none_left]

/-- Where the path is cut off in the overrides, nothing is left of what was there. -/
theorem lookup_merge_of_isCutOff (hkeys : overrides.HasDistinctKeys)
    (hpath : IsCutOff path overrides) : lookup path (merge base overrides) = none := by
  induction path generalizing base overrides with
  | nil => exact absurd hpath not_isCutOff_nil
  | cons segment path ih =>
    by_cases hmaps : base.IsMap ∧ overrides.IsMap
    · obtain ⟨v, hv, hcut⟩ := (isCutOff_cons_iff.mp hpath).resolve_left (not_not.mpr hmaps.2)
      rw [lookup_cons_merge hkeys hmaps.1 hmaps.2, hv]
      cases base.entry? segment with
      | none => exact hcut.lookup_eq_none
      | some w => exact ih (hasDistinctKeys_of_entry_eq hkeys hv) hcut
    · rw [Value.merge_of_not_isMap hmaps]
      exact hpath.lookup_eq_none

end Merge

/-! ### Overlays -/

/-- What merged texts have at every path: an override where there is one, merged into what it meets
when both are sections, and otherwise what was there before, unless the path runs into an override
that is no section. -/
structure IsOverlay (base overrides merged : Value) : Prop where
  sections : ∀ path v w, lookup path overrides = some v → lookup path base = some w → v.IsMap →
    w.IsMap → lookup path merged = some (merge w v)
  overridden : ∀ path v, lookup path overrides = some v →
    ¬ (v.IsMap ∧ ∃ w, lookup path base = some w ∧ w.IsMap) → lookup path merged = some v
  lost : ∀ path, lookup path overrides = none → IsCutOff path overrides → lookup path merged = none
  kept : ∀ path, lookup path overrides = none → ¬ IsCutOff path overrides →
    lookup path merged = lookup path base

theorem isOverlay_merge {base overrides : Value} (hkeys : overrides.HasDistinctKeys) :
    IsOverlay base overrides (merge base overrides) where
  sections path v w hv hw _ _ := by
    have hpath : ¬ IsCutOff path overrides := fun hcut => by simp [hcut.lookup_eq_none] at hv
    rw [lookup_merge hkeys hpath, hv, hw]
    rfl
  overridden path v hv hmaps := by
    have hpath : ¬ IsCutOff path overrides := fun hcut => by simp [hcut.lookup_eq_none] at hv
    rw [lookup_merge hkeys hpath, hv]
    cases hw : lookup path base with
    | none => rfl
    | some w =>
      rw [Option.merge, Value.merge_of_not_isMap fun h => hmaps ⟨h.2, w, hw, h.1⟩]
  lost path _ hcut := lookup_merge_of_isCutOff hkeys hcut
  kept path hnone hpath := by
    rw [lookup_merge hkeys hpath, hnone, Option.merge_none_right]

/-- Merging overlays one map on another.  In particular a file that holds a map can be loaded, and
the locale that it gives overlays what the file holds on the English texts. -/
theorem merge_overlays :
    (∀ base overrides : Value, base.IsMap → overrides.IsMap → overrides.HasDistinctKeys →
      IsOverlay base overrides (base.merge overrides)) ∧
    ∀ (file : String) (content : List UInt8) (overrides : Value),
      Document.ofBytes content = .ok overrides → overrides.IsMap →
      ∃ l, ofFile file true content = .ok l ∧ l.path = [] ∧
        IsOverlay defaults overrides l.data := by
  refine ⟨fun base overrides _ _ hkeys => isOverlay_merge hkeys, ?_⟩
  intro file content overrides hread hmap
  have hoverlay : IsOverlay defaults overrides (defaults.merge overrides) :=
    isOverlay_merge (Document.hasDistinctKeys_ofBytes hread)
  obtain ⟨isFrozen, entries, rfl⟩ := hmap
  refine ⟨⟨defaults.merge (.map isFrozen entries), []⟩, ?_, rfl, hoverlay⟩
  rw [ofFile, hread]
  rfl

/-! ### A terse file -/

/-- One text in the place of the names of permissions, and a section in the place of a reply. -/
def terseText : String :=
  "\x7b\"common\": \x7b\"permissions\": \"all\", \"no_subcommand\": \x7b\"short\": \"?\"\x7d\x7d\x7d"

/-- A file with this text. -/
def terseFile : List UInt8 :=
  terseText.toUTF8.toList

/-- What the file holds. -/
def terse : Value :=
  .map false [("common", .map false
    [("permissions", .text "all"), ("no_subcommand", .map false [("short", .text "?")])])]

theorem text_terseFile : Document.Octets.text terseFile = .ok terseText.toList := by
  decide +kernel

theorem ofBytes_terseFile : Document.ofBytes terseFile = .ok terse := by
  rw [Document.ofBytes, text_terseFile]
  cbv

theorem isCutOff_terse : IsCutOff ["common", "permissions", "kick_members"] terse :=
  ⟨["common", "permissions"], .text "all", by decide, by decide, rfl, nofun⟩

theorem not_isCutOff_terse : ¬ IsCutOff ["common", "list_separator"] terse := by
  simp [isCutOff_cons_iff, not_isCutOff_nil, terse, Value.isMap_map, Value.entry?]

/-- The file overrides a section by a text and a text by a section, and keeps the rest. -/
theorem merge_overlays_terse :
    (defaults.IsMap ∧ terse.IsMap ∧ terse.HasDistinctKeys ∧
      lookup ["common", "permissions", "kick_members"] (defaults.merge terse) = none) ∧
    Document.ofBytes terseFile = .ok terse ∧
    ∃ l, ofFile "terse.json" true terseFile = .ok l ∧
      lookup ["common", "permissions"] l.data = some (.text "all") ∧
      lookup ["common", "permissions", "kick_members"] l.data = none ∧
      lookup ["common", "no_subcommand", "short"] l.data = some (.text "?") ∧
      lookup ["common", "list_separator"] l.data = some (.text ", ") := by
  have hdefaults : defaults.IsMap := Value.isMap_map _ _
  have hterse : terse.IsMap := Value.isMap_map _ _
  have hkeys : terse.HasDistinctKeys := Document.hasDistinctKeys_ofBytes ofBytes_terseFile
  have hmerged := merge_overlays.1 defaults terse hdefaults hterse hkeys
  obtain ⟨l, hl, -, hloaded⟩ :=
    merge_overlays.2 "terse.json" terseFile terse ofBytes_terseFile hterse
  have htext (s : String) : ¬ (Value.text s).IsMap := nofun
  exact ⟨⟨hdefaults, hterse, hkeys, hmerged.lost _ rfl isCutOff_terse⟩, ofBytes_terseFile, l, hl,
    hloaded.overridden _ _ rfl fun h => htext _ h.1, hloaded.lost _ rfl isCutOff_terse,
    hloaded.overridden _ _ rfl fun h => htext _ h.1, hloaded.kept _ rfl not_isCutOff_terse⟩

end ChatCommands.Locale
