import ChatCommands.Document.Reader
import ChatCommands.Proofs.Value.Entries

/-!
# The keys of documents

An object of a document may repeat a name, but the map that is read from it has each key once, at
every depth.

## Main results

* `Document.hasDistinctKeys_read` : what the readers have read has distinct keys.
* `Document.hasDistinctKeys_ofBytes` : the value of a file has distinct keys.
-/

namespace ChatCommands.Document

/-- Steps that end with a value have ended with one each. -/
theorem exists_of_bind_eq_ok {ε α β : Type} {x : Except ε α} {f : α → Except ε β} {b : β}
    (h : x >>= f = .ok b) : ∃ a, x = .ok a ∧ f a = .ok b := by
  cases x with
  | error e => cases h
  | ok a => exact ⟨a, rfl, h⟩

/-! ### Scalars -/

theorem not_isMap_of_mem_words : ∀ w ∈ words, ¬ w.2.IsMap := by
  intro w hw
  simp only [words, List.mem_cons, List.not_mem_nil, or_false] at hw
  rcases hw with rfl | rfl | rfl | rfl | rfl | rfl <;> rintro ⟨_, _, h⟩ <;> cases h

theorem not_isMap_readNumber {chars rest : List Char} {v : Value}
    (h : readNumber chars = .ok (v, rest)) : ¬ v.IsMap := by
  rintro ⟨isFrozen, entries, rfl⟩
  simp only [readNumber, mistakeAt] at h
  repeat' split at h
  all_goals cases h

theorem not_isMap_readScalar {chars rest : List Char} {v : Value}
    (h : readScalar chars = .ok (v, rest)) : ¬ v.IsMap := by
  unfold readScalar at h
  split at h
  · rename_i hfound
    cases h
    exact not_isMap_of_mem_words _ (List.mem_of_find?_eq_some hfound)
  · exact not_isMap_readNumber h

/-! ### Values -/

theorem hasDistinctKeys_of_ne_map {v : Value} (h : ∀ isFrozen entries, v ≠ .map isFrozen entries) :
    v.HasDistinctKeys :=
  .leaf fun ⟨isFrozen, entries, hv⟩ => h isFrozen entries hv

section Step

variable {fuel depth : Nat} {chars rest : List Char}

theorem hasDistinctKeys_readValue_succ {v : Value}
    (hentries : ∀ {depth chars entries rest}, readEntries depth fuel chars = .ok (entries, rest) →
      ∀ e ∈ entries, e.2.HasDistinctKeys)
    (h : readValue depth (fuel + 1) chars = .ok (v, rest)) : v.HasDistinctKeys := by
  cases chars with
  | nil => cases h
  | cons c chars =>
    rw [readValue.eq_def] at h
    dsimp only at h
    split at h
    · obtain ⟨⟨s, after⟩, -, h⟩ := exists_of_bind_eq_ok h
      cases h
      exact hasDistinctKeys_of_ne_map nofun
    split at h
    · cases depth with
      | zero => cases h
      | succ depth =>
        dsimp only at h
        split at h
        · cases h
          exact .map List.nodup_nil nofun
        · obtain ⟨⟨entries, after⟩, hread, h⟩ := exists_of_bind_eq_ok h
          cases h
          exact .map (Entries.nodup_keys_ofList entries) fun e he =>
            hentries hread e (Entries.mem_ofList he)
    split at h
    · cases depth with
      | zero => cases h
      | succ depth =>
        dsimp only at h
        split at h
        · cases h
          exact hasDistinctKeys_of_ne_map nofun
        · obtain ⟨⟨items, after⟩, -, h⟩ := exists_of_bind_eq_ok h
          cases h
          exact hasDistinctKeys_of_ne_map nofun
    · exact .leaf (not_isMap_readScalar h)

theorem hasDistinctKeys_readEntries_succ {entries : List (String × Value)}
    (hvalue : ∀ {depth chars v rest}, readValue depth fuel chars = .ok (v, rest) →
      v.HasDistinctKeys)
    (hentries : ∀ {depth chars entries rest}, readEntries depth fuel chars = .ok (entries, rest) →
      ∀ e ∈ entries, e.2.HasDistinctKeys)
    (h : readEntries depth (fuel + 1) chars = .ok (entries, rest)) :
    ∀ e ∈ entries, e.2.HasDistinctKeys := by
  rw [readEntries.eq_def] at h
  dsimp only at h
  split at h
  · cases h
  · rename_i heq
    cases heq
    obtain ⟨⟨name, after⟩, -, h⟩ := exists_of_bind_eq_ok h
    dsimp only at h
    split at h
    · obtain ⟨⟨v, after⟩, hread, h⟩ := exists_of_bind_eq_ok h
      dsimp only at h
      split at h
      · cases h
        exact List.forall_mem_singleton.mpr (hvalue hread)
      · obtain ⟨⟨more, after⟩, hmore, h⟩ := exists_of_bind_eq_ok h
        cases h
        exact List.forall_mem_cons.mpr ⟨hvalue hread, hentries hmore⟩
      · cases h
    · cases h
  · cases h

end Step

/-- The values that are read have distinct keys, and so have the values of entries. -/
theorem hasDistinctKeys_read (fuel : Nat) :
    (∀ {depth chars v rest}, readValue depth fuel chars = .ok (v, rest) → v.HasDistinctKeys) ∧
    ∀ {depth chars entries rest}, readEntries depth fuel chars = .ok (entries, rest) →
      ∀ e ∈ entries, e.2.HasDistinctKeys := by
  induction fuel with
  | zero => exact ⟨nofun, nofun⟩
  | succ fuel ih =>
    exact ⟨fun h => hasDistinctKeys_readValue_succ ih.2 h,
      fun h => hasDistinctKeys_readEntries_succ ih.1 ih.2 h⟩

theorem hasDistinctKeys_readWhole {text : List Char} {v : Value} (h : readWhole text = .ok v) :
    v.HasDistinctKeys := by
  unfold readWhole at h
  split at h
  · cases h
  · obtain ⟨⟨w, rest⟩, hread, h⟩ := exists_of_bind_eq_ok h
    dsimp only at h
    split at h
    · cases h
      exact (hasDistinctKeys_read _).1 hread
    · cases h

/-- The value of a file has distinct keys. -/
theorem hasDistinctKeys_ofBytes {bytes : List UInt8} {v : Value} (h : ofBytes bytes = .ok v) :
    v.HasDistinctKeys := by
  obtain ⟨text, -, h⟩ := exists_of_bind_eq_ok h
  rw [ofText] at h
  cases hwhole : readWhole (lines text) with
  | error e =>
    rw [hwhole] at h
    cases h
  | ok w =>
    rw [hwhole] at h
    cases h
    exact hasDistinctKeys_readWhole hwhole

end ChatCommands.Document
