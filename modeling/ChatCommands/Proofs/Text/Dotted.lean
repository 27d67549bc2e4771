import ChatCommands.Text.Blank

/-!
# Pieces of dotted names

A text has as many pieces as it has marks and one more, so there is always one, and a text without
the mark is its only piece.  Pieces without dots are found again in the dotted name that they make
up, also when more follows on it.

## Main definitions

* `Text.ArePieces` : what a dotted name can be cut into.

## Main results

* `Text.dotted_ne_nil` : a dotted name has a piece.
* `Text.dotted_of_not_mem` : a name without dots is one piece.
* `Text.dotted_dot`, `Text.dotted_dot_append` : the pieces of a dotted name.
-/

namespace ChatCommands.Text

variable {mark : Char}

theorem splitFrom_ne_nil (piece chars : List Char) : splitFrom mark piece chars ≠ [] := by
  induction chars generalizing piece with
  | nil => exact List.cons_ne_nil _ _
  | cons c rest ih =>
    rw [splitFrom]
    split
    · exact List.cons_ne_nil _ _
    · exact ih _

theorem dotted_ne_nil (s : String) : dotted s ≠ [] :=
  fun h => splitFrom_ne_nil _ _ (List.map_eq_nil_iff.mp h)

/-- Characters without the mark go into the open piece. -/
theorem splitFrom_of_not_mem {chars : List Char} (h : mark ∉ chars) (piece : List Char) :
    splitFrom mark piece chars = [piece.reverse ++ chars] := by
  induction chars generalizing piece with
  | nil => rw [splitFrom, List.append_nil]
  | cons c rest ih =>
    obtain ⟨hc, hrest⟩ := not_or.mp (mt List.mem_cons.mpr h)
    rw [splitFrom, if_neg (Ne.symm hc), ih hrest, List.reverse_cons, List.append_assoc,
      List.singleton_append]

/-- A name without dots is its only piece. -/
theorem dotted_of_not_mem {s : String} (h : '.' ∉ s.toList) : dotted s = [s] := by
  rw [dotted, splitAt, splitFrom_of_not_mem h]
  exact congrArg (· :: []) String.ofList_toList

/-! ### Pieces put together -/

/-- The characters up to a mark are a piece of their own. -/
theorem splitFrom_append_cons {front : List Char} (h : mark ∉ front) (piece back : List Char) :
    splitFrom mark piece (front ++ mark :: back) =
      (piece.reverse ++ front) :: splitFrom mark [] back := by
  induction front generalizing piece with
  | nil => simp [splitFrom]
  | cons c rest ih =>
    obtain ⟨hc, hrest⟩ := not_or.mp (mt List.mem_cons.mpr h)
    rw [List.cons_append, splitFrom, if_neg (Ne.symm hc), ih hrest, List.reverse_cons,
      List.append_assoc, List.singleton_append]

/-- No piece has the mark in it, if the open one has not. -/
theorem not_mem_of_mem_splitFrom {piece chars found : List Char} (hpiece : mark ∉ piece)
    (h : found ∈ splitFrom mark piece chars) : mark ∉ found := by
  induction chars generalizing piece with
  | nil =>
    rw [List.mem_singleton.mp h, List.mem_reverse]
    exact hpiece
  | cons c rest ih =>
    rw [splitFrom] at h
    split at h
    · rcases List.mem_cons.mp h with rfl | h
      · rwa [List.mem_reverse]
      · exact ih List.not_mem_nil h
    · rename_i hc
      exact ih (fun hmem => (List.mem_cons.mp hmem).elim (fun h => hc h.symm) hpiece) h

/-- Texts that a dotted name can be cut into: at least one, and none with a dot in it. -/
structure ArePieces (pieces : List String) : Prop where
  ne_nil : pieces ≠ []
  undotted : ∀ piece ∈ pieces, '.' ∉ piece.toList

theorem arePieces_dotted (s : String) : ArePieces (dotted s) where
  ne_nil := dotted_ne_nil s
  undotted piece hpiece := by
    obtain ⟨chars, hchars, rfl⟩ := List.mem_map.mp hpiece
    rw [String.toList_ofList]
    exact not_mem_of_mem_splitFrom List.not_mem_nil hchars

theorem dotted_append_dot {front : String} (h : '.' ∉ front.toList) (back : String) :
    dotted (front ++ "." ++ back) = front :: dotted back := by
  have hchars : (front ++ "." ++ back).toList = front.toList ++ '.' :: back.toList := by simp
  rw [dotted, splitAt, hchars, splitFrom_append_cons h, List.map_cons, List.reverse_nil,
    List.nil_append, String.ofList_toList]
  rfl

/-- What follows on a dotted name leaves its pieces as they are. -/
theorem dotted_dot_append {pieces : List String} (h : ArePieces pieces) (s : String) :
    dotted (dot pieces ++ "." ++ s) = pieces ++ dotted s := by
  obtain ⟨hne, hundotted⟩ := h
  induction pieces with
  | nil => exact absurd rfl hne
  | cons piece rest ih =>
    obtain ⟨hpiece, hrest⟩ := List.forall_mem_cons.mp hundotted
    by_cases hnil : rest = []
    · subst hnil
      rw [dot, String.intercalate_singleton, dotted_append_dot hpiece]
      rfl
    · rw [dot, String.intercalate_cons_of_ne_nil hnil, String.append_assoc, String.append_assoc,
        dotted_append_dot hpiece, ← String.append_assoc]
      exact congrArg (piece :: ·) (ih hnil hrest)

/-- The pieces of a dotted name are those that it is made up of. -/
theorem dotted_dot {pieces : List String} (h : ArePieces pieces) : dotted (dot pieces) = pieces := by
  obtain ⟨front, last, rfl⟩ := pieces.eq_nil_or_concat.resolve_left h.ne_nil
  rw [List.concat_eq_append] at h ⊢
  have hlast : dotted last = [last] := dotted_of_not_mem (h.undotted last (by simp))
  by_cases hnil : front = []
  · subst hnil
    rw [List.nil_append, dot, String.intercalate_singleton, hlast]
  · have hfront : ArePieces front :=
      ⟨hnil, fun piece hpiece => h.undotted piece (List.mem_append_left _ hpiece)⟩
    rw [dot, String.intercalate_append_of_ne_nil hnil (List.cons_ne_nil _ _),
      String.intercalate_singleton]
    exact (dotted_dot_append hfront last).trans (congrArg _ hlast)

end ChatCommands.Text
