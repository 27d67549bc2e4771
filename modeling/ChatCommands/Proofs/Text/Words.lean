import ChatCommands.Text.Blank
import Mathlib.Data.List.Basic

/-!
# Words and the gaps between them

A text is a sequence of words with gaps of blanks in front of them, between them and behind them,
where only the outer gaps may be empty.  Every text is spaced in this way, and its words are the
words that are found in it: each is a maximal run, and nothing but blanks is left out.

## Main definitions

* `IsWord`, `IsGap` : texts without blanks, and texts of blanks.
* `spaced` : a text from its words and gaps.
* `IsSpacing` : words and gaps that a text can be made of.

## Main results

* `words_spaced` : the words of a spaced text.
* `exists_isSpacing` : every text is spaced.
-/

namespace ChatCommands.Text

/-- A word: some characters, none of them blank. -/
structure IsWord (s : String) : Prop where
  ne_empty : s ≠ ""
  not_blank : ∀ c ∈ s.toList, isBlank c = false

-- A text is gone through by its characters, and not through all characters that there are.
instance (s : String) : Decidable (IsWord s) :=
  decidable_of_iff (s ≠ "" ∧ s.toList.any isBlank = false)
    ⟨fun h => ⟨h.1, fun c hc => eq_false_of_ne_true (List.any_eq_false.mp h.2 c hc)⟩,
      fun h => ⟨h.ne_empty, List.any_eq_false.mpr fun c hc => ne_true_of_eq_false (h.not_blank c hc)⟩⟩

/-- A gap: blanks only, or nothing. -/
def IsGap (s : String) : Prop :=
  ∀ c ∈ s.toList, isBlank c = true

instance (s : String) : Decidable (IsGap s) :=
  decidable_of_iff (s.toList.all isBlank = true) List.all_eq_true

/-- A text from the gap in front of it and its words, each with the gap behind it. -/
def spaced (front : String) : List (String × String) → String
  | [] => front
  | (word, gap) :: rest => front ++ word ++ spaced gap rest

/-- The gap in front of a text and its words with the gaps behind them: a gap between two words is
not empty. -/
inductive IsSpacing : String → List (String × String) → Prop
  | nil {front : String} (hfront : IsGap front) : IsSpacing front []
  | cons {front word gap : String} {rest : List (String × String)} (hfront : IsGap front)
      (hword : IsWord word) (hrest : IsSpacing gap rest) (hapart : rest ≠ [] → gap ≠ "") :
      IsSpacing front ((word, gap) :: rest)

/-! ### Finding words -/

/-- Blanks in front of a text are passed over. -/
theorem wordsFrom_gap_append {gap : List Char} (hgap : ∀ c ∈ gap, isBlank c = true)
    (rest : List Char) : wordsFrom [] (gap ++ rest) = wordsFrom [] rest := by
  induction gap with
  | nil => rfl
  | cons c gap ih =>
    obtain ⟨hc, hgap⟩ := List.forall_mem_cons.mp hgap
    rw [List.cons_append, wordsFrom, if_pos hc, if_pos List.isEmpty_nil, ih hgap]

/-- Characters that are not blank go into the open word. -/
theorem wordsFrom_word_append {word : List Char} (hword : ∀ c ∈ word, isBlank c = false)
    (opened rest : List Char) :
    wordsFrom opened (word ++ rest) = wordsFrom (word.reverse ++ opened) rest := by
  induction word generalizing opened with
  | nil => rfl
  | cons c word ih =>
    obtain ⟨hc, hword⟩ := List.forall_mem_cons.mp hword
    rw [List.cons_append, wordsFrom, if_neg (Bool.eq_false_iff.mp hc), ih hword,
      List.reverse_cons, List.append_assoc, List.singleton_append]

/-- The open word ends at a blank and at the end of the text. -/
theorem wordsFrom_of_head?_blank {opened : List Char} (hopened : opened ≠ []) {rest : List Char}
    (hrest : ∀ c ∈ rest.head?, isBlank c = true) :
    wordsFrom opened rest = opened.reverse :: wordsFrom [] rest := by
  have hopen : opened.isEmpty = false := List.isEmpty_eq_false_iff.mpr hopened
  cases rest with
  | nil =>
    rw [wordsFrom, if_neg (Bool.eq_false_iff.mp hopen)]
    rfl
  | cons c rest =>
    have hc : isBlank c = true := hrest c rfl
    rw [wordsFrom, wordsFrom, if_pos hc, if_pos hc, if_neg (Bool.eq_false_iff.mp hopen),
      if_pos List.isEmpty_nil]

/-! ### Spaced texts -/

section Spaced

variable {front gap : String} {pieces rest : List (String × String)}

theorem IsSpacing.isGap (h : IsSpacing front pieces) : IsGap front := by
  cases h with
  | nil hfront => exact hfront
  | cons hfront => exact hfront

/-- What follows on a word starts with a blank, unless it is empty. -/
theorem IsSpacing.head?_blank (h : IsSpacing gap rest) (hapart : rest ≠ [] → gap ≠ "") :
    ∀ c ∈ (spaced gap rest).toList.head?, isBlank c = true := by
  intro c hc
  refine h.isGap c (List.mem_of_mem_head? ?_)
  cases rest with
  | nil => exact hc
  | cons piece rest =>
    have hgap : gap.toList ≠ [] := fun hnil =>
      hapart (List.cons_ne_nil _ _) (String.toList_eq_nil_iff.mp hnil)
    rwa [spaced, String.toList_append, String.toList_append, List.append_assoc,
      List.head?_append_of_ne_nil _ hgap] at hc

theorem IsSpacing.wordsFrom_eq (h : IsSpacing front pieces) :
    wordsFrom [] (spaced front pieces).toList = pieces.map fun piece => piece.1.toList := by
  induction h with
  | nil hfront =>
    have hend := wordsFrom_gap_append hfront []
    rwa [List.append_nil] at hend
  | @cons front word gap rest hfront hword hrest hapart ih =>
    have hne : word.toList.reverse ≠ [] := fun hnil =>
      hword.ne_empty (String.toList_eq_nil_iff.mp (List.reverse_eq_nil_iff.mp hnil))
    rw [spaced, String.toList_append, String.toList_append, List.append_assoc,
      wordsFrom_gap_append hfront, wordsFrom_word_append hword.not_blank, List.append_nil,
      wordsFrom_of_head?_blank hne (hrest.head?_blank hapart), ih, List.reverse_reverse,
      List.map_cons]

/-- The words of a spaced text are those that it is made of. -/
theorem words_spaced (h : IsSpacing front pieces) :
    words (spaced front pieces) = pieces.map Prod.fst := by
  rw [words, h.wordsFrom_eq, List.map_map]
  exact List.map_congr_left fun piece _ => String.ofList_toList

theorem spaced_append (front : String) (pieces : List (String × String)) (s : String) :
    spaced (s ++ front) pieces = s ++ spaced front pieces := by
  cases pieces with
  | nil => rfl
  | cons piece rest => simp only [spaced, String.append_assoc]

theorem isWord_singleton {c : Char} (hc : isBlank c = false) : IsWord (String.singleton c) := by
  refine ⟨String.singleton_ne_empty, fun d hd => ?_⟩
  rw [String.toList_singleton, List.mem_singleton] at hd
  rwa [hd]

theorem IsWord.append {s word : String} (hs : IsWord s) (hword : IsWord word) :
    IsWord (s ++ word) := by
  refine ⟨fun hnil => hs.ne_empty (String.append_eq_empty_iff.mp hnil).1, fun c hc => ?_⟩
  rw [String.toList_append, List.mem_append] at hc
  exact hc.elim (hs.not_blank c) (hword.not_blank c)

/-- A character in front of a spaced text leaves it spaced: it joins the first gap or the first
word, or it is a word of its own. -/
theorem IsSpacing.exists_append (h : IsSpacing front pieces) (c : Char) :
    ∃ front' pieces', IsSpacing front' pieces' ∧
      spaced front' pieces' = String.singleton c ++ spaced front pieces := by
  by_cases hc : isBlank c = true
  · have hgap : IsGap (String.singleton c ++ front) := fun d hd => by
      rw [String.toList_append, String.toList_singleton, List.singleton_append] at hd
      rcases List.mem_cons.mp hd with rfl | hd
      · exact hc
      · exact h.isGap d hd
    refine ⟨String.singleton c ++ front, pieces, ?_, spaced_append front pieces _⟩
    cases h with
    | nil => exact .nil hgap
    | cons _ hword hrest hapart => exact .cons hgap hword hrest hapart
  · have hempty : IsGap "" := nofun
    have hword : IsWord (String.singleton c) := isWord_singleton (Bool.eq_false_iff.mpr hc)
    by_cases hfront : front = ""
    · subst hfront
      cases h with
      | nil hgap => exact ⟨"", [(String.singleton c, "")], .cons hempty hword (.nil hgap) nofun, rfl⟩
      | @cons _ word gap rest _ hword' hrest hapart =>
        exact ⟨"", (String.singleton c ++ word, gap) :: rest,
          .cons hempty (hword.append hword') hrest hapart, by
            simp only [spaced, String.append_assoc, String.empty_append]⟩
    · exact ⟨"", (String.singleton c, front) :: pieces,
        .cons hempty hword h fun _ => hfront, by simp only [spaced, String.empty_append]⟩

/-- Every text is spaced. -/
theorem exists_isSpacing (s : String) :
    ∃ front pieces, IsSpacing front pieces ∧ spaced front pieces = s := by
  obtain ⟨cs, rfl⟩ : ∃ cs, s = String.ofList cs := ⟨s.toList, String.ofList_toList.symm⟩
  induction cs with
  | nil => exact ⟨"", [], .nil nofun, rfl⟩
  | cons c cs ih =>
    obtain ⟨front, pieces, hspacing, hspaced⟩ := ih
    obtain ⟨front', pieces', hspacing', hspaced'⟩ := hspacing.exists_append c
    refine ⟨front', pieces', hspacing', ?_⟩
    rw [hspaced', hspaced, String.singleton_eq_ofList, ← String.ofList_append, List.singleton_append]

end Spaced

end ChatCommands.Text
