import ChatCommands.Template.Format
import Mathlib.Data.List.TakeWhile

/-!
# Positional templates

A template is positional for a number of arguments when all of its fields are bare positions of
them: no parts, no conversion and no layout.  Any arguments can then be filled in, whatever their
kinds are.

## Main definitions

* `Template.isPositional` : whether a template is positional.
* `Template.inserted` : a template with texts in the place of its fields.

## Main results

* `Template.format_of_isPositional` : a positional template is filled in with the arguments as they
  are.
-/

namespace ChatCommands.Template

/-- Whether a segment is a character, or a field that is a bare position below a bound. -/
def Segment.isPositional (count : Nat) : Segment → Bool
  | .character _ => true
  | .mistake _ => false
  | .field f =>
    f.conversion.isNone && f.layout.isEmpty && !f.isNested && !f.name.isEmpty &&
      f.name.all (fun c => !endsPart c) &&
      match positionOf? f.name with
      | .ok (some n) => decide (n < count)
      | _ => false

/-- Whether every field of a template is a bare position below a bound. -/
def isPositional (count : Nat) (template : String) : Bool :=
  (segments template.toList).all (Segment.isPositional count)

/-- What a segment with a bare position is filled in to. -/
def Segment.inserted (texts : List String) : Segment → List Char
  | .character c => [c]
  | .mistake _ => []
  | .field f =>
    match positionOf? f.name with
    | .ok (some n) => (texts[n]?.getD "").toList
    | _ => []

/-- A template with texts in the place of the fields at their positions. -/
def inserted (texts : List String) (template : String) : String :=
  String.ofList ((segments template.toList).flatMap (Segment.inserted texts))

variable {args : List Value}

/-- The argument at a bare position; the numbering stays manual. -/
theorem argument_of_position {name : List Char} {n : Nat} {v : Value} {numbering : Numbering}
    (hname : name.isEmpty = false) (hparts : name.all (fun c => !endsPart c) = true)
    (hn : positionOf? name = .ok (some n)) (hv : args[n]? = some v)
    (hnumbering : numbering = .undecided ∨ numbering = .manual) :
    argument args numbering name = .ok (.value v, .manual) := by
  have htake : name.takeWhile (fun c => !endsPart c) = name :=
    List.takeWhile_eq_self_iff.mpr (List.all_eq_true.mp hparts)
  have hdrop : name.dropWhile (fun c => !endsPart c) = [] :=
    List.dropWhile_eq_nil_iff.mpr (List.all_eq_true.mp hparts)
  have hhead : headArgument args numbering name = .ok (v, .manual) := by
    rw [headArgument, hn, hname]
    rcases hnumbering with rfl | rfl <;> simp only [bind, Except.bind, hv] <;> rfl
  rw [argument, htake, hdrop, hhead]
  rfl

theorem fillSegment_of_isPositional {s : Segment} (hs : s.isPositional args.length = true)
    (inner : Numbering → List Char → Except TemplateError Filled) {numbering : Numbering}
    (hnumbering : numbering = .undecided ∨ numbering = .manual) :
    ∃ after, fillSegment args inner numbering s = .ok ⟨s.inserted (args.map Value.plain), after⟩ ∧
      (after = .undecided ∨ after = .manual) := by
  cases s with
  | character c => exact ⟨numbering, rfl, hnumbering⟩
  | mistake e => cases hs
  | field f =>
    obtain ⟨name, conversion, layout, isNested⟩ := f
    simp only [Segment.isPositional, Bool.and_eq_true, Option.isNone_iff_eq_none,
      List.isEmpty_iff, Bool.not_eq_true'] at hs
    obtain ⟨⟨⟨⟨⟨rfl, rfl⟩, rfl⟩, hname⟩, hparts⟩, hposition⟩ := hs
    split at hposition
    · rename_i n hn
      have hlt : n < args.length := of_decide_eq_true hposition
      refine ⟨.manual, ?_, .inr rfl⟩
      have hargument := argument_of_position hname hparts hn (List.getElem?_eq_getElem hlt)
        hnumbering
      have htext : (args.map Value.plain)[n]?.getD "" = args[n].plain := by
        rw [List.getElem?_map, List.getElem?_eq_getElem hlt, Option.map_some, Option.getD_some]
      rw [fillSegment, hargument, Segment.inserted, hn]
      simp only [htext]
      rfl
    · cases hposition

theorem fillSegments_of_isPositional {items : List Segment}
    (hitems : ∀ s ∈ items, s.isPositional args.length = true)
    (inner : Numbering → List Char → Except TemplateError Filled) {numbering : Numbering}
    (hnumbering : numbering = .undecided ∨ numbering = .manual) :
    ∃ after, fillSegments args inner numbering items =
      .ok ⟨items.flatMap (Segment.inserted (args.map Value.plain)), after⟩ := by
  induction items generalizing numbering with
  | nil => exact ⟨_, rfl⟩
  | cons s rest ih =>
    obtain ⟨hs, hrest⟩ := List.forall_mem_cons.mp hitems
    obtain ⟨after, hfirst, hafter⟩ := fillSegment_of_isPositional hs inner hnumbering
    obtain ⟨last, hothers⟩ := ih hrest hafter
    refine ⟨last, ?_⟩
    rw [fillSegments, hfirst]
    simp only [bind, Except.bind, hothers]
    rfl

/-- A positional template is filled in with the arguments as they are. -/
theorem format_of_isPositional {template : String}
    (h : isPositional args.length template = true) :
    format template args = .ok (inserted (args.map Value.plain) template) := by
  obtain ⟨after, hp⟩ := fillSegments_of_isPositional (List.all_eq_true.mp h) (fill args 1)
    (.inl (rfl : Numbering.undecided = .undecided))
  rw [format, fill, segments, ← segments, hp]
  rfl

end ChatCommands.Template
