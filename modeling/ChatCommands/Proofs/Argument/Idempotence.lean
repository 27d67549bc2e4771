import ChatCommands.Proofs.Argument.Decomposition
import ChatCommands.Proofs.Decimal.RoundTrip

/-!
# Coercing the text of a value again

A value that a built-in type gives has a plain text, and the type accepts that text again with the
same value: a text is its own text, the digits of a mention are a mention, the name of a truth
value names it, and the shortest digits of a number read back.  There is one exception.  A literal
that passes every finite number gives an infinity, whose text is a word and no literal, so that it
is refused.

## Main definitions

* `Value.IsInfinite` : the two infinities.
* `Strategy.accepted?` : the value by which a strategy accepts a text.
* `Strategy.Rereads` : what a strategy makes of the texts of its own values.

## Main results

* `Strategy.rereads_text`, `Strategy.rereads_number`, `Strategy.rereads_boolean`,
  `Strategy.rereads_mention` : what the built-in strategies make of them.
* `coerce_plain_iff` : coercing the text of a coerced value gives the value again if and only if
  it is not an infinity.
-/

namespace ChatCommands

/-- A number that is larger than every finite one, or smaller. -/
def Value.IsInfinite (v : Value) : Prop :=
  ∃ negative, v = .float (.infinity negative)

namespace Strategy

/-! ### Acceptance -/

/-- The value by which a strategy accepts a text. -/
def accepted? (strategy : Strategy) (s : String) : Option Value := do
  let v ← (strategy (.text s)).toOption
  if v.isUnset then none else some v

theorem accepted?_number (s : String) :
    accepted? number s = (decimal? s.toList).map Value.float := by
  simp only [accepted?, number, matched, bind, Except.bind]
  cases decimal? s.toList <;> rfl

theorem accepted?_boolean (s : String) : accepted? boolean s = (truth? s).map Value.bool := by
  simp only [accepted?, boolean]
  cases truth? s <;> rfl

theorem accepted?_mention (kind : MentionKind) (s : String) :
    accepted? (mention kind) s =
      (mention? kind s.toList).map fun digits => .text (String.ofList digits) := by
  simp only [accepted?, mention, matched, bind, Except.bind]
  cases mention? kind s.toList <;> rfl

/-! ### The texts of a strategy's own values -/

/-- A strategy refuses the texts of its infinities, and accepts the texts of its other values as
the same values. -/
def Rereads (strategy : Strategy) : Prop :=
  ∀ s v, accepted? strategy s = some v →
    (v.IsInfinite ∧ accepted? strategy v.plain = none) ∨
      (¬ v.IsInfinite ∧ accepted? strategy v.plain = some v ∧ v.equals v = true)

theorem not_isInfinite_text (s : String) : ¬ (Value.text s).IsInfinite := by
  rintro ⟨negative, h⟩
  cases h

theorem equals_self_text (s : String) : (Value.text s).equals (.text s) = true := by
  simp [Value.equals, Value.same]

theorem rereads_text : Rereads text := by
  intro s v h
  obtain rfl := Option.some.inj h
  exact .inr ⟨not_isInfinite_text s, rfl, equals_self_text s⟩

theorem rereads_number : Rereads number := by
  intro s v h
  rw [accepted?_number, Option.map_eq_some_iff] at h
  obtain ⟨x, hx, rfl⟩ := h
  obtain ⟨negative, rank, rfl, hrank⟩ := exists_of_decimal? hx
  have hplain (x : Binary64) : (Value.float x).plain = x.text := rfl
  rw [hplain, accepted?_number]
  rcases hrank.lt_or_eq with hlt | rfl
  · right
    have hfinite : ¬ (Value.float (.number negative rank)).IsInfinite := by
      rintro ⟨sign, heq⟩
      cases heq
      exact lt_irrefl _ hlt
    refine ⟨hfinite, by rw [decimal?_text negative hlt]; rfl, ?_⟩
    simp [Value.equals, Binary64.equals]
  · exact .inl ⟨⟨negative, rfl⟩, by rw [← Binary64.infinity, decimal?_text_infinity]; rfl⟩

theorem rereads_boolean : Rereads boolean := by
  intro s v h
  rw [accepted?_boolean, Option.map_eq_some_iff] at h
  obtain ⟨b, -, rfl⟩ := h
  have hfinite : ¬ (Value.bool b).IsInfinite := by
    rintro ⟨sign, heq⟩
    cases heq
  have htruth : truth? (Value.bool b).plain = some b := by
    cases b <;> decide
  rw [accepted?_boolean, htruth]
  refine .inr ⟨hfinite, rfl, ?_⟩
  simp [Value.equals, Value.same, Value.numericEquals, Value.integer?]

/-- The digits of a mention are a number of a mention. -/
theorem isMentionNumber_of_mention? {kind : MentionKind} {chars digits : List Char}
    (h : mention? kind chars = some digits) : isMentionNumber digits = true := by
  unfold mention? at h
  split at h
  case isTrue hbare =>
    obtain rfl := Option.some.inj h
    exact hbare
  case isFalse =>
    obtain ⟨opener, -, hopener⟩ := List.exists_of_findSome?_eq_some h
    simp only [bracketed?, Option.ite_none_right_eq_some] at hopener
    obtain ⟨-, ⟨-, hnumber⟩, hdigits⟩ := hopener
    obtain rfl := Option.some.inj hdigits
    exact hnumber

theorem rereads_mention (kind : MentionKind) : Rereads (mention kind) := by
  intro s v h
  rw [accepted?_mention, Option.map_eq_some_iff] at h
  obtain ⟨digits, hdigits, rfl⟩ := h
  have hplain : (Value.text (String.ofList digits)).plain.toList = digits :=
    String.toList_ofList
  have hagain : mention? kind digits = some digits :=
    if_pos (isMentionNumber_of_mention? hdigits)
  rw [accepted?_mention, hplain, hagain]
  exact .inr ⟨not_isInfinite_text _, rfl, equals_self_text _⟩

end Strategy

/-- Every built-in strategy accepts the texts of its values but for the infinities. -/
theorem Converters.rereads_standard :
    ∀ e ∈ Converters.standard, Strategy.Rereads e.2 := by
  intro e he
  rw [standard] at he
  simp only [List.mem_cons, List.not_mem_nil, or_false] at he
  rcases he with rfl | rfl | rfl | rfl | rfl | rfl
  · exact Strategy.rereads_text
  · exact Strategy.rereads_number
  · exact Strategy.rereads_boolean
  · exact Strategy.rereads_mention .channel
  · exact Strategy.rereads_mention .user
  · exact Strategy.rereads_mention .role

/-! ### Coercion -/

section Coercion

variable {a : Argument} {tag : String}

/-- An argument of one type coerces a text by the strategy of the type. -/
theorem coerce_of_types {strategy : Strategy} (htypes : a.types = [.text tag])
    (hstrategy : Converters.standard.lookup tag = some strategy) (s : String) (required : Bool) :
    coerce Converters.standard (.text s) a required =
      match strategy.accepted? s with
      | some v => .ok v
      | none => .error (.fault (invalidFault a (.text s))) := by
  have htag : isTag Converters.standard (.text tag) = true := by
    simp [isTag, Converters.has, hstrategy]
  have htyped : IsTyped Converters.standard a := by
    constructor <;> simp [htypes, htag]
  have hreading : reading? Converters.standard a s = strategy.accepted? s := by
    simp [reading?, htypes, acceptedAs?, hstrategy, Strategy.accepted?]
  have hcoerce := coerce_text Converters.isTotal_standard htyped s required
  rw [hreading] at hcoerce
  exact hcoerce

/-- An argument of one built-in type accepts the plain text of a value that it gave a text, with an
equal value, if and only if the value is not an infinity.  Then it gives the very value again; the
text of an infinity is refused like any text that the type does not accept. -/
theorem coerce_plain_iff (htag : Converters.standard.has tag = true)
    (htypes : a.types = [.text tag]) (s : String) (required : Bool) {v : Value}
    (h : coerce Converters.standard (.text s) a required = .ok v) :
    ((∃ w, coerce Converters.standard (.text v.plain) a required = .ok w ∧ w.equals v = true) ↔
        ¬ v.IsInfinite) ∧
      (¬ v.IsInfinite → coerce Converters.standard (.text v.plain) a required = .ok v) ∧
      (v.IsInfinite → coerce Converters.standard (.text v.plain) a required =
        .error (.fault (invalidFault a (.text v.plain)))) := by
  obtain ⟨strategy, hstrategy⟩ := Option.isSome_iff_exists.1 htag
  obtain ⟨front, back, hsplit, -⟩ := List.lookup_eq_some_iff.1 hstrategy
  have hrereads := Converters.rereads_standard (tag, strategy) (by simp [hsplit])
  rw [coerce_of_types htypes hstrategy] at h
  have haccepted : strategy.accepted? s = some v := by
    split at h
    case h_1 hv =>
      obtain rfl := Except.ok.inj h
      exact hv
    case h_2 => cases h
  rw [coerce_of_types htypes hstrategy]
  rcases hrereads s v haccepted with ⟨hinfinite, hagain⟩ | ⟨hfinite, hagain, hequals⟩
  · rw [hagain]
    simp [hinfinite]
  · rw [hagain]
    simp [hfinite, hequals]

/-- A number type accepts `3.5`, whose value is written `3.5` and read back, and `1e999`, whose
value is an infinity and is written `inf`, which is refused. -/
theorem coerce_plain_iff_amount :
    let amount : Argument := ArgumentOf.make 0 (.text "amount") [.text "number"] none none
    let half : Value := .float (.number false 4615063718147915776)
    let vast : Value := .float (.infinity false)
    coerce Converters.standard (.text "3.5") amount true = .ok half ∧
      coerce Converters.standard (.text half.plain) amount true = .ok half ∧
      coerce Converters.standard (.text "1e999") amount true = .ok vast ∧
      coerce Converters.standard (.text vast.plain) amount true =
        .error (.fault (invalidFault amount (.text vast.plain))) := by
  intro amount half vast
  have htag : Converters.standard.has "number" = true := rfl
  have hnumber : Converters.standard.lookup "number" = some Strategy.number := rfl
  have hread : decimal? "3.5".toList = some (.number false 4615063718147915776) := by
    decide +kernel
  have hhalf : coerce Converters.standard (.text "3.5") amount true = .ok half := by
    rw [coerce_of_types rfl hnumber, Strategy.accepted?_number, hread]
    rfl
  have hvast : coerce Converters.standard (.text "1e999") amount true = .ok vast := rfl
  have hfinite : ¬ half.IsInfinite := by
    rintro ⟨sign, h⟩
    exact absurd (Value.float.inj h) (by cases sign <;> decide)
  exact ⟨hhalf, (coerce_plain_iff htag rfl "3.5" true hhalf).2.1 hfinite, hvast,
    (coerce_plain_iff htag rfl "1e999" true hvast).2.2 ⟨false, rfl⟩⟩

end Coercion

end ChatCommands
