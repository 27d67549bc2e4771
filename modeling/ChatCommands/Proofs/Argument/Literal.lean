import ChatCommands.Proofs.Argument.Idempotence

/-!
# Decimal literals

The literals of numbers have a grammar: a sign, digits with at most one point among them, and an
exponent part.  Reading a literal takes these parts off from the left, each as long as it gets, and
the grammar leaves no choice in this: what can follow a part never starts like a longer one.  So the
reader accepts the literals of the grammar and nothing else.

## Main definitions

* `IsSign`, `IsMantissa`, `IsExponent`, `IsLiteral` : the grammar.

## Main results

* `isSome_exponent?_iff` : the reader of exponent parts accepts those of the grammar.
* `isSome_decimal?_iff` : the reader of literals accepts those of the grammar.
* `number_reads_literals` : the number type gives a number for literals and refuses all else.
-/

namespace ChatCommands

/-! ### The grammar -/

/-- A sign, or none. -/
inductive IsSign : List Char → Prop
  | absent : IsSign []
  | plus : IsSign ['+']
  | minus : IsSign ['-']

/-- Digits with at most one point among them, at least one of them. -/
inductive IsMantissa : List Char → Prop
  | whole {digits : List Char} (hdigits : IsDigits digits) (hne : digits ≠ []) : IsMantissa digits
  | pointed {whole fraction : List Char} (hwhole : IsDigits whole) (hne : whole ≠ [])
      (hfraction : IsDigits fraction) : IsMantissa (whole ++ '.' :: fraction)
  | fraction {digits : List Char} (hdigits : IsDigits digits) (hne : digits ≠ []) :
      IsMantissa ('.' :: digits)

/-- An exponent part, or none: its mark in either case, a sign, and at least one digit. -/
inductive IsExponent : List Char → Prop
  | absent : IsExponent []
  | marked {mark : Char} {sign digits : List Char} (hmark : mark = 'e' ∨ mark = 'E')
      (hsign : IsSign sign) (hdigits : IsDigits digits) (hne : digits ≠ []) :
      IsExponent (mark :: (sign ++ digits))

/-- A decimal literal. -/
inductive IsLiteral : List Char → Prop
  | intro {sign mantissa exponent : List Char} (hsign : IsSign sign)
      (hmantissa : IsMantissa mantissa) (hexponent : IsExponent exponent) :
      IsLiteral (sign ++ (mantissa ++ exponent))

/-! ### How parts start -/

/-- Digits, at least one, start with a digit. -/
theorem IsDigits.head?_append {digits : List Char} (h : IsDigits digits) (hne : digits ≠ [])
    (rest : List Char) : ∃ c ∈ (digits ++ rest).head?, Text.isAsciiDigit c = true := by
  obtain ⟨c, tail, rfl⟩ := List.exists_cons_of_ne_nil hne
  exact ⟨c, rfl, h c List.mem_cons_self⟩

/-- A mantissa starts with a digit or with the point. -/
theorem IsMantissa.head?_append {mantissa : List Char} (h : IsMantissa mantissa)
    (rest : List Char) :
    ∃ c ∈ (mantissa ++ rest).head?, Text.isAsciiDigit c = true ∨ c = '.' := by
  cases h with
  | whole hdigits hne =>
    obtain ⟨c, hc, hdigit⟩ := hdigits.head?_append hne rest
    exact ⟨c, hc, .inl hdigit⟩
  | @pointed whole fraction hwhole hne =>
    obtain ⟨c, hc, hdigit⟩ := hwhole.head?_append hne ('.' :: fraction ++ rest)
    exact ⟨c, by rwa [List.append_assoc], .inl hdigit⟩
  | fraction => exact ⟨'.', rfl, .inr rfl⟩

theorem IsExponent.head? {exponent : List Char} (h : IsExponent exponent) :
    ∀ c ∈ exponent.head?, c = 'e' ∨ c = 'E' := by
  rintro c hc
  cases h with
  | absent => cases hc
  | marked hmark =>
    obtain rfl := Option.mem_some.1 hc
    exact hmark

/-! ### Taking parts off -/

/-- What is taken off in front is a sign. -/
theorem exists_isSign (chars : List Char) :
    ∃ sign, IsSign sign ∧ chars = sign ++ (leadingSign chars).2 := by
  unfold leadingSign
  split
  case h_1 => exact ⟨_, .minus, rfl⟩
  case h_2 => exact ⟨_, .plus, rfl⟩
  case h_3 => exact ⟨_, .absent, rfl⟩

/-- A sign is taken off in front of anything that starts with no sign. -/
theorem leadingSign_append {sign rest : List Char} (hsign : IsSign sign)
    (hrest : ∃ c ∈ rest.head?, Text.isAsciiDigit c = true ∨ c = '.') :
    (leadingSign (sign ++ rest)).2 = rest := by
  cases hsign with
  | plus | minus => rfl
  | absent =>
    obtain ⟨c, hc, hstart⟩ := hrest
    obtain ⟨tail, rfl⟩ := List.head?_eq_some_iff.1 hc
    rcases hstart with hdigit | rfl
    · rw [List.nil_append, leadingSign_of_digit tail hdigit]
    · rfl

/-- What is taken off in front are digits. -/
theorem isDigits_leadingDigits (chars : List Char) :
    IsDigits (leadingDigits chars).1 ∧
      chars = (leadingDigits chars).1 ++ (leadingDigits chars).2 := by
  rw [leadingDigits, List.span_eq_takeWhile_dropWhile]
  exact ⟨fun c hc => List.mem_takeWhile_imp hc, List.takeWhile_append_dropWhile.symm⟩

/-- What is taken off in front is a point with digits, or nothing. -/
theorem leadingFraction_cases (chars : List Char) :
    (IsDigits (leadingFraction chars).1 ∧
        chars = '.' :: ((leadingFraction chars).1 ++ (leadingFraction chars).2)) ∨
      leadingFraction chars = ([], chars) := by
  unfold leadingFraction
  split
  case h_1 rest =>
    obtain ⟨hdigits, hrest⟩ := isDigits_leadingDigits rest
    exact .inl ⟨hdigits, congrArg _ hrest⟩
  case h_2 => exact .inr rfl

/-- Without a point in front there is no fraction. -/
theorem leadingFraction_of_head? {chars : List Char} (h : ∀ c ∈ chars.head?, c ≠ '.') :
    leadingFraction chars = ([], chars) := by
  unfold leadingFraction
  split
  case h_1 => exact absurd rfl (h '.' rfl)
  case h_2 => rfl

/-! ### What the readers accept -/

/-- The reader of exponent parts accepts those of the grammar. -/
theorem isSome_exponent?_iff (chars : List Char) :
    (exponent? chars).isSome = true ↔ IsExponent chars := by
  constructor
  · intro h
    cases chars with
    | nil => exact .absent
    | cons mark rest =>
      obtain ⟨sign, hsign, hrest⟩ := exists_isSign rest
      by_cases hmark : mark = 'e' ∨ mark = 'E'
      · rw [exponent?, if_pos hmark] at h
        dsimp only at h
        split at h
        case isTrue => cases h
        case isFalse hdigits =>
          simp only [Bool.or_eq_true, List.isEmpty_iff, Bool.not_eq_true', not_or,
            Bool.not_eq_false, List.all_eq_true] at hdigits
          rw [hrest]
          exact .marked hmark hsign hdigits.2 hdigits.1
      · rw [exponent?, if_neg hmark] at h
        cases h
  · intro h
    cases h with
    | absent => rfl
    | @marked mark sign digits hmark hsign hdigits hne =>
      obtain ⟨c, hc, hdigit⟩ := hdigits.head?_append hne []
      rw [List.append_nil] at hc
      have hrest := leadingSign_append hsign ⟨c, hc, .inl hdigit⟩
      have hall : digits.all Text.isAsciiDigit = true := List.all_eq_true.2 hdigits
      simp [exponent?, hmark, hrest, hne, hall]

/-- What is read of a literal depends on its parts: there is a digit in front of the exponent part,
and the exponent part is one. -/
theorem isSome_decimal?_of_parts {chars rest tail : List Char}
    (hrest : (leadingSign chars).2 = rest) (htail : (leadingDigits rest).2 = tail) :
    (decimal? chars).isSome = true ↔
      ¬ ((leadingDigits rest).1 = [] ∧ (leadingFraction tail).1 = []) ∧
        IsExponent (leadingFraction tail).2 := by
  subst hrest htail
  rw [← isSome_exponent?_iff]
  simp only [decimal?]
  split
  case isTrue hempty =>
    simp only [Bool.and_eq_true, List.isEmpty_iff] at hempty
    simp [hempty]
  case isFalse hdigit =>
    simp only [Bool.and_eq_true, List.isEmpty_iff] at hdigit
    rw [and_iff_right hdigit]
    cases exponent? _ <;> simp [bind, Option.bind]

/-- What is read is a literal. -/
theorem isLiteral_of_isSome_decimal? {chars : List Char} (h : (decimal? chars).isSome = true) :
    IsLiteral chars := by
  obtain ⟨sign, hsign, hchars⟩ := exists_isSign chars
  obtain ⟨hdigit, hexponent⟩ := (isSome_decimal?_of_parts rfl rfl).1 h
  generalize (leadingSign chars).2 = rest at hchars hdigit hexponent
  obtain ⟨hwhole, hrest⟩ := isDigits_leadingDigits rest
  generalize (leadingDigits rest).1 = whole at hrest hwhole hdigit
  generalize (leadingDigits rest).2 = tail at hrest hdigit hexponent
  rw [hchars, hrest]
  rcases leadingFraction_cases tail with ⟨hfraction, htail⟩ | hnone
  · generalize (leadingFraction tail).1 = fraction at hfraction htail hdigit
    generalize (leadingFraction tail).2 = exponent at htail hexponent
    have hsplit : whole ++ '.' :: (fraction ++ exponent) =
        whole ++ '.' :: fraction ++ exponent := by
      rw [List.append_assoc, List.cons_append]
    rw [htail, hsplit]
    by_cases hne : whole = []
    · subst hne
      exact .intro hsign (.fraction hfraction fun hempty => hdigit ⟨rfl, hempty⟩) hexponent
    · exact .intro hsign (.pointed hwhole hne hfraction) hexponent
  · rw [hnone] at hdigit hexponent
    exact .intro hsign (.whole hwhole fun hempty => hdigit ⟨hempty, rfl⟩) hexponent

/-- A literal is read. -/
theorem IsLiteral.isSome_decimal? {chars : List Char} (h : IsLiteral chars) :
    (decimal? chars).isSome = true := by
  obtain @⟨sign, mantissa, exponent, hsign, hmantissa, hexponent⟩ := h
  have hrest := leadingSign_append hsign (hmantissa.head?_append exponent)
  -- Neither the mark of an exponent nor the point goes on with the digits in front of it.
  have hmark : ∀ c ∈ exponent.head?, Text.isAsciiDigit c = false ∧ c ≠ '.' := by
    rintro c hc
    rcases hexponent.head? c hc with rfl | rfl <;> exact ⟨rfl, by decide⟩
  have hend : ∀ c ∈ exponent.head?, Text.isAsciiDigit c = false := fun c hc => (hmark c hc).1
  have hpoint (tail : List Char) : ∀ c ∈ ('.' :: tail).head?, Text.isAsciiDigit c = false := by
    rintro c hc
    obtain rfl := Option.mem_some.1 hc
    rfl
  cases hmantissa with
  | whole hdigits hne =>
    have hwhole := leadingDigits_append hdigits hend
    have hnone := leadingFraction_of_head? fun c hc => (hmark c hc).2
    rw [isSome_decimal?_of_parts hrest rfl, hwhole, hnone]
    exact ⟨fun hempty => hne hempty.1, hexponent⟩
  | @pointed whole fraction hwhole hne hfraction =>
    rw [List.append_assoc, List.cons_append] at hrest ⊢
    have hdigits := leadingDigits_append hwhole (hpoint (fraction ++ exponent))
    have htail : leadingFraction ('.' :: (fraction ++ exponent)) = (fraction, exponent) :=
      leadingDigits_append hfraction hend
    rw [isSome_decimal?_of_parts hrest rfl, hdigits, htail]
    exact ⟨fun hempty => hne hempty.1, hexponent⟩
  | @fraction digits hdigits hne =>
    rw [List.cons_append] at hrest ⊢
    have hnone : IsDigits [] := nofun
    have hwhole := leadingDigits_append hnone (hpoint (digits ++ exponent))
    have htail : leadingFraction ('.' :: (digits ++ exponent)) = (digits, exponent) :=
      leadingDigits_append hdigits hend
    rw [List.nil_append] at hwhole
    rw [isSome_decimal?_of_parts hrest rfl, hwhole, htail]
    exact ⟨fun hempty => hne hempty.2, hexponent⟩

/-- The reader of literals accepts those of the grammar. -/
theorem isSome_decimal?_iff (chars : List Char) :
    (decimal? chars).isSome = true ↔ IsLiteral chars :=
  ⟨isLiteral_of_isSome_decimal?, IsLiteral.isSome_decimal?⟩

/-! ### The number type -/

/-- The number type gives a number for a decimal literal, and refuses every other text. -/
theorem number_reads_literals {strategy : Strategy}
    (hstrategy : Converters.standard.lookup "number" = some strategy) (s : String) :
    ((∃ x : Binary64, strategy (.text s) = .ok (.float x)) ↔ IsLiteral s.toList) ∧
      (strategy (.text s) = .ok .unset ↔ ¬ IsLiteral s.toList) := by
  obtain rfl : Strategy.number = strategy := Option.some.inj hstrategy
  rw [← isSome_decimal?_iff]
  cases hread : decimal? s.toList with
  | none =>
    have hrefused : Strategy.number (.text s) = .ok .unset := by
      simp only [Strategy.number, Strategy.matched, bind, Except.bind, hread]
      rfl
    simp [hrefused]
  | some x =>
    have haccepted : Strategy.number (.text s) = .ok (.float x) := by
      simp only [Strategy.number, Strategy.matched, bind, Except.bind, hread]
      rfl
    simp [haccepted]

/-- The literal `-.5E+3` has all parts but the digits before the point; `1_000` is no literal. -/
theorem number_reads_literals_signed :
    Converters.standard.lookup "number" = some Strategy.number ∧
      (∃ x : Binary64, Strategy.number (.text "-.5E+3") = .ok (.float x)) ∧
      ¬ IsLiteral "1_000".toList := by
  have hnumber : Converters.standard.lookup "number" = some Strategy.number := rfl
  have hfive : IsDigits ['5'] := by simp [IsDigits, Text.isAsciiDigit]
  have hthree : IsDigits ['3'] := by simp [IsDigits, Text.isAsciiDigit]
  have hliteral : IsLiteral "-.5E+3".toList :=
    .intro .minus (.fraction hfive (by simp)) (.marked (.inr rfl) .plus hthree (by simp))
  have hrefused : Strategy.number (.text "1_000") = .ok .unset := rfl
  exact ⟨hnumber, (number_reads_literals hnumber "-.5E+3").1.2 hliteral,
    (number_reads_literals hnumber "1_000").2.1 hrefused⟩

end ChatCommands
