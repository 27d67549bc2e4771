import ChatCommands.Proofs.Argument.Idempotence

/-!
# Mentions

A mention holds an id, which is a number in ASCII digits: it is the bare id, or the id between an
opener of its kind and a closing bracket.  Some openers start like others, but none holds a digit,
so what stands in front of the first digit of a token is the opener, and the digits from there on
are the id.  Hence a token holds one id at most, whatever its kind, and only a bare id is a mention
of two kinds.

## Main definitions

* `Opens` : the openers of a kind of mention.
* `Mentions` : a token that is a mention of a kind, with its id.
* `MentionKind.tag` : the type tag of a kind.

## Main results

* `mention?_eq_some_iff` : reading a mention of a kind gives its id.
* `Mentions.unique`, `Mentions.bare_of_ne` : a token that is a mention of two kinds.
* `mentions_give_ids` : what the types of mentions accept, and with which values.
-/

namespace ChatCommands

/-! ### The grammar -/

/-- The openers of a kind of mention. -/
inductive Opens : MentionKind → List Char → Prop
  | channel : Opens .channel ['<', '#']
  | user : Opens .user ['<', '@']
  | nickname : Opens .user ['<', '@', '!']
  | role : Opens .role ['<', '@', '&']

/-- An id: ASCII digits, at least one. -/
structure IsId (id : List Char) : Prop where
  digits : IsDigits id
  nonempty : id ≠ []

/-- A token is a mention of a kind and holds an id. -/
inductive Mentions (kind : MentionKind) : List Char → List Char → Prop
  | bare {id : List Char} (hid : IsId id) : Mentions kind id id
  | bracketed {opener id : List Char} (hopener : Opens kind opener) (hid : IsId id) :
      Mentions kind (opener ++ (id ++ ['>'])) id

section Grammar

variable {kind other : MentionKind} {opener token id id' : List Char}

theorem isMentionNumber_iff (chars : List Char) : isMentionNumber chars = true ↔ IsId chars := by
  simp only [isMentionNumber, Bool.and_eq_true, Bool.not_eq_true', List.isEmpty_eq_false_iff,
    List.all_eq_true]
  exact ⟨fun h => ⟨h.2, h.1⟩, fun h => ⟨h.nonempty, h.digits⟩⟩

theorem mem_openers_iff : opener ∈ kind.openers ↔ Opens kind opener := by
  constructor
  · intro h
    cases kind <;> simp only [MentionKind.openers, List.mem_cons, List.not_mem_nil, or_false] at h
    case channel =>
      subst h
      exact .channel
    case user =>
      rcases h with rfl | rfl
      · exact .nickname
      · exact .user
    case role =>
      subst h
      exact .role
  · intro h
    cases h <;> simp [MentionKind.openers]

theorem Opens.ne_nil (h : Opens kind opener) : opener ≠ [] := by
  cases h <;> exact List.cons_ne_nil _ _

theorem Opens.not_digit (h : Opens kind opener) : ∀ c ∈ opener, (!Text.isAsciiDigit c) = true := by
  cases h <;> simp [Text.isAsciiDigit]

/-- An opener is one of one kind. -/
theorem Opens.unique (h : Opens kind opener) (h' : Opens other opener) : kind = other := by
  cases h <;> cases h' <;> rfl

/-! ### One id -/

/-- What stands in front of the first digit. -/
def beforeDigits (token : List Char) : List Char :=
  token.takeWhile fun c => !Text.isAsciiDigit c

/-- The digits from the first one on. -/
def firstDigits (token : List Char) : List Char :=
  (token.dropWhile fun c => !Text.isAsciiDigit c).takeWhile Text.isAsciiDigit

/-- An id between characters that are no digits is what the first digits are. -/
theorem digits_of_isId (front back : List Char) (hid : IsId id)
    (hfront : ∀ c ∈ front, (!Text.isAsciiDigit c) = true)
    (hback : ∀ c ∈ back.head?, Text.isAsciiDigit c = false) :
    beforeDigits (front ++ (id ++ back)) = front ∧ firstDigits (front ++ (id ++ back)) = id := by
  obtain ⟨c, rest, rfl⟩ := List.exists_cons_of_ne_nil hid.nonempty
  have hc := hid.digits c List.mem_cons_self
  have hdigits : leadingDigits (c :: rest ++ back) = (c :: rest, back) :=
    leadingDigits_append hid.digits hback
  rw [leadingDigits, List.span_eq_takeWhile_dropWhile, Prod.mk.injEq] at hdigits
  rw [beforeDigits, firstDigits, List.takeWhile_append_of_pos hfront,
    List.dropWhile_append_of_pos hfront]
  refine ⟨by simp [hc], ?_⟩
  rw [List.cons_append, List.dropWhile_cons_of_neg (by simp [hc]), ← List.cons_append]
  exact hdigits.1

theorem IsId.digits_bare (hid : IsId id) : beforeDigits id = [] ∧ firstDigits id = id := by
  have h := digits_of_isId [] [] hid nofun nofun
  rwa [List.nil_append, List.append_nil] at h

theorem IsId.digits_bracketed (hid : IsId id) (hopener : Opens kind opener) :
    beforeDigits (opener ++ (id ++ ['>'])) = opener ∧
      firstDigits (opener ++ (id ++ ['>'])) = id := by
  refine digits_of_isId opener ['>'] hid hopener.not_digit ?_
  rintro c hc
  obtain rfl := Option.mem_some.1 hc
  rfl

/-- The first digits of a mention are its id. -/
theorem Mentions.firstDigits_eq (h : Mentions kind token id) : firstDigits token = id := by
  cases h with
  | bare hid => exact hid.digits_bare.2
  | bracketed hopener hid => exact (hid.digits_bracketed hopener).2

/-- What stands in front of the first digit of a mention is nothing, or an opener of its kind. -/
theorem Mentions.beforeDigits_cases (h : Mentions kind token id) :
    (beforeDigits token = [] ∧ token = id) ∨ Opens kind (beforeDigits token) := by
  cases h with
  | bare hid => exact .inl ⟨hid.digits_bare.1, rfl⟩
  | bracketed hopener hid =>
    rw [(hid.digits_bracketed hopener).1]
    exact .inr hopener

/-- A token holds one id, whatever its kinds. -/
theorem Mentions.unique (h : Mentions kind token id) (h' : Mentions other token id') : id = id' :=
  h.firstDigits_eq.symm.trans h'.firstDigits_eq

/-- A token that is a mention of two kinds is a bare id. -/
theorem Mentions.bare_of_ne (h : Mentions kind token id) (h' : Mentions other token id')
    (hne : kind ≠ other) : token = id := by
  rcases h.beforeDigits_cases with ⟨-, htoken⟩ | hopener
  · exact htoken
  · rcases h'.beforeDigits_cases with ⟨hempty, -⟩ | hopener'
    · exact absurd hempty hopener.ne_nil
    · exact absurd (hopener.unique hopener') hne

theorem Mentions.isId (h : Mentions kind token id) : IsId id := by
  cases h with
  | bare hid => exact hid
  | bracketed _ hid => exact hid

/-! ### Reading a mention -/

theorem bracketed?_eq_some_iff (opener chars id : List Char) :
    bracketed? opener chars = some id ↔ IsId id ∧ chars = opener ++ (id ++ ['>']) := by
  unfold bracketed?
  split
  case isTrue hprefix =>
    obtain ⟨body, rfl⟩ := List.isPrefixOf_iff_prefix.1 hprefix
    rw [List.drop_left, List.append_cancel_left_eq]
    constructor
    · intro h
      obtain ⟨⟨hlast, hnumber⟩, hid⟩ := Option.ite_none_right_eq_some.1 h
      obtain rfl := Option.some.inj hid
      obtain ⟨digits, rfl⟩ := List.getLast?_eq_some_iff.1 hlast
      rw [isMentionNumber_iff] at hnumber
      exact ⟨hnumber, by rw [List.dropLast_concat]⟩
    · rintro ⟨hid, rfl⟩
      rw [← isMentionNumber_iff] at hid
      simp [hid]
  case isFalse hprefix =>
    simp only [reduceCtorEq, false_iff, not_and]
    rintro - rfl
    exact hprefix (List.isPrefixOf_iff_prefix.2 (List.prefix_append _ _))

/-- What is read of a token is the id that it holds as a mention. -/
theorem mentions_of_mention? (h : mention? kind token = some id) : Mentions kind token id := by
  unfold mention? at h
  split at h
  case isTrue hnumber =>
    obtain rfl := Option.some.inj h
    exact .bare ((isMentionNumber_iff _).1 hnumber)
  case isFalse =>
    obtain ⟨opener, hopener, hbracketed⟩ := List.exists_of_findSome?_eq_some h
    obtain ⟨hid, rfl⟩ := (bracketed?_eq_some_iff _ _ _).1 hbracketed
    exact .bracketed (mem_openers_iff.1 hopener) hid

/-- A mention is read: no opener that is tried earlier gives another id. -/
theorem mention?_eq_some_iff : mention? kind token = some id ↔ Mentions kind token id := by
  refine ⟨mentions_of_mention?, fun h => ?_⟩
  have hread : ∃ id', mention? kind token = some id' := by
    cases h with
    | bare hid => exact ⟨_, if_pos ((isMentionNumber_iff _).2 hid)⟩
    | @bracketed opener _ hopener hid =>
      unfold mention?
      split
      case isTrue => exact ⟨_, rfl⟩
      case isFalse =>
        refine Option.isSome_iff_exists.1 (List.findSome?_isSome_iff.2 ?_)
        have hbracketed := (bracketed?_eq_some_iff opener _ id).2 ⟨hid, rfl⟩
        exact ⟨opener, mem_openers_iff.2 hopener, by rw [hbracketed]; rfl⟩
  obtain ⟨id', hid'⟩ := hread
  rw [hid', (mentions_of_mention? hid').unique h]

theorem mention?_eq_none_iff : mention? kind token = none ↔ ∀ id, ¬ Mentions kind token id := by
  simp only [Option.eq_none_iff_forall_ne_some, ne_eq, mention?_eq_some_iff]

end Grammar

/-! ### The types of mentions -/

/-- The type tag of a kind of mention. -/
def MentionKind.tag : MentionKind → String
  | .channel => "channel"
  | .user => "user"
  | .role => "role"

namespace Strategy

variable {kind : MentionKind} {s : String}

theorem mention_text (kind : MentionKind) (s : String) :
    mention kind (.text s) =
      .ok (((mention? kind s.toList).map fun id => .text (String.ofList id)).getD .unset) := by
  simp only [mention, matched, bind, Except.bind]
  cases mention? kind s.toList <;> rfl

/-- The strategy of a kind gives the id of a mention. -/
theorem mention_eq_text_iff {id : String} :
    mention kind (.text s) = .ok (.text id) ↔ Mentions kind s.toList id.toList := by
  rw [mention_text, ← mention?_eq_some_iff]
  cases mention? kind s.toList with
  | none => simp
  | some digits =>
    rw [Option.map_some, Option.getD_some, Except.ok.injEq, Value.text.injEq, Option.some.injEq]
    exact ⟨fun h => by rw [← h, String.toList_ofList], fun h => by rw [h, String.ofList_toList]⟩

/-- The strategy of a kind refuses what is no mention of the kind. -/
theorem mention_eq_unset_iff :
    mention kind (.text s) = .ok .unset ↔ ∀ id, ¬ Mentions kind s.toList id := by
  rw [mention_text, ← mention?_eq_none_iff]
  cases mention? kind s.toList <;> simp

end Strategy

/-- The types of mentions accept the mentions of their kinds, with the ids that these hold, and
refuse all other texts.  A token that two of them accept is a bare id, which is its value for
both; a mention in brackets is refused by the other two; and an id is accepted by all three, with
itself as its value. -/
theorem mentions_give_ids {strategies : MentionKind → Strategy}
    (hstrategies : ∀ kind, Converters.standard.lookup kind.tag = some (strategies kind))
    (s : String) :
    (∀ kind id, strategies kind (.text s) = .ok (.text id) ↔ Mentions kind s.toList id.toList) ∧
      (∀ kind, strategies kind (.text s) = .ok .unset ↔ ∀ id, ¬ Mentions kind s.toList id) ∧
      (∀ kind other id id', kind ≠ other → strategies kind (.text s) = .ok (.text id) →
        strategies other (.text s) = .ok (.text id') → IsId s.toList ∧ id = s ∧ id' = s) ∧
      (∀ kind other opener id, kind ≠ other → Opens kind opener → IsId id →
        s.toList = opener ++ (id ++ ['>']) → strategies other (.text s) = .ok .unset) ∧
      (∀ kind id, strategies kind (.text s) = .ok (.text id) →
        ∀ other, strategies other (.text id) = .ok (.text id)) := by
  obtain rfl : strategies = Strategy.mention := by
    funext kind
    have hkind := hstrategies kind
    cases kind <;> exact (Option.some.inj hkind).symm
  refine ⟨fun kind id => Strategy.mention_eq_text_iff, fun kind => Strategy.mention_eq_unset_iff,
    fun kind other id id' hne h h' => ?_, fun kind other opener id hne hopener hid hs => ?_,
    fun kind id h other => ?_⟩
  · rw [Strategy.mention_eq_text_iff] at h h'
    have hid := h.bare_of_ne h' hne
    have hid' := h'.bare_of_ne h hne.symm
    exact ⟨hid ▸ h.isId, (String.toList_inj.1 hid).symm, (String.toList_inj.1 hid').symm⟩
  · rw [Strategy.mention_eq_unset_iff, hs]
    intro id' h'
    have hbracketed : Mentions kind (opener ++ (id ++ ['>'])) id := .bracketed hopener hid
    have hlength := congrArg List.length (hbracketed.bare_of_ne h' hne)
    simp only [List.length_append, List.length_singleton] at hlength
    omega
  · rw [Strategy.mention_eq_text_iff] at h ⊢
    exact .bare h.isId

/-- `<@!007>` mentions the user `007`; the other kinds refuse it and accept `007` alone. -/
theorem mentions_give_ids_nickname :
    (∀ kind, Converters.standard.lookup (MentionKind.tag kind) = some (Strategy.mention kind)) ∧
      Strategy.mention .user (.text "<@!007>") = .ok (.text "007") ∧
      Strategy.mention .role (.text "<@!007>") = .ok .unset ∧
      Strategy.mention .channel (.text "007") = .ok (.text "007") := by
  have htags (kind : MentionKind) :
      Converters.standard.lookup kind.tag = some (Strategy.mention kind) := by
    cases kind <;> rfl
  have hid : IsId ['0', '0', '7'] := ⟨by simp [IsDigits, Text.isAsciiDigit], by simp⟩
  obtain ⟨haccepts, -, -, hbrackets, hids⟩ := mentions_give_ids htags "<@!007>"
  have huser := (haccepts .user "007").2 (.bracketed .nickname hid)
  exact ⟨htags, huser, hbrackets .user .role _ _ (by decide) .nickname hid rfl,
    hids .user "007" huser .channel⟩

end ChatCommands
