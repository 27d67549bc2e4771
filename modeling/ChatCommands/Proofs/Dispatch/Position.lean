import ChatCommands.Proofs.Argument.Decomposition
import ChatCommands.Proofs.Dispatch.Raised

/-!
# Faults about arguments point at their token

Reading fails at the first argument that cannot be filled, a fixed one.  Its fault carries the
definition of the argument and the cursor in front of it, counted from zero.  A token stands at
the cursor if the fault is about its type; otherwise the cursor is behind the last token, by as
many places as arguments in front were filled by their defaults.

In a dispatch the tokens that are read are those behind the path.  The reply counts positions from
one, behind the path as well.

## Main definitions

* `defaulted` : how many arguments of a decomposition are filled by their defaults.
* `PointsAt` : what a fault says about the argument and the token that it is about.
* `answerAt` : the reply to such a fault.

## Main results

* `max_length_lastCursor` : how far the last cursor is behind the last token.
* `parse_error_iff_pointsAt` : reading fails exactly with faults that point at a token.
* `misreading_points_at_token` : this, and the reply of a dispatch.
-/

namespace ChatCommands

/-! ### Arguments filled by their defaults -/

/-- How many fixed arguments have no token at the cursor in front of them. -/
def defaulted (ss : List String) : Nat → List Argument → List Nat → Nat
  | start, a :: slots, stop :: cursors =>
    (if a.isVariadic = false ∧ ss.length ≤ start then 1 else 0) + defaulted ss stop slots cursors
  | _, _, _ => 0

section Reading

variable {table : Converters} {ss : List String} {a : Argument}

theorem Fills.max_length {start stop : Nat} {v : Value} (h : Fills table ss a start stop v) :
    max ss.length stop =
      max ss.length start + if a.isVariadic = false ∧ ss.length ≤ start then 1 else 0 := by
  cases h with
  | @run values hvariadic hread _ =>
    have hlength : min values.length (ss.length - start) = values.length := by
      simpa using congrArg List.length hread
    simp only [hvariadic, Bool.true_eq_false, false_and, if_false]
    omega
  | token hfixed hs _ =>
    have hlt : start < ss.length := (List.getElem?_eq_some_iff.mp hs).1
    rw [if_neg (by omega)]
    omega
  | default hfixed habsent _ =>
    have hle : ss.length ≤ start := List.getElem?_eq_none_iff.mp habsent
    rw [if_pos ⟨hfixed, hle⟩]
    omega

/-- A cursor is behind the last token by as many places as arguments were filled by defaults. -/
theorem max_length_lastCursor {start : Nat} {slots : List Argument} {cursors : List Nat}
    {values : List Value} (h : Decomposes table ss start slots cursors values) :
    max ss.length (lastCursor start cursors) =
      max ss.length start + defaulted ss start slots cursors := by
  induction h with
  | nil => rfl
  | cons hfirst _ ih =>
    rw [lastCursor_cons, ih, hfirst.max_length, defaulted]
    omega

/-! ### What a fault says -/

/-- The fault of an argument before it is given a position: of a token that no type accepts, or of
no token. -/
def unplacedFault (a : Argument) : Option String → Fault
  | some s => invalidFault a (.text s)
  | none => requiredFault a

/-- What a fault says about an argument and the token that it has, if any. -/
def complaint (a : Argument) : Option String → String
  | some s => argumentLabel a ++ " cannot be " ++ Text.quote s
  | none => argumentLabel a ++ " is required"

/-- The reply to the fault of an argument; positions are counted from one. -/
def answerAt (l : Locale) (a : Argument) (index : Nat) : Option String → Run String
  | some _ => do
    let listed ← l.listing (.tuple a.types) "common.argument_types"
    l.formatCommon "invalid_argument_type" [a.name, .int (index + 1), .text listed]
  | none => l.formatCommon "missing_argument" [a.name, .int (index + 1)]

/-- A fault points at a token: it is that of the first argument that cannot be filled, after the
arguments `front` have been filled up to their cursors, and it carries the last of these. -/
structure PointsAt (table : Converters) (ss : List String) (slots front : List Argument)
    (a : Argument) (cursors : List Nat) (f : Fault) (index : Nat) : Prop where
  split : ∃ later, slots = front ++ a :: later
  filled : ∃ values, Decomposes table ss 0 front cursors values
  cursor : index = lastCursor 0 cursors
  fixed : a.isVariadic = false
  unfilled : ∀ stop v, ¬ Fills table ss a index stop v
  fault : f = (unplacedFault a ss[index]?).located index
  argument : f.option? "argument" = some (.argument a)
  position : f.option? "index" = some (.int index)
  isInvalid : f.kind = .invalidArgumentType ↔ index < ss.length
  isMissing : f.kind = .missingArgument ↔ ss.length ≤ index ∧ a.default.isUnset = true
  token : ∀ s, ss[index]? = some s →
    f.option? "token" = some (.text s) ∧ ∀ tag ∈ a.types, acceptedAs? table s tag = none
  behind : ss.length ≤ index → index = ss.length + defaulted ss 0 front cursors
  message : f.message =
    some (complaint a ss[index]? ++ " at " ++ ordinal (index + 1) ++ " position")

/-- The fault of an argument that cannot be filled points at its token. -/
theorem Misfits.pointsAt {slots front later : List Argument} {cursors : List Nat}
    {values : List Value} {f : Fault} (hslots : slots = front ++ a :: later)
    (hfront : Decomposes table ss 0 front cursors values)
    (h : Misfits table ss a (lastCursor 0 cursors) f) :
    PointsAt table ss slots front a cursors f (lastCursor 0 cursors) := by
  have hmax := max_length_lastCursor hfront
  have hbehind : ss.length ≤ lastCursor 0 cursors →
      lastCursor 0 cursors = ss.length + defaulted ss 0 front cursors := by omega
  have hunfilled := h.not_fills
  cases h with
  | rejected hfixed hs hnone =>
    have hlt := (List.getElem?_eq_some_iff.mp hs).1
    exact {
      split := ⟨later, hslots⟩
      filled := ⟨values, hfront⟩
      cursor := rfl
      fixed := hfixed
      unfilled := hunfilled
      fault := by rw [hs]; rfl
      argument := rfl
      position := rfl
      isInvalid := ⟨fun _ => hlt, fun _ => rfl⟩
      isMissing := ⟨nofun, fun hmissing => absurd hmissing.1 (by omega)⟩
      token := fun t ht => by
        cases hs.symm.trans ht
        exact ⟨rfl, reading?_eq_none_iff.mp hnone⟩
      behind := hbehind
      message := by rw [hs]; rfl }
  | absent hfixed habsent hdefault =>
    have hle := List.getElem?_eq_none_iff.mp habsent
    exact {
      split := ⟨later, hslots⟩
      filled := ⟨values, hfront⟩
      cursor := rfl
      fixed := hfixed
      unfilled := hunfilled
      fault := by rw [habsent]; rfl
      argument := rfl
      position := rfl
      isInvalid := ⟨nofun, fun hlt => absurd hlt (by omega)⟩
      isMissing := ⟨fun _ => ⟨hle, hdefault⟩, fun _ => rfl⟩
      token := fun t ht => by simp [habsent] at ht
      behind := hbehind
      message := by rw [habsent]; rfl }

theorem PointsAt.misfits {slots front : List Argument} {cursors : List Nat} {f : Fault}
    {index : Nat} (htable : table.IsTotal) (ha : IsTyped table a)
    (h : PointsAt table ss slots front a cursors f index) : Misfits table ss a index f := by
  rcases fills_or_misfits htable ha ss index with ⟨stop, v, hfills⟩ | ⟨g, hg⟩
  · exact absurd hfills (h.unfilled stop v)
  · have hfault : f = g := by
      rw [h.fault]
      cases hg with
      | rejected _ hs => rw [hs]; rfl
      | absent _ habsent => rw [habsent]; rfl
    exact hfault ▸ hg

/-- The reply to a fault is worked out from the argument and the position. -/
theorem PointsAt.render_eq {slots front : List Argument} {cursors : List Nat} {f : Fault}
    {index : Nat} (h : PointsAt table ss slots front a cursors f index) (l : Locale) :
    (f.replace []).render l = answerAt l a index ss[index]? := by
  rw [h.fault]
  cases ss[index]? <;> rfl

/-- Reading fails exactly with the faults that point at a token. -/
theorem parse_error_iff_pointsAt (htable : table.IsTotal) {definitions : Value}
    {slots : List Argument} (hdefinitions : definitions.elements? = some (slots.map Value.argument))
    (htyped : ∀ a ∈ slots, IsTyped table a) (ss : List String) (e : Error) :
    parse table (ss.map Value.text) definitions = .error e ↔
      ∃ front a cursors f index,
        e = .fault f ∧ PointsAt table ss slots front a cursors f index := by
  rw [parse_eq_error_iff htable hdefinitions htyped]
  constructor
  · rintro ⟨front, a, later, cursors, values, f, hslots, hfront, hf, he⟩
    exact ⟨front, a, cursors, f, _, he, hf.pointsAt hslots hfront⟩
  · rintro ⟨front, a, cursors, f, index, he, h⟩
    obtain ⟨later, hslots⟩ := h.split
    obtain ⟨values, hfront⟩ := h.filled
    have ha : IsTyped table a := htyped a (by simp [hslots])
    exact ⟨front, a, later, cursors, values, f, hslots, hfront,
      h.cursor ▸ h.misfits htable ha, he⟩

end Reading

/-! ### In a dispatch -/

section Dispatch

variable {E : Engine} {m : Message} {config : GuildConfig} {l : Locale} {ss : List String}
  {siblings : Value} {s : Stage}

/-- A fault about an argument is answered by the reply that names its position. -/
theorem IsMisread.replies_of_pointsAt (hforest : IsForest siblings) {rest : List String}
    {slots front : List Argument} {a : Argument} {cursors : List Nat} {f : Fault} {index : Nat}
    (h : IsMisread E m config (planned config (ss.map Value.text) siblings l)
      (leftover config (ss.map Value.text) siblings) s (.fault f))
    (hf : PointsAt E.converters rest slots front a cursors f index) {text : String}
    (htext : (answerAt s.outer a index rest[index]?).outcome = .ok text) :
    repliesOf E m config l (.list (ss.map Value.text)) siblings = [text] := by
  have hanswered : (Error.fault f).IsAnsweredBy f := by
    refine ⟨rfl, ?_⟩
    rw [hf.fault]
    cases rest[index]? with
    | none => exact .inl rfl
    | some _ => exact .inr rfl
  have hcode : ∃ c, (f.replace []).option? "code" = some (.code c) := by
    rw [hf.fault]
    cases rest[index]? <;> exact ⟨_, rfl⟩
  obtain ⟨c, hcode⟩ := hcode
  rw [repliesOf_of_isOpen hforest h.last h.isOpen, h.observed.finish_of_isAnsweredBy hanswered]
  exact Fault.replies_trigger_of_render _ _ _ _ hcode (hf.render_eq s.outer ▸ htext)

end Dispatch

/-- Faults about arguments point at the right token.  Reading fails exactly with the faults that
point at the first argument that cannot be filled and at the cursor in front of it.  In a dispatch
with such a fault, the offending token is as far behind the path as the position says, and the one
reply names this position, counted from one. -/
theorem misreading_points_at_token {table : Converters} (htable : table.IsTotal)
    {definitions : Value} {slots : List Argument}
    (hdefinitions : definitions.elements? = some (slots.map Value.argument))
    (htyped : ∀ a ∈ slots, IsTyped table a) :
    (∀ (ss : List String) (e : Error), parse table (ss.map Value.text) definitions = .error e ↔
      ∃ front a cursors f index, e = .fault f ∧
        PointsAt table ss slots front a cursors f index) ∧
    ∀ (E : Engine) (m : Message) (config : GuildConfig) (l : Locale) (ss : List String)
      (siblings : Value) (s : Stage) (e : Error),
      E.converters = table → s.command.arguments = definitions → IsForest siblings →
      IsMisread E m config (planned config (ss.map Value.text) siblings l)
        (leftover config (ss.map Value.text) siblings) s e →
      let depth := (committed config.shortcuts (ss.map Value.text) siblings).length
      ∃ front a cursors f index, e = .fault f ∧
        PointsAt table (ss.drop depth) slots front a cursors f index ∧
        (f.kind = .invalidArgumentType → ∃ token, ss[depth + index]? = some token ∧
          f.option? "token" = some (.text token)) ∧
        ∀ text, (answerAt s.outer a index ss[depth + index]?).outcome = .ok text →
          repliesOf E m config l (.list (ss.map Value.text)) siblings = [text] := by
  have hreading := parse_error_iff_pointsAt htable hdefinitions htyped
  refine ⟨hreading, fun E m config l ss siblings s e hconverters harguments hforest h => ?_⟩
  intro depth
  subst hconverters
  have hparsed := h.parsed
  rw [leftover_map_text, harguments, hreading] at hparsed
  obtain ⟨front, a, cursors, f, index, rfl, hf⟩ := hparsed
  refine ⟨front, a, cursors, f, index, rfl, hf, fun hkind => ?_, fun text htext => ?_⟩
  · obtain ⟨token, htoken⟩ : ∃ token, (ss.drop depth)[index]? = some token :=
      ⟨_, List.getElem?_eq_getElem (hf.isInvalid.mp hkind)⟩
    exact ⟨token, List.getElem?_drop ▸ htoken, (hf.token token htoken).1⟩
  · rw [← List.getElem?_drop] at htext
    exact h.replies_of_pointsAt hforest hf htext

/-- Any number of roles and then a member. -/
def awardSlots : List Argument :=
  [⟨2, .text "roles", [.text "role"], .bool true, .unset⟩,
    ⟨3, .text "member", [.text "user"], .bool false, .unset⟩]

/-- A command that reads them. -/
def award : Command :=
  { kick with name := .text "award", arguments := .tuple (awardSlots.map .argument) }

/-- The moderation tree around it. -/
def awardingModeration : Command :=
  { moderation with subcommands := .tuple [.command award] }

theorem isTyped_awardSlots : ∀ a ∈ awardSlots, IsTyped Converters.standard a := by
  have htags : ∀ a ∈ awardSlots,
      a.types.isEmpty = false ∧ ∀ tag ∈ a.types, isTag Converters.standard tag = true := by
    decide
  exact fun a ha => ⟨(htags a ha).1, (htags a ha).2⟩

theorem isValid_awardingModeration :
    ∀ w ∈ [Value.command awardingModeration], isValid Converters.standard w = true := by
  decide

theorem isForest_awardingModeration : IsForest (.list [.command awardingModeration]) :=
  isForest_of_valid rfl isValid_awardingModeration

/-- The command at the end of `mod award 7 <@&8> spam`. -/
def awardStage : Stage :=
  ⟨award, .text "award", Locale.english, Locale.english⟩

theorem committed_awardingModeration :
    committed true (["mod", "award", "7", "<@&8>", "spam"].map Value.text)
      (.list [.command awardingModeration]) = [awardingModeration, award] := by
  cbv

theorem planned_awardingModeration :
    planned ⟨true, none, "en"⟩ (["mod", "award", "7", "<@&8>", "spam"].map Value.text)
      (.list [.command awardingModeration]) Locale.english =
      [⟨awardingModeration, .text "mod", Locale.english, Locale.english⟩, awardStage] := by
  rw [planned, route, committed_awardingModeration]
  rfl

/-- The two roles are taken, and `spam` is no member. -/
theorem isMisread_awardingModeration :
    IsMisread scripted moderator ⟨true, none, "en"⟩
      (planned ⟨true, none, "en"⟩ (["mod", "award", "7", "<@&8>", "spam"].map Value.text)
        (.list [.command awardingModeration]) Locale.english)
      (leftover ⟨true, none, "en"⟩ (["mod", "award", "7", "<@&8>", "spam"].map Value.text)
        (.list [.command awardingModeration]))
      awardStage
      (.fault ((invalidFault ⟨3, .text "member", [.text "user"], .bool false, .unset⟩
        (.text "spam")).located 2)) := by
  refine ⟨?_, by decide, fun t ht => ?_, ?_⟩
  · rw [planned_awardingModeration]
    rfl
  · rw [planned_awardingModeration] at ht
    rcases List.mem_pair.mp ht with rfl | rfl
    · exact ⟨.inr rfl, .inr ⟨.bool true, rfl, rfl⟩⟩
    · exact ⟨.inr rfl, .inl rfl⟩
  · rw [leftover, committed_awardingModeration]
    rfl

/-- The moderator's `mod award 7 <@&8> spam` is answered at the third position behind the path. -/
theorem misreading_points_at_token_awardingModeration :
    Converters.standard.IsTotal ∧ (∀ a ∈ awardSlots, IsTyped Converters.standard a) ∧
    IsForest (.list [.command awardingModeration]) ∧
    repliesOf scripted moderator ⟨true, none, "en"⟩ Locale.english
        (.list (["mod", "award", "7", "<@&8>", "spam"].map Value.text))
        (.list [.command awardingModeration]) =
      ["Argument member at position 3 must be one of: user"] := by
  refine ⟨Converters.isTotal_standard, isTyped_awardSlots, isForest_awardingModeration, ?_⟩
  obtain ⟨front, a, cursors, f, index, he, hf, -, hreply⟩ :=
    (misreading_points_at_token Converters.isTotal_standard rfl isTyped_awardSlots).2 scripted
      moderator ⟨true, none, "en"⟩ Locale.english ["mod", "award", "7", "<@&8>", "spam"] _
      awardStage _ rfl rfl isForest_awardingModeration isMisread_awardingModeration
  cases he
  have hposition : some (Value.int 2) = some (.int index) := hf.position
  have hargument : some (Value.argument ⟨3, .text "member", [.text "user"], .bool false, .unset⟩) =
    some (.argument a) := hf.argument
  cases hargument
  obtain rfl : index = 2 := by
    have hindex : (2 : Int) = index := by simpa using hposition
    omega
  refine hreply _ ?_
  rw [committed_awardingModeration]
  rfl

end ChatCommands
