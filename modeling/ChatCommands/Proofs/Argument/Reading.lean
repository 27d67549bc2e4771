import ChatCommands.Argument.Parse
import ChatCommands.Command.Dispatch
import ChatCommands.Proofs.Locale.Replies

/-!
# Reading the arguments of a well-formed command

Where every type of an argument is registered and the strategies accept any text, reading texts
ends with values or with one of two faults: a required argument has no token, or no type accepts
its token.  Either fault names an argument and a position, which is what its reply is rendered
from.

## Main definitions

* `Converters.IsTotal` : the strategies give a value for every text.
* `IsReadingFault` : the faults that reading ends with.

## Main results

* `Converters.isTotal_standard` : the built-in strategies do.
* `parse_cases` : reading ends with values or with such a fault.
* `IsReadingFault.outcome_trigger` : such a fault can be answered.
-/

namespace ChatCommands

/-- The strategies of a table give a value, `unset` included, for every text. -/
def Converters.IsTotal (table : Converters) : Prop :=
  ∀ e ∈ table, ∀ s, ∃ v, e.2 (.text s) = .ok v

namespace Strategy

theorem exists_number (s : String) : ∃ v, number (.text s) = .ok v := by
  simp only [number, matched, bind, Except.bind]
  split <;> exact ⟨_, rfl⟩

theorem exists_boolean (s : String) : ∃ v, boolean (.text s) = .ok v := by
  rw [boolean]
  split <;> exact ⟨_, rfl⟩

theorem exists_mention (kind : MentionKind) (s : String) :
    ∃ v, mention kind (.text s) = .ok v := by
  simp only [mention, matched, bind, Except.bind]
  split <;> exact ⟨_, rfl⟩

end Strategy

/-- The built-in strategies give a value for every text. -/
theorem Converters.isTotal_standard : Converters.standard.IsTotal := by
  intro e he s
  rw [standard] at he
  simp only [List.mem_cons, List.not_mem_nil, or_false] at he
  rcases he with rfl | rfl | rfl | rfl | rfl | rfl
  · exact ⟨.text s, rfl⟩
  · exact Strategy.exists_number s
  · exact Strategy.exists_boolean s
  · exact Strategy.exists_mention .channel s
  · exact Strategy.exists_mention .user s
  · exact Strategy.exists_mention .role s

/-- The faults that reading the arguments of well-formed definitions ends with. -/
inductive IsReadingFault : Fault → Prop
  | required (a : Argument) (cursor : Nat) (hname : a.name.isText = true) :
      IsReadingFault ((requiredFault a).located cursor)
  | invalid (a : Argument) (token : Value) (cursor : Nat) (hname : a.name.isText = true)
      (htypes : ∀ tag ∈ a.types, tag.isText = true) :
      IsReadingFault ((invalidFault a token).located cursor)

/-- An argument definition whose fields are of the right kinds. -/
structure IsWellFormedArgument (table : Converters) (a : Argument) : Prop where
  name : a.name.isText = true
  nonempty : a.types.isEmpty = false
  types : ∀ tag ∈ a.types, isTag table tag = true

theorem exists_argument_of_isValidArgument {table : Converters} {v : Value}
    (h : isValidArgument table v = true) :
    ∃ a, v = .argument a ∧ IsWellFormedArgument table a := by
  cases v with
  | argument a =>
    rw [isValidArgument] at h
    simp only [Bool.and_eq_true, Bool.not_eq_true', List.all_eq_true] at h
    obtain ⟨⟨⟨hname, -⟩, hnonempty⟩, htypes⟩ := h
    exact ⟨a, rfl, hname, hnonempty, htypes⟩
  | _ => cases h

section Reading

variable {table : Converters} {a : Argument}

theorem exists_text_of_isTag {tag : Value} (h : isTag table tag = true) :
    ∃ name, tag = .text name ∧ ∃ strategy, table.lookup name = some strategy := by
  cases tag with
  | text name => exact ⟨name, rfl, Option.isSome_iff_exists.mp h⟩
  | _ => cases h

theorem IsWellFormedArgument.isText (ha : IsWellFormedArgument table a) :
    ∀ tag ∈ a.types, tag.isText = true := by
  intro tag htag
  obtain ⟨name, rfl, -⟩ := exists_text_of_isTag (ha.types tag htag)
  rfl

/-! ### One token -/

/-- A registered type decides about a text. -/
theorem exists_strategy (htable : table.IsTotal) {tag : Value} (htag : isTag table tag = true)
    (s : String) : ∃ strategy v, table.find tag = .ok (some strategy) ∧
      strategy (.text s) = .ok v := by
  obtain ⟨name, rfl, strategy, hlookup⟩ := exists_text_of_isTag htag
  obtain ⟨front, back, hsplit, -⟩ := List.lookup_eq_some_iff.mp hlookup
  have hmem : (name, strategy) ∈ table := by simp [hsplit]
  obtain ⟨v, hv⟩ := htable _ hmem s
  exact ⟨strategy, v, by rw [Converters.find, hlookup], hv⟩

theorem firstAccepted_cases (htable : table.IsTotal) (s : String) {tags : List Value}
    (htags : ∀ tag ∈ tags, isTag table tag = true) :
    (∃ v, firstAccepted table a (.text s) tags = .ok v) ∨
      firstAccepted table a (.text s) tags = .error (.fault (invalidFault a (.text s))) := by
  induction tags with
  | nil => exact .inr rfl
  | cons tag rest ih =>
    obtain ⟨htag, hrest⟩ := List.forall_mem_cons.mp htags
    obtain ⟨strategy, v, hfind, hv⟩ := exists_strategy htable htag s
    have hstep : firstAccepted table a (.text s) (tag :: rest) =
        if v.isUnset then firstAccepted table a (.text s) rest else .ok v := by
      rw [firstAccepted, hfind]
      simp only [Value.checked, Except.mapError, bind, Except.bind, hv]
      rfl
    rw [hstep]
    cases v.isUnset with
    | true => exact ih hrest
    | false => exact .inl ⟨v, rfl⟩

theorem coerce_text_cases (htable : table.IsTotal) (ha : IsWellFormedArgument table a) (s : String)
    (required : Bool) :
    (∃ v, coerce table (.text s) a required = .ok v) ∨
      coerce table (.text s) a required = .error (.fault (invalidFault a (.text s))) := by
  have hcoerce : coerce table (.text s) a required = firstAccepted table a (.text s) a.types := by
    rw [coerce, ha.nonempty]
    rfl
  rw [hcoerce]
  exact firstAccepted_cases htable s ha.types

theorem coerce_unset_cases (ha : IsWellFormedArgument table a) :
    (∃ v, coerce table .unset a true = .ok v) ∨
      coerce table .unset a true = .error (.fault (requiredFault a)) := by
  have hcoerce : coerce table .unset a true = absent a true := by
    rw [coerce, ha.nonempty]
    rfl
  rw [hcoerce, absent]
  split
  · exact .inl ⟨_, rfl⟩
  · exact .inr rfl

/-! ### All tokens -/

/-- A variadic argument takes what it can and never fails. -/
theorem exists_collect (htable : table.IsTotal) (ha : IsWellFormedArgument table a)
    (ss : List String) :
    ∃ values n, collect table a (ss.map Value.text) = .ok (values, (ss.drop n).map Value.text) := by
  induction ss with
  | nil => exact ⟨[], 0, rfl⟩
  | cons s rest ih =>
    rw [List.map_cons, collect]
    rcases coerce_text_cases htable ha s false with ⟨v, hv⟩ | herror
    · obtain ⟨values, n, hcollect⟩ := ih
      refine ⟨v :: values, n + 1, ?_⟩
      rw [hv]
      simp only [hcollect, bind, Except.bind, List.drop_succ_cons]
      rfl
    · refine ⟨[], 0, ?_⟩
      rw [herror]
      rfl

/-- A fixed argument gets a value or ends the reading with a fault that names its position. -/
theorem coerce_head_cases (htable : table.IsTotal) (ha : IsWellFormedArgument table a)
    (ss : List String) (cursor : Nat) :
    (∃ v, (coerce table ((ss.map Value.text).head?.getD .unset) a true).mapError
        (atPosition cursor) = .ok v) ∨
      ∃ f, IsReadingFault f ∧
        (coerce table ((ss.map Value.text).head?.getD .unset) a true).mapError
          (atPosition cursor) = .error (.fault f) := by
  cases ss with
  | nil =>
    rcases coerce_unset_cases ha with ⟨v, hv⟩ | herror
    · exact .inl ⟨v, by rw [List.map_nil, List.head?_nil, Option.getD_none, hv]; rfl⟩
    · refine .inr ⟨_, .required a cursor ha.name, ?_⟩
      rw [List.map_nil, List.head?_nil, Option.getD_none, herror]
      rfl
  | cons s rest =>
    rw [List.map_cons, List.head?_cons, Option.getD_some]
    rcases coerce_text_cases htable ha s true with ⟨v, hv⟩ | herror
    · exact .inl ⟨v, by rw [hv]; rfl⟩
    · refine .inr ⟨_, .invalid a (.text s) cursor ha.name ha.isText, ?_⟩
      rw [herror]
      rfl

theorem parseFrom_cases (htable : table.IsTotal) {definitions : List Value}
    (hdefinitions : ∀ d ∈ definitions, isValidArgument table d = true) (cursor : Nat)
    (ss : List String) :
    (∃ args, parseFrom table cursor (ss.map Value.text) definitions = .ok args) ∨
      ∃ f, IsReadingFault f ∧
        parseFrom table cursor (ss.map Value.text) definitions = .error (.fault f) := by
  induction definitions generalizing cursor ss with
  | nil => exact .inl ⟨[], rfl⟩
  | cons d rest ih =>
    obtain ⟨hd, hrest⟩ := List.forall_mem_cons.mp hdefinitions
    obtain ⟨a, rfl, ha⟩ := exists_argument_of_isValidArgument hd
    have hargument : Value.checked (asArgument (.argument a)) = .ok a := rfl
    rw [parseFrom, hargument]
    simp only [bind, Except.bind]
    -- A variadic argument leaves a later part of the texts, a fixed one all but the first.
    split
    · obtain ⟨values, n, hcollect⟩ := exists_collect htable ha ss
      rw [hcollect]
      dsimp only
      rcases ih hrest (cursor + values.length) (ss.drop n) with ⟨others, hothers⟩ | ⟨f, hf, herror⟩
      · exact .inl ⟨.list values :: others, by rw [hothers]; rfl⟩
      · exact .inr ⟨f, hf, by rw [herror]⟩
    · rcases coerce_head_cases htable ha ss cursor with ⟨v, hv⟩ | ⟨f, hf, herror⟩
      · rw [hv]
        dsimp only
        rw [← List.map_tail]
        rcases ih hrest (cursor + 1) ss.tail with ⟨others, hothers⟩ | ⟨f, hf, herror⟩
        · exact .inl ⟨v :: others, by rw [hothers]; rfl⟩
        · exact .inr ⟨f, hf, by rw [herror]⟩
      · exact .inr ⟨f, hf, by rw [herror]⟩

/-- Reading texts against well-formed definitions ends with values or with a fault about one of
the arguments. -/
theorem parse_cases (htable : table.IsTotal) {definitions : Value}
    (hdefinitions : areValidArguments table definitions = true) (ss : List String) :
    (∃ args, parse table (ss.map Value.text) definitions = .ok args) ∨
      ∃ f, IsReadingFault f ∧ parse table (ss.map Value.text) definitions = .error (.fault f) := by
  cases definitions with
  | null => exact .inl ⟨ss.map Value.text, rfl⟩
  | tuple items => exact parseFrom_cases htable (List.all_eq_true.mp hdefinitions) 0 ss
  | _ => cases hdefinitions

end Reading

/-! ### Answering a fault -/

section Answer

variable {f : Fault}

theorem IsReadingFault.answered? (hf : IsReadingFault f) : (Error.fault f).answered? = some f := by
  cases hf <;> rfl

/-- The reply to a fault about an argument can be rendered. -/
theorem IsReadingFault.exists_render (hf : IsReadingFault f) {l : Locale} {channel : Value}
    (hl : l.Formats channel) : ∃ text, ((f.replace []).render l).outcome = .ok text := by
  cases hf with
  | required a cursor hname =>
    obtain ⟨s, hs⟩ := Value.eq_text_of_isText hname
    have hrender : (((requiredFault a).located cursor).replace []).render l =
        l.formatCommon "missing_argument" [a.name, .int (cursor + 1)] := rfl
    rw [hrender, hs]
    exact hl.missing s (cursor + 1)
  | invalid a token cursor hname htypes =>
    obtain ⟨s, hs⟩ := Value.eq_text_of_isText hname
    have hrender : (((invalidFault a token).located cursor).replace []).render l =
        l.listing (.tuple a.types) "common.argument_types" >>= fun listed =>
          l.formatCommon "invalid_argument_type" [a.name, .int (cursor + 1), .text listed] := rfl
    obtain ⟨listed, hlisted⟩ := l.exists_listing htypes "common.argument_types"
    obtain ⟨text, htext⟩ := hl.invalid s (cursor + 1) listed
    refine ⟨text, ?_⟩
    rw [hrender, hs, Run.bind_of_ok hlisted]
    exact htext

/-- A fault about an argument can be answered. -/
theorem IsReadingFault.outcome_trigger (hf : IsReadingFault f) (h : Host) {l : Locale}
    {channel : Value} (hl : l.Formats channel) : (f.trigger h l []).outcome = .ok () := by
  obtain ⟨text, htext⟩ := hf.exists_render hl
  have hcode : ∃ c, (f.replace []).option? "code" = some (.code c) := by
    cases hf with
    | required a cursor hname => exact ⟨.missingArgument, rfl⟩
    | invalid a token cursor hname htypes => exact ⟨.invalidArgumentType, rfl⟩
  obtain ⟨c, hcode⟩ := hcode
  exact Fault.outcome_trigger_of_render h l f [] hcode htext

end Answer

end ChatCommands
