import ChatCommands.Proofs.Argument.Reading
import Mathlib.Data.List.Basic

/-!
# How tokens are divided among arguments

Reading walks along the tokens with a cursor.  A variadic argument takes the longest run of tokens
that it accepts, a fixed one takes the token at the cursor or, where there is none, its default.
The cursors in between divide the tokens among the arguments, in only one way: reading ends with
values exactly if the tokens can be divided, and stops at the first fixed argument that cannot be
filled otherwise.

The cursor moves on by one for a default too, so that it may lie behind the last token.

## Main definitions

* `IsTyped` : an argument with types, all of them registered.
* `reading?` : the value of a text by the first type that accepts it.
* `Fills` : what an argument takes between two cursors.
* `Misfits` : the fault of a fixed argument that cannot be filled.
* `Decomposes` : arguments filled one after another between successive cursors.

## Main results

* `fills_or_misfits` : one or the other.
* `parseFrom_of_decomposes`, `decomposes_or_misfits` : reading follows the decomposition.
* `parse_decomposes` : the decomposition computed by reading is the only one.
-/

namespace ChatCommands

/-- An argument with at least one type, all of whose types are registered. -/
structure IsTyped (table : Converters) (a : Argument) : Prop where
  nonempty : a.types.isEmpty = false
  types : ∀ tag ∈ a.types, isTag table tag = true

/-- The value that a type gives a text, if it is registered and accepts the text. -/
def acceptedAs? (table : Converters) (s : String) : Value → Option Value
  | .text name => do
    let strategy ← table.lookup name
    let v ← (strategy (.text s)).toOption
    if v.isUnset then none else some v
  | _ => none

/-- The value of a text by the first type of an argument that accepts it. -/
def reading? (table : Converters) (a : Argument) (s : String) : Option Value :=
  a.types.findSome? (acceptedAs? table s)

/-- What an argument takes from the cursor `start` up to the cursor `stop`, and its value. -/
inductive Fills (table : Converters) (ss : List String) (a : Argument) : Nat → Nat → Value → Prop
  | run {start : Nat} {values : List Value} (hvariadic : a.isVariadic = true)
      (hread : ((ss.drop start).take values.length).map (reading? table a) = values.map some)
      (hmaximal : ∀ s, ss[start + values.length]? = some s → reading? table a s = none) :
      Fills table ss a start (start + values.length) (.list values)
  | token {start : Nat} {s : String} {v : Value} (hfixed : a.isVariadic = false)
      (hs : ss[start]? = some s) (hv : reading? table a s = some v) :
      Fills table ss a start (start + 1) v
  | default {start : Nat} (hfixed : a.isVariadic = false) (habsent : ss[start]? = none)
      (hdefault : a.default.isUnset = false) : Fills table ss a start (start + 1) a.default

/-- The fault of a fixed argument that cannot be filled at a cursor. -/
inductive Misfits (table : Converters) (ss : List String) (a : Argument) : Nat → Fault → Prop
  | rejected {start : Nat} {s : String} (hfixed : a.isVariadic = false) (hs : ss[start]? = some s)
      (hnone : reading? table a s = none) :
      Misfits table ss a start ((invalidFault a (.text s)).located start)
  | absent {start : Nat} (hfixed : a.isVariadic = false) (habsent : ss[start]? = none)
      (hdefault : a.default.isUnset = true) :
      Misfits table ss a start ((requiredFault a).located start)

/-- Arguments are filled one after another; the cursors are those behind each of them. -/
inductive Decomposes (table : Converters) (ss : List String) :
    Nat → List Argument → List Nat → List Value → Prop
  | nil (start : Nat) : Decomposes table ss start [] [] []
  | cons {start stop : Nat} {a : Argument} {v : Value} {slots : List Argument} {cursors : List Nat}
      {values : List Value} (hfirst : Fills table ss a start stop v)
      (hrest : Decomposes table ss stop slots cursors values) :
      Decomposes table ss start (a :: slots) (stop :: cursors) (v :: values)

/-- The cursor behind the last of some arguments. -/
def lastCursor (start : Nat) (cursors : List Nat) : Nat :=
  cursors.getLast?.getD start

@[simp] theorem lastCursor_nil (start : Nat) : lastCursor start [] = start := rfl

@[simp] theorem lastCursor_cons (start stop : Nat) (cursors : List Nat) :
    lastCursor start (stop :: cursors) = lastCursor stop cursors := by
  simp [lastCursor, List.getLast?_cons]

section Decomposition

variable {table : Converters} {ss : List String} {a : Argument}

/-! ### One token -/

theorem firstAccepted_eq (htable : table.IsTotal) (s : String) {tags : List Value}
    (htags : ∀ tag ∈ tags, isTag table tag = true) :
    firstAccepted table a (.text s) tags =
      match tags.findSome? (acceptedAs? table s) with
      | some v => .ok v
      | none => .error (.fault (invalidFault a (.text s))) := by
  induction tags with
  | nil => rfl
  | cons tag rest ih =>
    obtain ⟨htag, hrest⟩ := List.forall_mem_cons.mp htags
    obtain ⟨name, rfl, strategy, hlookup⟩ := exists_text_of_isTag htag
    obtain ⟨found, v, hfind, hv⟩ := exists_strategy htable htag s
    rw [Converters.find, hlookup] at hfind
    cases hfind
    have haccepted : acceptedAs? table s (.text name) = if v.isUnset then none else some v := by
      simp [acceptedAs?, hlookup, hv, Except.toOption]
    rw [firstAccepted, Converters.find, hlookup, List.findSome?_cons, haccepted]
    simp only [Value.checked, Except.mapError, bind, Except.bind, hv]
    cases hunset : v.isUnset with
    | true => simpa [hunset] using ih hrest
    | false => rfl

/-- Coercing a text gives its reading, or a fault where it has none. -/
theorem coerce_text (htable : table.IsTotal) (ha : IsTyped table a) (s : String)
    (required : Bool) :
    coerce table (.text s) a required =
      match reading? table a s with
      | some v => .ok v
      | none => .error (.fault (invalidFault a (.text s))) := by
  rw [coerce, ha.nonempty]
  exact firstAccepted_eq htable s ha.types

theorem coerce_unset (ha : IsTyped table a) (hfixed : a.isVariadic = false) :
    coerce table .unset a true =
      if a.default.isUnset then .error (.fault (requiredFault a)) else .ok a.default := by
  have hcoerce : coerce table .unset a true = absent a true := by
    rw [coerce, ha.nonempty]
    rfl
  rw [hcoerce, absent, hfixed]
  cases a.default.isUnset <;> rfl

theorem reading?_eq_none_iff {s : String} :
    reading? table a s = none ↔ ∀ tag ∈ a.types, acceptedAs? table s tag = none :=
  List.findSome?_eq_none_iff

/-! ### Runs of tokens -/

/-- A variadic argument takes the longest run of tokens that it accepts. -/
theorem exists_collect_run (htable : table.IsTotal) (ha : IsTyped table a) (ss : List String) :
    ∃ values, collect table a (ss.map Value.text) =
        .ok (values, (ss.drop values.length).map Value.text) ∧
      (ss.take values.length).map (reading? table a) = values.map some ∧
      ∀ s, ss[values.length]? = some s → reading? table a s = none := by
  induction ss with
  | nil => exact ⟨[], rfl, rfl, nofun⟩
  | cons s rest ih =>
    rw [List.map_cons, collect, coerce_text htable ha]
    cases hs : reading? table a s with
    | none =>
      refine ⟨[], rfl, rfl, fun t ht => ?_⟩
      cases ht
      exact hs
    | some v =>
      obtain ⟨values, hcollect, hread, hmaximal⟩ := ih
      refine ⟨v :: values, ?_, ?_, fun t ht => hmaximal t (by simpa using ht)⟩
      · simp only [hcollect, bind, Except.bind]
        rfl
      · simp [hs, hread]

theorem run_unique {ss : List String} {values values' : List Value}
    (hread : (ss.take values.length).map (reading? table a) = values.map some)
    (hmaximal : ∀ s, ss[values.length]? = some s → reading? table a s = none)
    (hread' : (ss.take values'.length).map (reading? table a) = values'.map some)
    (hmaximal' : ∀ s, ss[values'.length]? = some s → reading? table a s = none) :
    values = values' := by
  induction ss generalizing values values' with
  | nil =>
    have hnil : values = [] := by simpa using hread.symm
    have hnil' : values' = [] := by simpa using hread'.symm
    rw [hnil, hnil']
  | cons s rest ih =>
    -- The first token is read by both runs or ends both of them.
    cases values with
    | nil =>
      cases values' with
      | nil => rfl
      | cons v' values' => simp [hmaximal s rfl] at hread'
    | cons v values =>
      cases values' with
      | nil => simp [hmaximal' s rfl] at hread
      | cons v' values' =>
        simp only [List.length_cons, List.take_succ_cons, List.map_cons, List.cons.injEq]
          at hread hread'
        have hv : v = v' := Option.some.inj (hread.1.symm.trans hread'.1)
        rw [hv, ih hread.2 (fun t ht => hmaximal t (by simpa using ht)) hread'.2
          fun t ht => hmaximal' t (by simpa using ht)]

/-! ### One argument -/

theorem Fills.unique {start stop stop' : Nat} {v v' : Value} (h : Fills table ss a start stop v)
    (h' : Fills table ss a start stop' v') : stop = stop' ∧ v = v' := by
  cases h with
  | run hvariadic hread hmaximal =>
    cases h' with
    | run _ hread' hmaximal' =>
      have hvalues := run_unique hread (fun s hs => hmaximal s (by simpa using hs)) hread'
        fun s hs => hmaximal' s (by simpa using hs)
      rw [hvalues]
      exact ⟨rfl, rfl⟩
    | _ hfixed => simp [hvariadic] at hfixed
  | token hfixed hs hv =>
    cases h' with
    | run hvariadic => simp [hvariadic] at hfixed
    | token _ hs' hv' =>
      cases hs.symm.trans hs'
      exact ⟨rfl, Option.some.inj (hv.symm.trans hv')⟩
    | default _ habsent => simp [hs] at habsent
  | default hfixed habsent hdefault =>
    cases h' with
    | run hvariadic => simp [hvariadic] at hfixed
    | token _ hs => simp [habsent] at hs
    | default => exact ⟨rfl, rfl⟩

theorem Fills.le {start stop : Nat} {v : Value} (h : Fills table ss a start stop v) :
    start ≤ stop := by
  cases h <;> omega

/-- What fills an argument does not fail to. -/
theorem Misfits.not_fills {start : Nat} {f : Fault} (h : Misfits table ss a start f) (stop : Nat)
    (v : Value) : ¬ Fills table ss a start stop v := by
  intro hfills
  cases h with
  | rejected hfixed hs hnone => cases hfills <;> simp_all
  | absent hfixed habsent hdefault => cases hfills <;> simp_all

/-- What reading coerces next: the token at the cursor, or nothing behind the last one. -/
theorem nextToken_eq (ss : List String) (start : Nat) :
    ((ss.drop start).map Value.text).head?.getD .unset =
      (ss[start]?.map Value.text).getD .unset := by
  simp

/-- A variadic argument is always filled, and a fixed one is filled or has a fault. -/
theorem fills_or_misfits (htable : table.IsTotal) (ha : IsTyped table a) (ss : List String)
    (start : Nat) :
    (∃ stop v, Fills table ss a start stop v) ∨ ∃ f, Misfits table ss a start f := by
  by_cases hvariadic : a.isVariadic = true
  · obtain ⟨values, -, hread, hmaximal⟩ := exists_collect_run htable ha (ss.drop start)
    exact .inl ⟨_, _, .run hvariadic hread fun s hs => hmaximal s (by simpa using hs)⟩
  · have hfixed : a.isVariadic = false := by simpa using hvariadic
    cases hs : ss[start]? with
    | none =>
      cases hdefault : a.default.isUnset with
      | false => exact .inl ⟨_, _, .default hfixed hs hdefault⟩
      | true => exact .inr ⟨_, .absent hfixed hs hdefault⟩
    | some s =>
      cases hv : reading? table a s with
      | some v => exact .inl ⟨_, _, .token hfixed hs hv⟩
      | none => exact .inr ⟨_, .rejected hfixed hs hv⟩

/-- Reading goes on behind an argument that is filled. -/
theorem parseFrom_of_fills (htable : table.IsTotal) (ha : IsTyped table a) {start stop : Nat}
    {v : Value} (h : Fills table ss a start stop v) (definitions : List Value) :
    parseFrom table start ((ss.drop start).map Value.text) (.argument a :: definitions) =
      (parseFrom table stop ((ss.drop stop).map Value.text) definitions).map (v :: ·) := by
  have hargument : Value.checked (asArgument (.argument a)) = .ok a := rfl
  rw [parseFrom, hargument]
  simp only [bind, Except.bind]
  cases h with
  | run hvariadic hread hmaximal =>
    obtain ⟨values, hcollect, hread', hmaximal'⟩ := exists_collect_run htable ha (ss.drop start)
    have hvalues := run_unique hread' hmaximal' hread fun s hs => hmaximal s (by simpa using hs)
    subst hvalues
    rw [if_pos hvariadic, hcollect, List.drop_drop]
    dsimp only
    cases parseFrom table _ _ definitions <;> rfl
  | token hfixed hs hv =>
    rw [if_neg (by simp [hfixed]), nextToken_eq, hs, Option.map_some, Option.getD_some,
      coerce_text htable ha, hv, ← List.map_tail, List.tail_drop]
    simp only [Except.mapError]
    cases parseFrom table _ _ definitions <;> rfl
  | default hfixed habsent hdefault =>
    rw [if_neg (by simp [hfixed]), nextToken_eq, habsent, Option.map_none, Option.getD_none,
      coerce_unset ha hfixed, hdefault, ← List.map_tail, List.tail_drop]
    simp only [Except.mapError]
    cases parseFrom table _ _ definitions <;> rfl

/-- Reading ends with the fault of an argument that cannot be filled. -/
theorem parseFrom_of_misfits (htable : table.IsTotal) (ha : IsTyped table a) {start : Nat}
    {f : Fault} (h : Misfits table ss a start f) (definitions : List Value) :
    parseFrom table start ((ss.drop start).map Value.text) (.argument a :: definitions) =
      .error (.fault f) := by
  have hargument : Value.checked (asArgument (.argument a)) = .ok a := rfl
  rw [parseFrom, hargument]
  simp only [bind, Except.bind]
  cases h with
  | rejected hfixed hs hnone =>
    rw [if_neg (by simp [hfixed]), nextToken_eq, hs, Option.map_some, Option.getD_some,
      coerce_text htable ha, hnone]
    rfl
  | absent hfixed habsent hdefault =>
    rw [if_neg (by simp [hfixed]), nextToken_eq, habsent, Option.map_none, Option.getD_none,
      coerce_unset ha hfixed, hdefault]
    rfl

/-! ### All arguments -/

namespace Decomposes

variable {start : Nat} {slots : List Argument} {cursors : List Nat} {values : List Value}

theorem unique {cursors' : List Nat} {values' : List Value}
    (h : Decomposes table ss start slots cursors values)
    (h' : Decomposes table ss start slots cursors' values') :
    cursors = cursors' ∧ values = values' := by
  induction h generalizing cursors' values' with
  | nil => cases h'; exact ⟨rfl, rfl⟩
  | cons hfirst hrest ih =>
    cases h' with
    | cons hfirst' hrest' =>
      obtain ⟨rfl, rfl⟩ := hfirst.unique hfirst'
      obtain ⟨rfl, rfl⟩ := ih hrest'
      exact ⟨rfl, rfl⟩

theorem length_eq (h : Decomposes table ss start slots cursors values) :
    cursors.length = slots.length ∧ values.length = slots.length := by
  induction h with
  | nil => exact ⟨rfl, rfl⟩
  | cons _ _ ih => simp [ih]

theorem le_lastCursor (h : Decomposes table ss start slots cursors values) :
    start ≤ lastCursor start cursors := by
  induction h with
  | nil => exact Nat.le_refl _
  | cons hfirst _ ih => simpa using hfirst.le.trans ih

end Decomposes

/-- Reading gives the values of a decomposition and goes on behind it. -/
theorem parseFrom_of_decomposes (htable : table.IsTotal) {start : Nat} {slots : List Argument}
    {cursors : List Nat} {values : List Value} (htyped : ∀ a ∈ slots, IsTyped table a)
    (h : Decomposes table ss start slots cursors values) (definitions : List Value) :
    parseFrom table start ((ss.drop start).map Value.text)
        (slots.map Value.argument ++ definitions) =
      (parseFrom table (lastCursor start cursors)
        ((ss.drop (lastCursor start cursors)).map Value.text) definitions).map (values ++ ·) := by
  induction h with
  | nil start =>
    simp only [List.map_nil, List.nil_append, lastCursor_nil]
    cases parseFrom table start _ definitions <;> rfl
  | cons hfirst _ ih =>
    obtain ⟨ha, hslots⟩ := List.forall_mem_cons.mp htyped
    rw [List.map_cons, List.cons_append, parseFrom_of_fills htable ha hfirst, ih hslots,
      lastCursor_cons]
    cases parseFrom table _ _ definitions <;> rfl

/-- All arguments are filled, or a first one cannot be. -/
theorem decomposes_or_misfits (htable : table.IsTotal) {slots : List Argument}
    (htyped : ∀ a ∈ slots, IsTyped table a) (ss : List String) (start : Nat) :
    (∃ cursors values, Decomposes table ss start slots cursors values) ∨
      ∃ front a later cursors values f, slots = front ++ a :: later ∧
        Decomposes table ss start front cursors values ∧
        Misfits table ss a (lastCursor start cursors) f := by
  induction slots generalizing start with
  | nil => exact .inl ⟨[], [], .nil start⟩
  | cons a slots ih =>
    obtain ⟨ha, hslots⟩ := List.forall_mem_cons.mp htyped
    rcases fills_or_misfits htable ha ss start with ⟨stop, v, hfirst⟩ | ⟨f, hf⟩
    · rcases ih hslots stop with
        ⟨cursors, values, hrest⟩ | ⟨front, b, later, cursors, values, f, rfl, hrest, hf⟩
      · exact .inl ⟨_, _, .cons hfirst hrest⟩
      · exact .inr ⟨a :: front, b, later, _, _, f, rfl, .cons hfirst hrest, by simpa using hf⟩
    · exact .inr ⟨[], a, slots, [], [], f, rfl, .nil start, hf⟩

/-! ### Tokens behind the last cursor -/

theorem take_eq_of_le {α : Type} {l l' : List α} {m n : Nat} (h : l'.take n = l.take n)
    (hmn : m ≤ n) : l'.take m = l.take m := by
  simpa [List.take_take, Nat.min_eq_left hmn] using congrArg (List.take m) h

theorem getElem?_eq_of_take_eq {α : Type} {l l' : List α} {i n : Nat} (h : l'.take n = l.take n)
    (hi : i < n) : l'[i]? = l[i]? := by
  simpa [List.getElem?_take_of_lt hi] using congrArg (·[i]?) h

/-- What fills an argument depends only on the tokens up to the cursor behind it. -/
theorem Fills.congr {ss' : List String} {start stop : Nat} {v : Value}
    (h : Fills table ss a start stop v) (hagree : ss'.take (stop + 1) = ss.take (stop + 1)) :
    Fills table ss' a start stop v := by
  have hget {i : Nat} (hi : i ≤ stop) : ss'[i]? = ss[i]? :=
    getElem?_eq_of_take_eq hagree (Nat.lt_succ_of_le hi)
  cases h with
  | run hvariadic hread hmaximal =>
    refine .run hvariadic ?_ fun s hs => hmaximal s (hget (Nat.le_refl _) ▸ hs)
    rw [List.take_drop, take_eq_of_le hagree (Nat.le_succ _), ← List.take_drop]
    exact hread
  | token hfixed hs hv => exact .token hfixed (hget (Nat.le_succ _) ▸ hs) hv
  | default hfixed habsent hdefault =>
    exact .default hfixed (hget (Nat.le_succ _) ▸ habsent) hdefault

/-- A fixed argument does not depend on the token at the cursor behind it. -/
theorem Fills.congr_of_fixed {ss' : List String} {start stop : Nat} {v : Value}
    (h : Fills table ss a start stop v) (hfixed : a.isVariadic = false)
    (hagree : ss'.take stop = ss.take stop) : Fills table ss' a start stop v := by
  cases h with
  | run hvariadic => simp [hvariadic] at hfixed
  | token _ hs hv =>
    exact .token hfixed (getElem?_eq_of_take_eq hagree (Nat.lt_succ_self _) ▸ hs) hv
  | default _ habsent hdefault =>
    exact .default hfixed (getElem?_eq_of_take_eq hagree (Nat.lt_succ_self _) ▸ habsent) hdefault

theorem Fills.lt_of_fixed {start stop : Nat} {v : Value} (h : Fills table ss a start stop v)
    (hfixed : a.isVariadic = false) : start < stop := by
  cases h with
  | run hvariadic => simp [hvariadic] at hfixed
  | token | default => exact Nat.lt_succ_self _

namespace Decomposes

variable {ss' : List String} {start : Nat} {slots : List Argument} {cursors : List Nat}
  {values : List Value}

/-- A decomposition depends only on the tokens up to its last cursor. -/
theorem congr (h : Decomposes table ss start slots cursors values)
    (hagree : ss'.take (lastCursor start cursors + 1) = ss.take (lastCursor start cursors + 1)) :
    Decomposes table ss' start slots cursors values := by
  induction h with
  | nil => exact .nil _
  | cons hfirst hrest ih =>
    rw [lastCursor_cons] at hagree
    have hle := Nat.succ_le_succ hrest.le_lastCursor
    exact .cons (hfirst.congr (take_eq_of_le hagree hle)) (ih hagree)

theorem lt_lastCursor (h : Decomposes table ss start slots cursors values) {b : Argument}
    (hlast : slots.getLast? = some b) (hfixed : b.isVariadic = false) :
    start < lastCursor start cursors := by
  induction h with
  | nil => cases hlast
  | @cons start stop a v slots cursors values hfirst hrest ih =>
    rw [lastCursor_cons]
    cases slots with
    | nil =>
      cases hrest
      cases hlast
      exact hfirst.lt_of_fixed hfixed
    | cons c later => exact hfirst.le.trans_lt (ih (by simpa using hlast))

/-- A decomposition that ends with a fixed argument does not depend on the token at its last
cursor either. -/
theorem congr_of_fixed (h : Decomposes table ss start slots cursors values)
    (hfixed : ∀ b, slots.getLast? = some b → b.isVariadic = false)
    (hagree : ss'.take (lastCursor start cursors) = ss.take (lastCursor start cursors)) :
    Decomposes table ss' start slots cursors values := by
  induction h with
  | nil => exact .nil _
  | @cons start stop a v slots cursors values hfirst hrest ih =>
    rw [lastCursor_cons] at hagree
    cases slots with
    | nil =>
      cases hrest
      exact .cons (hfirst.congr_of_fixed (hfixed a rfl) hagree) (.nil stop)
    | cons c later =>
      -- A fixed argument follows, so that the cursor behind the first one is not the last.
      have hb := List.getLast?_eq_some_getLast (List.cons_ne_nil c later)
      have hlast : ∀ b, (c :: later).getLast? = some b → b.isVariadic = false :=
        fun b hb => hfixed b (by simpa using hb)
      have hlt := hrest.lt_lastCursor hb (hlast _ hb)
      exact .cons (hfirst.congr (take_eq_of_le hagree hlt)) (ih hlast hagree)

end Decomposes

/-! ### The decomposition that reading computes -/

theorem parse_of_elements {definitions : Value} {items : List Value}
    (h : definitions.elements? = some items) (ss : List String) :
    parse table (ss.map Value.text) definitions =
      parseFrom table 0 ((ss.drop 0).map Value.text) items := by
  have hnull : ¬ definitions.isNull = true := by
    cases definitions with
    | null => cases h
    | _ => exact Bool.false_ne_true
  have hitems : Value.checked definitions.items = .ok items := by
    rw [Value.items, h]
    rfl
  rw [parse, if_neg hnull, hitems]
  rfl

section Whole

variable (htable : table.IsTotal) {definitions : Value} {slots : List Argument}
  (hdefinitions : definitions.elements? = some (slots.map Value.argument))
  (htyped : ∀ a ∈ slots, IsTyped table a)

include htable hdefinitions htyped

theorem parse_of_decomposes {cursors : List Nat} {values : List Value}
    (h : Decomposes table ss 0 slots cursors values) :
    parse table (ss.map Value.text) definitions = .ok values := by
  have hread := parseFrom_of_decomposes htable htyped h []
  rw [List.append_nil] at hread
  rw [parse_of_elements hdefinitions, hread]
  simp [parseFrom, Except.map]

theorem parse_of_misfits {front later : List Argument} {cursors : List Nat} {values : List Value}
    {f : Fault} (hslots : slots = front ++ a :: later)
    (hfront : Decomposes table ss 0 front cursors values)
    (hf : Misfits table ss a (lastCursor 0 cursors) f) :
    parse table (ss.map Value.text) definitions = .error (.fault f) := by
  subst hslots
  have ha : IsTyped table a := htyped a (by simp)
  have htypedFront : ∀ b ∈ front, IsTyped table b := fun b hb => htyped b (by simp [hb])
  rw [parse_of_elements hdefinitions, List.map_append, List.map_cons,
    parseFrom_of_decomposes htable htypedFront hfront, parseFrom_of_misfits htable ha hf]
  rfl

/-- Reading ends with values exactly if the tokens can be divided. -/
theorem parse_eq_ok_iff (ss : List String) (values : List Value) :
    parse table (ss.map Value.text) definitions = .ok values ↔
      ∃ cursors, Decomposes table ss 0 slots cursors values := by
  constructor
  · intro hvalues
    rcases decomposes_or_misfits htable htyped ss 0 with
      ⟨cursors, values', h⟩ | ⟨front, a, later, cursors, values', f, hslots, hfront, hf⟩
    · rw [parse_of_decomposes htable hdefinitions htyped h] at hvalues
      cases hvalues
      exact ⟨cursors, h⟩
    · rw [parse_of_misfits htable hdefinitions htyped hslots hfront hf] at hvalues
      cases hvalues
  · rintro ⟨cursors, h⟩
    exact parse_of_decomposes htable hdefinitions htyped h

/-- Reading ends with an error exactly if a first argument cannot be filled: with its fault. -/
theorem parse_eq_error_iff (ss : List String) (e : Error) :
    parse table (ss.map Value.text) definitions = .error e ↔
      ∃ front a later cursors values f, slots = front ++ a :: later ∧
        Decomposes table ss 0 front cursors values ∧
        Misfits table ss a (lastCursor 0 cursors) f ∧ e = .fault f := by
  constructor
  · intro herror
    rcases decomposes_or_misfits htable htyped ss 0 with
      ⟨cursors, values, h⟩ | ⟨front, a, later, cursors, values, f, hslots, hfront, hf⟩
    · rw [parse_of_decomposes htable hdefinitions htyped h] at herror
      cases herror
    · rw [parse_of_misfits htable hdefinitions htyped hslots hfront hf] at herror
      cases herror
      exact ⟨front, a, later, cursors, values, f, hslots, hfront, hf, rfl⟩
  · rintro ⟨front, a, later, cursors, values, f, hslots, hfront, hf, rfl⟩
    exact parse_of_misfits htable hdefinitions htyped hslots hfront hf

end Whole

end Decomposition

/-- Reading computes the greedy decomposition of the tokens.  It ends with values exactly if the
arguments can be filled one after another, a variadic one by the longest run of tokens that it
accepts and a fixed one by the token at the cursor or by its default behind the last token; the
cursors, one for each argument, are determined by this.  The tokens behind the last cursor do not
matter, and neither does the token at it if the last argument is fixed; if it is variadic, that
token is the one that ends its run. -/
theorem parse_decomposes {table : Converters} (htable : table.IsTotal) {definitions : Value}
    {slots : List Argument}
    (hdefinitions : definitions.elements? = some (slots.map Value.argument))
    (htyped : ∀ a ∈ slots, IsTyped table a) (ss : List String) :
    (∀ values, parse table (ss.map Value.text) definitions = .ok values ↔
      ∃ cursors, Decomposes table ss 0 slots cursors values) ∧
    ∀ cursors values, Decomposes table ss 0 slots cursors values →
      cursors.length = slots.length ∧ values.length = slots.length ∧
      (∀ cursors' values', Decomposes table ss 0 slots cursors' values' →
        cursors' = cursors ∧ values' = values) ∧
      (∀ ss' : List String,
        ss'.take (lastCursor 0 cursors + 1) = ss.take (lastCursor 0 cursors + 1) →
        parse table (ss'.map Value.text) definitions = .ok values) ∧
      ((∀ a, slots.getLast? = some a → a.isVariadic = false) →
        ∀ ss' : List String, ss'.take (lastCursor 0 cursors) = ss.take (lastCursor 0 cursors) →
          parse table (ss'.map Value.text) definitions = .ok values) := by
  refine ⟨parse_eq_ok_iff htable hdefinitions htyped ss, fun cursors values h => ?_⟩
  obtain ⟨hcursors, hvalues⟩ := h.length_eq
  refine ⟨hcursors, hvalues, fun _ _ h' => h'.unique h, fun ss' hagree => ?_,
    fun hfixed ss' hagree => ?_⟩
  · exact parse_of_decomposes htable hdefinitions htyped (h.congr hagree)
  · exact parse_of_decomposes htable hdefinitions htyped (h.congr_of_fixed hfixed hagree)

/-- A member, any number of roles and a reason, which may be left out. -/
def grantSlots : List Argument :=
  [⟨0, .text "member", [.text "user"], .bool false, .unset⟩,
    ⟨1, .text "roles", [.text "role"], .bool true, .unset⟩,
    ⟨2, .text "reason", [.text "channel", .text "string"], .bool false, .text "none"⟩]

theorem isTyped_grantSlots : ∀ a ∈ grantSlots, IsTyped Converters.standard a := by
  intro a ha
  have htags : ∀ a ∈ grantSlots,
      a.types.isEmpty = false ∧ ∀ tag ∈ a.types, isTag Converters.standard tag = true := by
    decide
  exact ⟨(htags a ha).1, (htags a ha).2⟩

/-- Of `<@!42> 7 <@&8> spam again` the roles take two tokens and the reason takes the next. -/
theorem decomposes_grantSlots :
    Decomposes Converters.standard ["<@!42>", "7", "<@&8>", "spam", "again"] 0 grantSlots [1, 3, 4]
      [.text "42", .list [.text "7", .text "8"], .text "spam"] := by
  refine .cons (.token rfl rfl rfl) (.cons ?_ (.cons (.token rfl rfl rfl) (.nil 4)))
  refine @Fills.run _ _ _ 1 [.text "7", .text "8"] rfl rfl fun s hs => ?_
  cases hs
  rfl

theorem parse_decomposes_grantSlots :
    Converters.standard.IsTotal ∧ (∀ a ∈ grantSlots, IsTyped Converters.standard a) ∧
    parse Converters.standard
        (["<@!42>", "7", "<@&8>", "spam", "again"].map Value.text)
        (.tuple (grantSlots.map Value.argument)) =
      .ok [.text "42", .list [.text "7", .text "8"], .text "spam"] :=
  ⟨Converters.isTotal_standard, isTyped_grantSlots,
    ((parse_decomposes Converters.isTotal_standard rfl isTyped_grantSlots _).1 _).mpr
      ⟨_, decomposes_grantSlots⟩⟩

end ChatCommands
