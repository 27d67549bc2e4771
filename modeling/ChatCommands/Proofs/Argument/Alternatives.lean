import ChatCommands.Proofs.Argument.Reading

/-!
# The types of an argument as alternatives

The types of an argument are tried in order.  A registered type that refuses the token is passed
over; the first other one decides: it accepts the token with any value but `unset`, or it is not
registered, or it is no value that could be.  So more types behind some of them come into play
only where all of those are passed over.

## Main definitions

* `Accepts`, `Passes`, `IsUnregistered` : what a type does with a text.
* `Decides` : how the types of an argument decide about a text.
* `ArgumentOf.withTypes` : an argument with other types.
* `Error.about` : an error as it is told about another argument.

## Main results

* `decides_firstAccepted`, `Decides.eq` : the types decide in exactly one way.
* `firstAccepted_append_types` : how they decide with more types behind them.
* `coerce_composes` : coercion by a list of types in two parts.
-/

namespace ChatCommands

/-- A type accepts a text with a value, which may count as false but is not `unset`. -/
def Accepts (table : Converters) (s : String) (tag v : Value) : Prop :=
  ∃ strategy, table.find tag = .ok (some strategy) ∧ strategy (.text s) = .ok v ∧ v ≠ .unset

/-- A registered type refuses a text. -/
def Passes (table : Converters) (s : String) (tag : Value) : Prop :=
  ∃ strategy, table.find tag = .ok (some strategy) ∧ strategy (.text s) = .ok .unset

/-- A type that could be registered is not. -/
def IsUnregistered (table : Converters) (tag : Value) : Prop :=
  table.find tag = .ok none

/-- How the types of an argument decide about a text: by the first one that is not passed over. -/
inductive Decides (table : Converters) (a : Argument) (s : String) :
    List Value → Except Error Value → Prop
  | accepted {front back : List Value} {tag v : Value} (hfront : ∀ t ∈ front, Passes table s t)
      (htag : Accepts table s tag v) : Decides table a s (front ++ tag :: back) (.ok v)
  | unregistered {front back : List Value} {tag : Value} (hfront : ∀ t ∈ front, Passes table s t)
      (htag : IsUnregistered table tag) :
      Decides table a s (front ++ tag :: back) (.error (.fault (unknownTypeFault a tag)))
  | noKey {front back : List Value} {tag : Value} {m : Misuse}
      (hfront : ∀ t ∈ front, Passes table s t) (htag : table.find tag = .error m) :
      Decides table a s (front ++ tag :: back) (.error (.misuse m))
  | exhausted {tags : List Value} (htags : ∀ t ∈ tags, Passes table s t) :
      Decides table a s tags (.error (.fault (invalidFault a (.text s))))

/-- An argument with other types. -/
def ArgumentOf.withTypes (a : Argument) (types : List Value) : Argument :=
  { a with types := types }

/-- An error as it is told about another argument: a fault names that one. -/
def Error.about (a : Argument) : Error → Error
  | .fault f => .fault (f.replace [("argument", .argument a)])
  | e => e

section Alternatives

variable {table : Converters} {a : Argument} {s : String}

/-! ### One type -/

/-- A value could be registered exactly if it can be looked up. -/
theorem hashable_eq_ok_iff (table : Converters) (tag : Value) :
    tag.hashable = .ok () ↔ ∃ found, table.find tag = .ok found := by
  unfold Converters.find
  split
  · exact ⟨fun _ => ⟨_, rfl⟩, fun _ => rfl⟩
  · cases tag.hashable <;> simp [Except.map]

theorem Accepts.not_passes {tag v : Value} (h : Accepts table s tag v) : ¬ Passes table s tag := by
  rintro ⟨strategy', hfind', hunset⟩
  obtain ⟨strategy, hfind, hv, hne⟩ := h
  obtain rfl : strategy = strategy' := by simpa [hfind] using hfind'
  exact hne (by simpa [hv] using hunset)

theorem exists_mem_of_find {tag : Value} {strategy : Strategy}
    (h : table.find tag = .ok (some strategy)) : ∃ name, (name, strategy) ∈ table := by
  unfold Converters.find at h
  split at h
  · rename_i name
    obtain ⟨front, back, hsplit, -⟩ := List.lookup_eq_some_iff.mp (Except.ok.inj h)
    exact ⟨name, by simp [hsplit]⟩
  · cases hhashable : tag.hashable <;> simp [hhashable, Except.map] at h

/-- A type accepts a text, is passed over, is not registered, or is no value that could be. -/
theorem type_cases (htable : table.IsTotal) (s : String) (tag : Value) :
    (∃ v, Accepts table s tag v) ∨ Passes table s tag ∨ IsUnregistered table tag ∨
      ∃ m, table.find tag = .error m := by
  cases hfind : table.find tag with
  | error m => exact .inr (.inr (.inr ⟨m, rfl⟩))
  | ok found =>
    cases found with
    | none => exact .inr (.inr (.inl hfind))
    | some strategy =>
      obtain ⟨name, hmem⟩ := exists_mem_of_find hfind
      obtain ⟨v, hv⟩ := htable (name, strategy) hmem s
      by_cases hunset : v = .unset
      · exact .inr (.inl ⟨strategy, hfind, hunset ▸ hv⟩)
      · exact .inl ⟨v, strategy, hfind, hv, hunset⟩

theorem firstAccepted_of_passes {tag : Value} (h : Passes table s tag) (rest : List Value) :
    firstAccepted table a (.text s) (tag :: rest) = firstAccepted table a (.text s) rest := by
  obtain ⟨strategy, hfind, hv⟩ := h
  rw [firstAccepted, hfind]
  simp only [Value.checked, Except.mapError, bind, Except.bind, hv]
  rfl

theorem firstAccepted_of_accepts {tag v : Value} (h : Accepts table s tag v) (rest : List Value) :
    firstAccepted table a (.text s) (tag :: rest) = .ok v := by
  obtain ⟨strategy, hfind, hv, hne⟩ := h
  have hunset : v.isUnset = false := by cases v <;> first | rfl | exact absurd rfl hne
  rw [firstAccepted, hfind]
  simp only [Value.checked, Except.mapError, bind, Except.bind, hv, hunset]
  rfl

theorem firstAccepted_of_isUnregistered {tag : Value} (h : IsUnregistered table tag)
    (rest : List Value) : firstAccepted table a (.text s) (tag :: rest) =
      .error (.fault (unknownTypeFault a tag)) := by
  rw [firstAccepted, show table.find tag = .ok none from h]
  rfl

theorem firstAccepted_of_find_eq_error {tag : Value} {m : Misuse} (h : table.find tag = .error m)
    (rest : List Value) :
    firstAccepted table a (.text s) (tag :: rest) = .error (.misuse m) := by
  rw [firstAccepted, h]
  rfl

/-! ### Several types -/

theorem firstAccepted_append {front : List Value} (hfront : ∀ t ∈ front, Passes table s t)
    (rest : List Value) :
    firstAccepted table a (.text s) (front ++ rest) = firstAccepted table a (.text s) rest := by
  induction front with
  | nil => rfl
  | cons tag front ih =>
    obtain ⟨htag, hfront⟩ := List.forall_mem_cons.mp hfront
    rw [List.cons_append, firstAccepted_of_passes htag, ih hfront]

/-- The types decide in one way only. -/
theorem Decides.eq {tags : List Value} {r : Except Error Value} (h : Decides table a s tags r) :
    firstAccepted table a (.text s) tags = r := by
  cases h with
  | accepted hfront htag =>
    rw [firstAccepted_append hfront, firstAccepted_of_accepts htag]
  | unregistered hfront htag =>
    rw [firstAccepted_append hfront, firstAccepted_of_isUnregistered htag]
  | noKey hfront htag =>
    rw [firstAccepted_append hfront, firstAccepted_of_find_eq_error htag]
  | exhausted htags =>
    rw [← List.append_nil tags, firstAccepted_append htags]
    rfl

theorem Decides.cons {tag : Value} {tags : List Value} {r : Except Error Value}
    (htag : Passes table s tag) (h : Decides table a s tags r) :
    Decides table a s (tag :: tags) r := by
  cases h with
  | accepted hfront hdecides => exact .accepted (List.forall_mem_cons.mpr ⟨htag, hfront⟩) hdecides
  | unregistered hfront hdecides =>
    exact .unregistered (List.forall_mem_cons.mpr ⟨htag, hfront⟩) hdecides
  | noKey hfront hdecides => exact .noKey (List.forall_mem_cons.mpr ⟨htag, hfront⟩) hdecides
  | exhausted htags => exact .exhausted (List.forall_mem_cons.mpr ⟨htag, htags⟩)

/-- The types decide in some way. -/
theorem decides_firstAccepted (htable : table.IsTotal) (a : Argument) (s : String)
    (tags : List Value) : Decides table a s tags (firstAccepted table a (.text s) tags) := by
  induction tags with
  | nil => exact .exhausted nofun
  | cons tag rest ih =>
    -- A type that decides has nothing in front of it that would have to be passed over.
    have hnone : ∀ t ∈ ([] : List Value), Passes table s t := nofun
    rcases type_cases htable s tag with ⟨v, hv⟩ | hpasses | hunregistered | ⟨m, hm⟩
    · rw [firstAccepted_of_accepts hv]
      exact Decides.accepted hnone hv
    · rw [firstAccepted_of_passes hpasses]
      exact .cons hpasses ih
    · rw [firstAccepted_of_isUnregistered hunregistered]
      exact Decides.unregistered hnone hunregistered
    · rw [firstAccepted_of_find_eq_error hm]
      exact Decides.noKey hnone hm

/-- Types in front of others decide unless they all refuse the text. -/
theorem firstAccepted_append_types (htable : table.IsTotal) (a b : Argument) (s : String)
    (ts us : List Value) :
    firstAccepted table b (.text s) (ts ++ us) =
      match firstAccepted table a (.text s) ts with
      | .ok v => .ok v
      | .error e =>
        if e.isInvalidArgument then firstAccepted table b (.text s) us else .error (e.about b) := by
  have h := decides_firstAccepted htable a s ts
  generalize firstAccepted table a (.text s) ts = r at h ⊢
  cases h with
  | accepted hfront htag =>
    rw [List.append_assoc, List.cons_append, firstAccepted_append hfront,
      firstAccepted_of_accepts htag]
  | unregistered hfront htag =>
    rw [List.append_assoc, List.cons_append, firstAccepted_append hfront,
      firstAccepted_of_isUnregistered htag]
    rfl
  | noKey hfront htag =>
    rw [List.append_assoc, List.cons_append, firstAccepted_append hfront,
      firstAccepted_of_find_eq_error htag]
    rfl
  | exhausted htags =>
    rw [firstAccepted_append htags]
    rfl

/-- Only the name of an argument and the argument itself are in its faults. -/
theorem Decides.about {types : List Value} {r : Except Error Value} {b : Argument}
    (hname : b.name = a.name) (h : Decides table a s types r) :
    Decides table b s types (r.mapError (Error.about b)) := by
  cases h with
  | accepted hfront htag => exact .accepted hfront htag
  | @unregistered front back tag hfront htag =>
    have hfault : (unknownTypeFault a tag).replace [("argument", .argument b)] =
        unknownTypeFault b tag := rfl
    rw [Except.mapError, Error.about, hfault]
    exact .unregistered hfront htag
  | noKey hfront htag => exact .noKey hfront htag
  | exhausted htags =>
    have hfault : (invalidFault a (.text s)).replace [("argument", .argument b)] =
        invalidFault b (.text s) := by
      rw [invalidFault, invalidFault, argumentLabel, argumentLabel, hname]
      rfl
    rw [Except.mapError, Error.about, hfault]
    exact .exhausted htags

/-- A type is not registered, and no type in front of it accepts the text or is no value that could
be registered: then some type is found not to be registered. -/
theorem exists_unregistered (htable : table.IsTotal) {front back : List Value} {tag : Value}
    (hfront : ∀ t ∈ front, t.hashable = .ok () ∧ ∀ v, ¬ Accepts table s t v)
    (htag : IsUnregistered table tag) :
    ∃ t, firstAccepted table a (.text s) (front ++ tag :: back) =
      .error (.fault (unknownTypeFault a t)) := by
  induction front with
  | nil => exact ⟨tag, firstAccepted_of_isUnregistered htag back⟩
  | cons t rest ih =>
    obtain ⟨⟨hkey, hrefuses⟩, hrest⟩ := List.forall_mem_cons.mp hfront
    rcases type_cases htable s t with ⟨v, hv⟩ | hpasses | hunregistered | ⟨m, hm⟩
    · exact absurd hv (hrefuses v)
    · rw [List.cons_append, firstAccepted_of_passes hpasses]
      exact ih hrest
    · exact ⟨t, firstAccepted_of_isUnregistered hunregistered _⟩
    · obtain ⟨found, hfound⟩ := (hashable_eq_ok_iff table t).mp hkey
      rw [hfound] at hm
      cases hm

/-! ### Coercion -/

theorem coerce_withTypes {types : List Value} (htypes : types ≠ []) (required : Bool) :
    coerce table (.text s) (a.withTypes types) required =
      firstAccepted table (a.withTypes types) (.text s) types := by
  have hnonempty : (a.withTypes types).types.isEmpty = false := by
    simpa [ArgumentOf.withTypes] using htypes
  rw [coerce, hnonempty]
  rfl

/-- A type that is not registered is reported exactly if one stands in front of all types that
accept the text; what could not be registered at all must not stand in front of it either. -/
theorem coerce_unregistered_iff (htable : table.IsTotal) {types : List Value} (htypes : types ≠ [])
    (required : Bool) :
    (∃ f, coerce table (.text s) (a.withTypes types) required = .error (.fault f) ∧
        f.kind = .unknownArgumentType) ↔
      ∃ front tag back, types = front ++ tag :: back ∧ IsUnregistered table tag ∧
        ∀ t ∈ front, t.hashable = .ok () ∧ ∀ v, ¬ Accepts table s t v := by
  rw [coerce_withTypes htypes]
  constructor
  · rintro ⟨f, hf, hkind⟩
    have hdecides := decides_firstAccepted htable (a.withTypes types) s types
    rw [hf] at hdecides
    cases hdecides with
    | @unregistered front back tag hfront htag =>
      refine ⟨front, tag, back, rfl, htag, fun t ht =>
        ⟨?_, fun v hv => hv.not_passes (hfront t ht)⟩⟩
      obtain ⟨strategy, hfind, -⟩ := hfront t ht
      exact (hashable_eq_ok_iff table t).mpr ⟨_, hfind⟩
    | exhausted => cases hkind
  · rintro ⟨front, tag, back, rfl, htag, hfront⟩
    obtain ⟨t, ht⟩ := exists_unregistered htable hfront htag
    exact ⟨_, ht, rfl⟩

/-- A value is given exactly if some type accepts the text with it and all types in front of that
one are passed over. -/
theorem coerce_accepted_iff (htable : table.IsTotal) {types : List Value} (htypes : types ≠ [])
    (required : Bool) (v : Value) :
    coerce table (.text s) (a.withTypes types) required = .ok v ↔
      ∃ front tag back, types = front ++ tag :: back ∧ (∀ t ∈ front, Passes table s t) ∧
        Accepts table s tag v := by
  rw [coerce_withTypes htypes]
  constructor
  · intro h
    have hdecides := decides_firstAccepted htable (a.withTypes types) s types
    rw [h] at hdecides
    cases hdecides with
    | accepted hfront htag => exact ⟨_, _, _, rfl, hfront, htag⟩
  · rintro ⟨front, tag, back, rfl, hfront, htag⟩
    exact (Decides.accepted hfront htag).eq

end Alternatives

/-- How coercion by types `ts` and by types `us` makes up coercion by both lists in a row. -/
structure Composes (table : Converters) (a : Argument) (s : String) (required : Bool)
    (ts us : List Value) : Prop where
  accepted : ∀ v, coerce table (.text s) (a.withTypes ts) required = .ok v →
    coerce table (.text s) (a.withTypes (ts ++ us)) required = .ok v
  rejected : ∀ f, coerce table (.text s) (a.withTypes ts) required = .error (.fault f) →
    f.kind = .invalidArgumentType →
      coerce table (.text s) (a.withTypes (ts ++ us)) required =
        (coerce table (.text s) (a.withTypes us) required).mapError
          (Error.about (a.withTypes (ts ++ us)))
  unregistered : ∀ f, coerce table (.text s) (a.withTypes ts) required = .error (.fault f) →
    f.kind = .unknownArgumentType → ∃ tag, f = unknownTypeFault (a.withTypes ts) tag ∧
      coerce table (.text s) (a.withTypes (ts ++ us)) required =
        .error (.fault (unknownTypeFault (a.withTypes (ts ++ us)) tag))
  noKey : ∀ m, coerce table (.text s) (a.withTypes ts) required = .error (.misuse m) →
    coerce table (.text s) (a.withTypes (ts ++ us)) required = .error (.misuse m)

/-- Types behind others only come into play where those all refuse the text.  What is accepted, and
when a type is found not to be registered, follows from the order of the types. -/
theorem coerce_composes {table : Converters} (htable : table.IsTotal) (a : Argument) (s : String)
    (required : Bool) {ts us : List Value} (hts : ts ≠ []) (hus : us ≠ []) :
    Composes table a s required ts us ∧
      ∀ types, types ≠ [] →
        ((∃ f, coerce table (.text s) (a.withTypes types) required = .error (.fault f) ∧
            f.kind = .unknownArgumentType) ↔
          ∃ front tag back, types = front ++ tag :: back ∧ IsUnregistered table tag ∧
            ∀ t ∈ front, t.hashable = .ok () ∧ ∀ v, ¬ Accepts table s t v) ∧
        ∀ v, coerce table (.text s) (a.withTypes types) required = .ok v ↔
          ∃ front tag back, types = front ++ tag :: back ∧ (∀ t ∈ front, Passes table s t) ∧
            Accepts table s tag v := by
  refine ⟨?_, fun types htypes => ⟨coerce_unregistered_iff htable htypes required,
    coerce_accepted_iff htable htypes required⟩⟩
  have hall : ts ++ us ≠ [] := by simp [hts]
  have hdecides := decides_firstAccepted htable (a.withTypes ts) s ts
  have happend := firstAccepted_append_types htable (a.withTypes ts) (a.withTypes (ts ++ us)) s
    ts us
  rw [← coerce_withTypes hts required] at hdecides happend
  rw [← coerce_withTypes hall required] at happend
  constructor
  case accepted =>
    intro v hv
    rw [happend, hv]
  case rejected =>
    intro f hf hkind
    have hname : (a.withTypes (ts ++ us)).name = (a.withTypes us).name := rfl
    have hothers := (decides_firstAccepted htable (a.withTypes us) s us).about hname
    rw [happend, hf, coerce_withTypes hus, ← hothers.eq]
    exact if_pos (decide_eq_true hkind)
  case unregistered =>
    intro f hf hkind
    rw [hf] at hdecides
    cases hdecides with
    | @unregistered front back tag hfront htag =>
      refine ⟨tag, rfl, ?_⟩
      rw [happend, hf]
      rfl
    | exhausted => cases hkind
  case noKey =>
    intro m hm
    rw [happend, hm]
    rfl

/-- A host adds a type that takes every text for the null value.  `false` is no number but a truth
value, whatever comes after that; `later` is neither, so that a type comes up that is not
registered, unless the host's type comes first. -/
theorem coerce_composes_flag :
    let table : Converters := Converters.standard ++ [("nothing", Strategy.always .null)]
    let flag : Argument := ArgumentOf.make 0 (.text "flag") [] none none
    let ts : List Value := [.text "number"]
    let us : List Value := [.text "boolean", .text "ghost", .text "nothing"]
    table.IsTotal ∧ ts ≠ [] ∧ us ≠ [] ∧ Composes table flag "false" true ts us ∧
      Composes table flag "later" true ts us ∧
      coerce table (.text "false") (flag.withTypes (ts ++ us)) true = .ok (.bool false) ∧
      coerce table (.text "later") (flag.withTypes (ts ++ us)) true =
        .error (.fault (unknownTypeFault (flag.withTypes (ts ++ us)) (.text "ghost"))) ∧
      coerce table (.text "later") (flag.withTypes [.text "nothing", .text "ghost"]) true =
        .ok .null := by
  intro table flag ts us
  have htable : table.IsTotal := by
    intro e he s
    rcases List.mem_append.mp he with he | he
    · exact Converters.isTotal_standard e he s
    · obtain rfl := List.mem_singleton.mp he
      exact ⟨.null, rfl⟩
  have hts : ts ≠ [] := List.cons_ne_nil _ _
  have hus : us ≠ [] := List.cons_ne_nil _ _
  have hfalse := (coerce_composes htable flag "false" true hts hus).1
  have hlater := (coerce_composes htable flag "later" true hts hus).1
  refine ⟨htable, hts, hus, hfalse, hlater, ?_, ?_, ?_⟩
  · rw [hfalse.rejected (invalidFault (flag.withTypes ts) (.text "false")) rfl rfl]
    rfl
  · rw [hlater.rejected (invalidFault (flag.withTypes ts) (.text "later")) rfl rfl]
    rfl
  · exact (((coerce_composes htable flag "later" true hts hus).2 _ (List.cons_ne_nil _ _)).2 _).mpr
      ⟨[], .text "nothing", [.text "ghost"], rfl, nofun, _, rfl, rfl, nofun⟩

end ChatCommands
