import ChatCommands.Proofs.Dispatch.Shortcut
import ChatCommands.Proofs.Registry.History

/-!
# Shadowed roots

Without shortcuts a root is selected by its name, so that of several roots with one name only the
first is ever run.  A registry does not refuse the others, but it warns of them.  Its log, with the
events of all operations on it and of no other, can be cut into one *entry* for each root, in the
order of the roots; and the entries that begin with a warning are those of the roots that can never
be run, however the roots came into the registry and whatever failed in between.

Roots are told apart by their position: a command that is registered twice is two roots.

## Main definitions

* `entryOf`, `entries` : what is logged for a root, and a log cut into what is logged for each.
* `Program.logOf` : the events of the operations on one registry.
* `Registry.selectedAt?` : the position of the root that tokens select.

## Main results

* `getElem?_entries_announceAll` : the entries of roots that are announced.
* `Program.exists_appends_perform`, `Program.exists_appends_after` : the log of an operation and of
  a history announces the roots that it appends.
* `Registry.exists_selectedAt?_iff` : a root is selected by some tokens exactly if its name is new.
* `registry_warns_of_shadowed` : a registry warns exactly of the roots that can never be run.
-/

namespace ChatCommands

/-! ### The entries of a log -/

/-- The record of a root whose name is taken. -/
def shadowRecord (c : Command) : Event :=
  .log .warning .registry
    ("command " ++ c.name.literal ++ " is already registered and shadows the new one")

/-- The record of a root that is registered. -/
def entryRecord (c : Command) : Event :=
  .log .debug .registry ("registered " ++ c.name.literal)

/-- What is logged for a root: that its name is taken, if it is, and that it is registered. -/
def entryOf (taken : Bool) (c : Command) : List Event :=
  if taken then [shadowRecord c, entryRecord c] else [entryRecord c]

/-- Whether an event records that a root is registered, which ends the entry of the root. -/
def Event.endsEntry : Event → Bool
  | .log .debug .registry _ => true
  | _ => false

/-- The entries of a log, of which the first has begun with some events already. -/
def entriesFrom (begun : List Event) : List Event → List (List Event)
  | [] => []
  | e :: rest =>
    if e.endsEntry then (begun ++ [e]) :: entriesFrom [] rest else entriesFrom (begun ++ [e]) rest

/-- The entries of a log, each up to the record of a root that is registered. -/
def entries (log : List Event) : List (List Event) :=
  entriesFrom [] log

theorem entries_entryOf_append (taken : Bool) (c : Command) (log : List Event) :
    entries (entryOf taken c ++ log) = entryOf taken c :: entries log := by
  cases taken <;> rfl

theorem events_announce (names : List Value) (c : Command) :
    (Registry.announce names c).events = entryOf (c.name.isIn names) c := by
  unfold Registry.announce entryOf
  split <;> rfl

theorem length_entries_announceAll (names : List Value) (cs : List Command) :
    (entries (Registry.announceAll names cs).events).length = cs.length := by
  induction cs generalizing names with
  | nil => rfl
  | cons c rest ih =>
    rw [Registry.events_announceAll_cons, events_announce, entries_entryOf_append,
      List.length_cons, ih, List.length_cons]

/-- Roots that are announced have an entry each, with a warning if the name of the root is among
the names before it. -/
theorem getElem?_entries_announceAll (names : List Value) (cs : List Command) (k : Nat) :
    (entries (Registry.announceAll names cs).events)[k]? =
      cs[k]?.map fun c => entryOf (c.name.isIn (names ++ (cs.take k).map fun d => d.name)) c := by
  induction cs generalizing names k with
  | nil => rfl
  | cons c rest ih =>
    rw [Registry.events_announceAll_cons, events_announce, entries_entryOf_append]
    cases k with
    | zero =>
      rw [List.take_zero, List.map_nil, List.append_nil]
      rfl
    | succ k =>
      rw [List.getElem?_cons_succ, ih, List.getElem?_cons_succ, List.take_succ_cons,
        List.map_cons, List.append_assoc, List.singleton_append]

/-! ### The log of a registry -/

/-- The registry that an operation works on; there is none for an operation that makes one. -/
def Operation.target? : Operation → Option Nat
  | .register target _ => some target
  | .includePackage _ target _ _ => some target
  | .construct _ | .convert _ _ => none

namespace Program

/-- The events of the operations on one registry, in order, among all operations of a history. -/
def logOf (p : Program) (i : Nat) : List Operation → List Event
  | [] => []
  | o :: rest =>
    (if o.target? = some i then (p.perform o).2.events else []) ++ (p.perform o).1.logOf i rest

variable {p : Program} {i : Nat} {r : Registry}

theorem isWithin_perform (p : Program) (o : Operation) : p.table.IsWithin (p.perform o).1.table := by
  cases p.changesTo_perform o with
  | table hwithin => exact hwithin
  | grown htable => exact htable ▸ .refl p.table
  | made htable => exact htable ▸ .refl p.table

theorem isWithin_after (p : Program) (operations : List Operation) :
    p.table.IsWithin (p.after operations).table := by
  induction operations generalizing p with
  | nil => exact .refl p.table
  | cons o rest ih => exact fun tag h => ih _ tag (p.isWithin_perform o tag h)

/-- Work that appends roots to the registry of a session does so with the registry that it is
about, and leaves the others as they are. -/
theorem exists_appends_onRegistry {α : Type} {work : Session → Session × Run α}
    (hwork : ∀ s, ∃ added, Registry.Appends p.table s.registry (work s).1.registry added
      (work s).2.events)
    (hr : p.registries[i]? = some r) (target : Nat) :
    ∃ r' added, (p.onRegistry target work).1.registries[i]? = some r' ∧
      Registry.Appends p.table r r' added
        (if some target = some i then (p.onRegistry target work).2.events else []) := by
  have hlt : i < p.registries.length := (List.getElem?_eq_some_iff.mp hr).1
  by_cases htarget : target = i
  · subst htarget
    obtain ⟨added, hadded⟩ := hwork ⟨r, p.loader⟩
    refine ⟨(work ⟨r, p.loader⟩).1.registry, added, ?_, ?_⟩
    · simp only [onRegistry, hr]
      exact List.getElem?_set_self hlt
    · have hevents : (p.onRegistry target work).2.events = (work ⟨r, p.loader⟩).2.events := by
        simp only [onRegistry, hr]
        exact congrArg Run.events (Run.bind_pure_eq (work ⟨r, p.loader⟩).2 fun _ => ())
      rwa [if_pos rfl, hevents]
  · refine ⟨r, [], ?_, ?_⟩
    · unfold onRegistry
      split
      · exact hr
      · exact (List.getElem?_set_ne htarget).trans hr
    · rw [if_neg fun h => htarget (Option.some.inj h)]
      exact .refl p.table r

/-- An operation on a registry announces the roots that it appends; any other operation leaves the
registry as it is. -/
theorem exists_appends_perform (hr : p.registries[i]? = some r) (o : Operation) :
    ∃ r' added, (p.perform o).1.registries[i]? = some r' ∧ Registry.Appends p.table r r' added
      (if o.target? = some i then (p.perform o).2.events else []) := by
  have hlt : i < p.registries.length := (List.getElem?_eq_some_iff.mp hr).1
  cases o with
  | construct roots =>
    refine ⟨r, [], ?_, .refl p.table r⟩
    simp only [perform]
    split
    · exact (List.getElem?_append_left hlt).trans hr
    · exact hr
  | register target roots =>
    exact exists_appends_onRegistry (fun s => s.exists_appends_register p.table roots) hr target
  | includePackage tree target package recursive =>
    exact exists_appends_onRegistry
      (fun s => s.exists_appends_includePackage p.table tree package recursive) hr target
  | convert tag strategy => exact ⟨r, [], hr, .refl p.table r⟩

/-- The log of a registry announces the roots that a history appends to it. -/
theorem exists_appends_after (hr : p.registries[i]? = some r) (operations : List Operation) :
    ∃ r' added, (p.after operations).registries[i]? = some r' ∧
      Registry.Appends (p.after operations).table r r' added (p.logOf i operations) := by
  induction operations generalizing p r with
  | nil => exact ⟨r, [], hr, .refl p.table r⟩
  | cons o rest ih =>
    obtain ⟨r', added, hr', hadded⟩ := exists_appends_perform hr o
    obtain ⟨r'', more, hr'', hmore⟩ := ih hr'
    -- What was well formed when it was appended is so by the table of the last moment.
    have hwithin : p.table.IsWithin (p.after (o :: rest)).table := p.isWithin_after _
    exact ⟨r'', added ++ more, hr'', (hadded.mono hwithin).trans hmore⟩

end Program

/-! ### Selection by position -/

theorem Value.equals_text_iff {v : Value} {s : String} :
    v.equals (.text s) = true ↔ v = .text s := by
  cases v <;> simp [Value.equals, Value.same, Value.numericEquals, Value.integer?]

namespace Registry

/-- The position of the root that the first of some tokens selects. -/
def selectedAt? (r : Registry) (shortcuts : Bool) (ts : List Value) : Option Nat :=
  ts.head?.bind fun token => r.commands.findIdx? fun c => c.accepts token shortcuts

theorem selectAmong_siblings (r : Registry) (shortcuts : Bool) (token : Value) :
    selectAmong shortcuts token r.siblings =
      .ok (r.commands.find? fun c => c.accepts token shortcuts) := by
  have hsiblings : r.siblings.elements? = some (r.commands.map Value.command) := rfl
  rw [selectAmong_of_elements hsiblings, select_map_command]

/-- Dispatch selects the root at this position. -/
theorem selectAmong_eq_selectedAt? (r : Registry) (shortcuts : Bool) (token : Value)
    (rest : List Value) :
    selectAmong shortcuts token r.siblings =
      .ok ((r.selectedAt? shortcuts (token :: rest)).bind fun k => r.commands[k]?) := by
  rw [selectAmong_siblings, List.find?_eq_bind_findIdx?_getElem?]
  rfl

variable {front back : List Command} {c : Command} {shortcuts : Bool}

/-- A root is selected by a token that it accepts and that no root in front of it accepts. -/
theorem selectedAt?_eq_length_iff {token : Value} {rest : List Value} :
    selectedAt? ⟨front ++ c :: back⟩ shortcuts (token :: rest) = some front.length ↔
      (∀ d ∈ front, d.accepts token shortcuts = false) ∧ c.accepts token shortcuts = true := by
  rw [selectedAt?, List.head?_cons, Option.bind_some, List.findIdx?_eq_some_iff_getElem]
  constructor
  · rintro ⟨_, hc, hfront⟩
    refine ⟨fun d hd => ?_, by simpa using hc⟩
    obtain ⟨j, hj, rfl⟩ := List.getElem_of_mem hd
    have hd := hfront j hj
    rw [List.getElem_append_left hj] at hd
    exact eq_false_of_ne_true hd
  · rintro ⟨hfront, hc⟩
    refine ⟨by simp, by simpa using hc, fun j hj => ?_⟩
    rw [List.getElem_append_left hj, hfront _ (List.getElem_mem hj)]
    exact Bool.false_ne_true

theorem forall_accepts_eq_false_iff {s : String} :
    (∀ d ∈ front, d.accepts (.text s) false = false) ↔
      (Value.text s).isIn (front.map fun d => d.name) = false := by
  rw [Value.isIn, List.any_eq_false, List.forall_mem_map]
  simp only [accepts_false, Bool.not_eq_true, Value.equals]

/-- A root whose name is new is selected by its name. -/
theorem selectedAt?_name (hc : c.name.isText = true)
    (hnew : c.name.isIn (front.map fun d => d.name) = false) (rest : List Value) :
    selectedAt? ⟨front ++ c :: back⟩ false (c.name :: rest) = some front.length := by
  obtain ⟨s, hs⟩ := Value.eq_text_of_isText hc
  rw [hs] at hnew ⊢
  refine selectedAt?_eq_length_iff.mpr ⟨forall_accepts_eq_false_iff.mpr hnew, ?_⟩
  rw [accepts_false, hs]
  exact Value.equals_text_iff.mpr rfl

/-- A root is selected by some tokens exactly if its name is new. -/
theorem exists_selectedAt?_iff (hc : c.name.isText = true) :
    (∃ ts, selectedAt? ⟨front ++ c :: back⟩ false ts = some front.length) ↔
      c.name.isIn (front.map fun d => d.name) = false := by
  refine ⟨?_, fun hnew => ⟨[c.name], selectedAt?_name hc hnew []⟩⟩
  rintro ⟨ts, hts⟩
  cases ts with
  | nil => cases hts
  | cons token rest =>
    obtain ⟨hfront, haccepts⟩ := selectedAt?_eq_length_iff.mp hts
    obtain ⟨s, hs⟩ := Value.eq_text_of_isText hc
    -- Only the name itself equals a name.
    rw [accepts_false, hs] at haccepts
    rw [Value.equals_text_iff.mp haccepts] at hfront
    rw [hs]
    exact forall_accepts_eq_false_iff.mp hfront

/-! ### Dispatch by position -/

/-- Roots among which the same root is selected are dispatched against alike. -/
theorem dispatch_siblings_congr {r r' : Registry} {config : GuildConfig} {ts : List Value}
    (h : ∀ token rest, ts = token :: rest →
      (r.commands.find? fun c => c.accepts token config.shortcuts) =
        r'.commands.find? fun c => c.accepts token config.shortcuts)
    (E : Engine) (m : Message) (l : Locale) :
    ChatCommands.dispatch E m config l (.list ts) r.siblings =
      ChatCommands.dispatch E m config l (.list ts) r'.siblings := by
  rw [ChatCommands.dispatch, ChatCommands.dispatch, tokensOf_list, Run.ofExcept_ok_bind,
    Run.ofExcept_ok_bind]
  cases ts with
  | nil => rfl
  | cons token rest =>
    rw [dispatchFrom, dispatchFrom, selectAmong_siblings, selectAmong_siblings, h token rest rfl]

/-- Tokens that select a root are dispatched as if there were no other. -/
theorem dispatch_of_selectedAt? {config : GuildConfig} {ts : List Value}
    (h : selectedAt? ⟨front ++ c :: back⟩ config.shortcuts ts = some front.length)
    (E : Engine) (m : Message) (l : Locale) :
    ChatCommands.dispatch E m config l (.list ts) (siblings ⟨front ++ c :: back⟩) =
      ChatCommands.dispatch E m config l (.list ts) (siblings ⟨[c]⟩) := by
  refine dispatch_siblings_congr ?_ E m l
  rintro token rest rfl
  obtain ⟨hfront, hc⟩ := selectedAt?_eq_length_iff.mp h
  have hnone : (front.find? fun c => c.accepts token config.shortcuts) = none :=
    List.find?_eq_none.mpr fun d hd => by rw [hfront d hd]; exact Bool.false_ne_true
  simp only [List.find?_append, hnone, Option.none_or, List.find?_cons, hc]

/-- Tokens that do not select a root are dispatched as if it were not there. -/
theorem dispatch_of_selectedAt?_ne {config : GuildConfig} {ts : List Value}
    (h : selectedAt? ⟨front ++ c :: back⟩ config.shortcuts ts ≠ some front.length)
    (E : Engine) (m : Message) (l : Locale) :
    ChatCommands.dispatch E m config l (.list ts) (siblings ⟨front ++ c :: back⟩) =
      ChatCommands.dispatch E m config l (.list ts) (siblings ⟨front ++ back⟩) := by
  refine dispatch_siblings_congr ?_ E m l
  rintro token rest rfl
  rw [List.find?_append, List.find?_append]
  cases hfront : front.find? fun c => c.accepts token config.shortcuts with
  | some d => rfl
  | none =>
    have hc : c.accepts token config.shortcuts = false := eq_false_of_ne_true fun hc =>
      h (selectedAt?_eq_length_iff.mpr
        ⟨fun d hd => eq_false_of_ne_true (List.find?_eq_none.mp hfront d hd), hc⟩)
    simp only [List.find?_cons, hc]

end Registry

/-- A registry warns exactly of the roots that can never be run.  After any history of a registry
that is empty at first, its log has an entry for each of its roots, in order.  Without shortcuts, a
root whose entry is silent is selected by its name, and a root whose entry begins with a warning by
no tokens at all.  Tokens that select a root are dispatched as if it were the only one, and a root
that the log warns of may as well be taken out. -/
theorem registry_warns_of_shadowed (p : Program) {i : Nat}
    (hempty : p.registries[i]? = some Registry.empty) (operations : List Operation) :
    ∃ r, (p.after operations).registries[i]? = some r ∧
      (entries (p.logOf i operations)).length = r.commands.length ∧
      (∀ token rest, selectAmong false token r.siblings =
        .ok ((r.selectedAt? false (token :: rest)).bind fun k => r.commands[k]?)) ∧
      ∀ k c, r.commands[k]? = some c → ∃ taken,
        (entries (p.logOf i operations))[k]? = some (entryOf taken c) ∧
        ((∃ ts, r.selectedAt? false ts = some k) ↔ taken = false) ∧
        (taken = false → ∀ rest, r.selectedAt? false (c.name :: rest) = some k) ∧
        ∀ (E : Engine) (m : Message) (config : GuildConfig) (l : Locale) (ts : List Value),
          (r.selectedAt? false ts = some k →
            dispatch E m { config with shortcuts := false } l (.list ts) r.siblings =
              dispatch E m { config with shortcuts := false } l (.list ts)
                (Registry.siblings ⟨[c]⟩)) ∧
          (taken = true →
            dispatch E m { config with shortcuts := false } l (.list ts) r.siblings =
              dispatch E m { config with shortcuts := false } l (.list ts)
                (Registry.siblings ⟨r.commands.eraseIdx k⟩)) := by
  obtain ⟨r, added, hr, hadded⟩ := Program.exists_appends_after hempty operations
  have hcommands : r.commands = added := hadded.commands
  refine ⟨r, hr, ?_, fun token rest => r.selectAmong_eq_selectedAt? false token rest,
    fun k c hk => ?_⟩
  · rw [hadded.announced, length_entries_announceAll, hcommands]
  · have hc : c.name.isText = true :=
      hadded.isText_name (hcommands ▸ List.mem_of_getElem? hk)
    obtain ⟨front, back, hsplit, rfl⟩ : ∃ front back, r.commands = front ++ c :: back ∧
        front.length = k := by
      obtain ⟨hlt, rfl⟩ := List.getElem?_eq_some_iff.mp hk
      refine ⟨r.commands.take k, r.commands.drop (k + 1), ?_, List.length_take_of_le hlt.le⟩
      rw [← List.drop_eq_getElem_cons, List.take_append_drop]
    obtain ⟨commands⟩ := r
    subst hsplit
    have herase : (front ++ c :: back).eraseIdx front.length = front ++ back := by
      rw [List.eraseIdx_append_of_length_le le_rfl, Nat.sub_self, List.eraseIdx_cons_zero]
    refine ⟨c.name.isIn (front.map fun d => d.name), ?_, Registry.exists_selectedAt?_iff hc,
      Registry.selectedAt?_name hc, fun E m config l ts => ⟨fun hts => ?_, fun htaken => ?_⟩⟩
    · rw [hadded.announced, ← hcommands, getElem?_entries_announceAll, hk, List.take_left']
      · rfl
      · rfl
    · exact Registry.dispatch_of_selectedAt? hts E m l
    · rw [herase]
      refine Registry.dispatch_of_selectedAt?_ne (fun hts => ?_) E m l
      rw [(Registry.exists_selectedAt?_iff hc).mp ⟨ts, hts⟩] at htaken
      cases htaken

/-- A program with a registry that is empty. -/
def unfilled : Program :=
  ⟨Converters.standard, Loader.empty, [Registry.empty]⟩

/-- A group and a command are registered, then the command again: once next to an integer, which
fails, and once alone. -/
def repeating : List Operation :=
  [.register 0 [.command moderation, .command kick], .register 0 [.command kick, .int 5],
    .register 0 [.command kick]]

theorem registries_repeating :
    (unfilled.after repeating).registries[0]? = some ⟨[moderation, kick, kick]⟩ := by
  have hmoderation : isValid Converters.standard (.command moderation) = true := by decide
  have hkick : isValid Converters.standard (.command kick) = true := by decide
  have hfirst : Registry.checked Converters.standard [.command moderation, .command kick] =
      .ok [moderation, kick] := by
    simp only [Registry.checked, hmoderation, hkick]
    rfl
  have hsecond : Registry.checked Converters.standard [.command kick, .int 5] =
      .error (.fault (Registry.malformedFault (.int 5))) := by
    simp only [Registry.checked, hkick]
    rfl
  have hthird : Registry.checked Converters.standard [.command kick] = .ok [kick] := by
    simp only [Registry.checked, hkick]
    rfl
  simp only [unfilled, repeating, Program.after_cons, Program.perform, Program.onRegistry,
    List.getElem?_cons_zero, Session.register_of_checked _ hfirst, List.set_cons_zero,
    Session.register_of_error _ hsecond, Session.register_of_checked _ hthird]
  rfl

/-- The first of the two commands `kick` can be run, so that it has been registered in silence; the
second cannot, and there was a warning. -/
theorem registry_warns_of_shadowed_kick :
    unfilled.registries[0]? = some Registry.empty ∧
    (entries (unfilled.logOf 0 repeating))[1]? = some (entryOf false kick) ∧
    (entries (unfilled.logOf 0 repeating))[2]? = some (entryOf true kick) := by
  obtain ⟨r, hr, -, -, hroots⟩ := registry_warns_of_shadowed unfilled (i := 0) rfl repeating
  rw [registries_repeating] at hr
  cases hr
  have hkick : Registry.selectedAt? ⟨[moderation, kick, kick]⟩ false [kick.name] = some 1 := by
    cbv
  obtain ⟨first, hfirst, hselected, -⟩ := hroots 1 kick rfl
  obtain ⟨second, hsecond, -, hname, -⟩ := hroots 2 kick rfl
  rw [hselected.mp ⟨_, hkick⟩] at hfirst
  have htaken : second = true := eq_true_of_ne_false fun hnew => by
    have hother := hname hnew []
    rw [hkick] at hother
    cases hother
  rw [htaken] at hsecond
  exact ⟨rfl, hfirst, hsecond⟩

end ChatCommands
