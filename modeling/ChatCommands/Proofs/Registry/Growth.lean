import ChatCommands.Proofs.Dispatch.Tree
import ChatCommands.Proofs.Registry.Validity
import ChatCommands.Proofs.Run.Events
import ChatCommands.Registry.Include

/-!
# Growth of a registry

Registering roots either appends all of them, in order and after all of them were found well
formed, or ends with a fault about the first malformed one before anything else has happened.
Whatever is included, a registry only ever *grows* by well-formed roots, also where the inclusion
fails midway, and the roots that it has grown by are announced, each in its turn.

## Main definitions

* `Registry.GrowsTo` : a registry that is another one with well-formed roots appended.
* `Registry.Appends` : the same, with the roots and with the events that announce them.

## Main results

* `Registry.checked_cases` : what the check of some roots ends with.
* `Session.register_of_checked`, `Session.register_of_error` : what registering them does.
* `Session.exists_appends_includePackage` : an inclusion appends roots and announces them.
-/

namespace ChatCommands

namespace Registry

variable {table : Converters} {roots : List Value} {cs : List Command} {e : Error}

/-! ### Checking roots -/

/-- The check of some roots accepts them if they are all well formed, and otherwise ends with a
fault about the first malformed one. -/
theorem checked_cases (table : Converters) (roots : List Value) :
    (∃ cs, (∀ v ∈ roots, isValid table v = true) ∧ cs.map Value.command = roots ∧
        checked table roots = .ok cs) ∨
      ∃ front v back, roots = front ++ v :: back ∧ (∀ w ∈ front, isValid table w = true) ∧
        isValid table v = false ∧ checked table roots = .error (.fault (malformedFault v)) := by
  induction roots with
  | nil => exact .inl ⟨[], nofun, rfl, rfl⟩
  | cons v rest ih =>
    cases hv : isValid table v with
    | false =>
      refine .inr ⟨[], v, rest, rfl, nofun, hv, ?_⟩
      cases v <;> simp only [checked, hv]
    | true =>
      obtain ⟨c, rfl, -⟩ := exists_command_of_isValid hv
      rcases ih with ⟨cs, hvalid, hcs, hchecked⟩ | ⟨front, w, back, rfl, hfront, hw, hchecked⟩
      · refine .inl ⟨c :: cs, List.forall_mem_cons.mpr ⟨hv, hvalid⟩, ?_, ?_⟩
        · rw [List.map_cons, hcs]
        · simp only [checked, hv, hchecked]
          rfl
      · refine .inr ⟨.command c :: front, w, back, rfl,
          List.forall_mem_cons.mpr ⟨hv, hfront⟩, hw, ?_⟩
        simp only [checked, hv, hchecked]
        rfl

theorem exists_checked (h : ∀ v ∈ roots, isValid table v = true) :
    ∃ cs, cs.map Value.command = roots ∧ checked table roots = .ok cs := by
  rcases checked_cases table roots with ⟨cs, -, hcs, hchecked⟩ | ⟨_, v, _, rfl, -, hv, -⟩
  · exact ⟨cs, hcs, hchecked⟩
  · rw [h v (by simp)] at hv
    cases hv

theorem exists_checked_error (h : ∃ v ∈ roots, isValid table v = false) :
    ∃ v ∈ roots, isValid table v = false ∧
      checked table roots = .error (.fault (malformedFault v)) := by
  obtain ⟨w, hw, hinvalid⟩ := h
  rcases checked_cases table roots with ⟨_, hvalid, -, -⟩ | ⟨_, v, _, rfl, -, hv, hchecked⟩
  · rw [hvalid w hw] at hinvalid
    cases hinvalid
  · exact ⟨v, by simp, hv, hchecked⟩

/-! ### Registering roots -/

theorem outcome_announce (names : List Value) (c : Command) :
    (announce names c).outcome = .ok () := by
  unfold announce
  split <;> rfl

theorem outcome_announceAll (names : List Value) (cs : List Command) :
    (announceAll names cs).outcome = .ok () := by
  induction cs generalizing names with
  | nil => rfl
  | cons c rest ih =>
    rw [announceAll, Run.bind_of_ok (outcome_announce names c)]
    exact ih _

theorem events_announceAll_cons (names : List Value) (c : Command) (rest : List Command) :
    (announceAll names (c :: rest)).events =
      (announce names c).events ++ (announceAll (names ++ [c.name]) rest).events := by
  rw [announceAll, Run.bind_of_ok (outcome_announce names c)]

/-- Announcing some roots after others goes on from the names of these. -/
theorem events_announceAll_append (names : List Value) (cs ds : List Command) :
    (announceAll names (cs ++ ds)).events =
      (announceAll names cs).events ++
        (announceAll (names ++ cs.map fun c => c.name) ds).events := by
  induction cs generalizing names with
  | nil => rw [List.nil_append, List.map_nil, List.append_nil, announceAll, Run.events_pure,
      List.nil_append]
  | cons c rest ih =>
    rw [List.cons_append, events_announceAll_cons, events_announceAll_cons, ih, List.map_cons,
      List.append_assoc, List.append_assoc, List.singleton_append]

theorem register_of_checked (r : Registry) (h : checked table roots = .ok cs) :
    r.register table roots = ⟨(announceAll r.names cs).events, .ok ⟨r.commands ++ cs⟩⟩ := by
  rw [register, h, Run.ofExcept_ok_bind, Run.bind_of_ok (outcome_announceAll r.names cs),
    Run.events_pure, List.append_nil]
  rfl

theorem register_of_error (r : Registry) (h : checked table roots = .error e) :
    r.register table roots = ⟨[], .error e⟩ := by
  rw [register, h]
  rfl

/-! ### Growth -/

/-- A registry is another one with roots appended that are well formed. -/
def GrowsTo (table : Converters) (r r' : Registry) : Prop :=
  ∃ added, r'.commands = r.commands ++ added ∧ ∀ c ∈ added, isValid table (.command c) = true

theorem GrowsTo.refl (table : Converters) (r : Registry) : GrowsTo table r r :=
  ⟨[], (List.append_nil _).symm, nofun⟩

theorem GrowsTo.isPrefix {r r' : Registry} (h : GrowsTo table r r') :
    r.commands <+: r'.commands := by
  obtain ⟨added, hadded, -⟩ := h
  exact ⟨added, hadded.symm⟩

/-- A registry is another one with well-formed roots appended, and the events are those that
announce these roots. -/
structure Appends (table : Converters) (r r' : Registry) (added : List Command)
    (events : List Event) : Prop where
  commands : r'.commands = r.commands ++ added
  valid : ∀ c ∈ added, isValid table (.command c) = true
  announced : events = (announceAll r.names added).events

theorem Appends.refl (table : Converters) (r : Registry) : Appends table r r [] [] :=
  ⟨(List.append_nil _).symm, nofun, rfl⟩

theorem Appends.trans {r r' r'' : Registry} {added added' : List Command}
    {events events' : List Event} (h : Appends table r r' added events)
    (h' : Appends table r' r'' added' events') :
    Appends table r r'' (added ++ added') (events ++ events') where
  commands := by rw [h'.commands, h.commands, List.append_assoc]
  valid c hc := (List.mem_append.mp hc).elim (h.valid c) (h'.valid c)
  announced := by
    have hnames : r'.names = r.names ++ added.map fun c => c.name := by
      rw [names, names, h.commands, List.map_append]
    rw [h.announced, h'.announced, hnames, events_announceAll_append]

/-- Roots stay well formed when tags are added. -/
theorem Appends.mono {r r' : Registry} {added : List Command} {events : List Event}
    {other : Converters} (h : Appends table r r' added events) (hwithin : table.IsWithin other) :
    Appends other r r' added events :=
  ⟨h.commands, fun c hc => isValid_mono hwithin (h.valid c hc), h.announced⟩

theorem Appends.isText_name {r r' : Registry} {added : List Command} {events : List Event}
    (h : Appends table r r' added events) {c : Command} (hc : c ∈ added) :
    c.name.isText = true := by
  obtain ⟨d, hd, hwell⟩ := exists_command_of_isValid (h.valid c hc)
  cases hd
  exact hwell.name

theorem Appends.growsTo {r r' : Registry} {added : List Command} {events : List Event}
    (h : Appends table r r' added events) : GrowsTo table r r' :=
  ⟨added, h.commands, h.valid⟩

/-- Roots that were checked are well formed. -/
theorem appends_of_checked (r : Registry) (h : checked table roots = .ok cs) :
    Appends table r ⟨r.commands ++ cs⟩ cs (announceAll r.names cs).events := by
  refine ⟨rfl, fun c hc => ?_, rfl⟩
  rcases checked_cases table roots with ⟨cs', hvalid, hcs, hchecked⟩ | ⟨_, _, _, _, _, _, hchecked⟩
  · rw [h] at hchecked
    cases hchecked
    exact hvalid _ (hcs ▸ List.mem_map_of_mem hc)
  · rw [h] at hchecked
    cases hchecked

end Registry

/-! ### Sessions -/

namespace Session

variable {table : Converters} {roots : List Value} {cs : List Command} {e : Error}

theorem register_of_checked (s : Session) (h : Registry.checked table roots = .ok cs) :
    s.register table roots =
      (⟨⟨s.registry.commands ++ cs⟩, s.loader⟩,
        ⟨(Registry.announceAll s.registry.names cs).events, .ok ()⟩) := by
  simp only [register, Registry.register_of_checked s.registry h]

theorem register_of_error (s : Session) (h : Registry.checked table roots = .error e) :
    s.register table roots = (s, ⟨[], .error e⟩) := by
  simp only [register, Registry.register_of_error s.registry h]

variable (table)

theorem includeModules_of_ok {tree : FileTree} {s s' : Session} {name : String}
    {rest : List String} {events : List Event} {roots : List Command}
    (h : includeModule tree table s name = (s', ⟨events, .ok roots⟩)) :
    includeModules tree table s (name :: rest) =
      ((includeModules tree table s' rest).1,
        ⟨events ++ (includeModules tree table s' rest).2.events,
          (includeModules tree table s' rest).2.outcome.map (roots ++ ·)⟩) := by
  simp only [includeModules, h, Run.andThen]
  cases (includeModules tree table s' rest).2.outcome with
  | error e => rfl
  | ok more =>
    simp only [Run.done, List.append_nil]
    rfl

theorem includeModules_of_error {tree : FileTree} {s s' : Session} {name : String}
    {rest : List String} {events : List Event} {e : Error}
    (h : includeModule tree table s name = (s', ⟨events, .error e⟩)) :
    includeModules tree table s (name :: rest) = (s', ⟨events, .error e⟩) := by
  simp only [includeModules, h]

/-- Registering appends roots and announces them; when it fails there are none. -/
theorem exists_appends_register (s : Session) (roots : List Value) :
    ∃ added, Registry.Appends table s.registry (s.register table roots).1.registry added
      (s.register table roots).2.events := by
  cases h : Registry.checked table roots with
  | error e =>
    rw [register_of_error s h]
    exact ⟨[], .refl table s.registry⟩
  | ok cs =>
    rw [register_of_checked s h]
    exact ⟨cs, Registry.appends_of_checked s.registry h⟩

theorem exists_appends_includeModule (tree : FileTree) (s : Session) (name : String) :
    ∃ added, Registry.Appends table s.registry (includeModule tree table s name).1.registry added
      (includeModule tree table s name).2.events := by
  have hnone : Registry.Appends table s.registry s.registry [] [] := .refl table s.registry
  unfold includeModule
  split
  · exact ⟨[], hnone⟩
  · rename_i l _
    dsimp only
    split
    · exact ⟨[], hnone⟩
    · split
      · exact ⟨[], hnone⟩
      · rename_i roots _ _
        obtain ⟨added, hadded⟩ :=
          exists_appends_register table ⟨s.registry, l⟩ (roots.map Value.command)
        -- What the inclusion ends with is read from the roots, after the events of registering.
        have hevents := congrArg Run.events
          (Run.bind_pure_eq (register table ⟨s.registry, l⟩ (roots.map Value.command)).2
            fun _ => roots)
        exact ⟨added, hadded.commands, hadded.valid, hevents.trans hadded.announced⟩

theorem exists_appends_includeModules (tree : FileTree) (s : Session) (names : List String) :
    ∃ added, Registry.Appends table s.registry (includeModules tree table s names).1.registry added
      (includeModules tree table s names).2.events := by
  induction names generalizing s with
  | nil => exact ⟨[], .refl table s.registry⟩
  | cons name rest ih =>
    obtain ⟨added, hadded⟩ := exists_appends_includeModule table tree s name
    cases hmodule : includeModule tree table s name with
    | mk s' run =>
      obtain ⟨events, outcome⟩ := run
      rw [hmodule] at hadded
      cases outcome with
      | error e =>
        rw [includeModules_of_error table hmodule]
        exact ⟨added, hadded⟩
      | ok roots =>
        obtain ⟨more, hmore⟩ := ih s'
        rw [includeModules_of_ok table hmodule]
        exact ⟨added ++ more, hadded.trans hmore⟩

/-- An inclusion appends roots and announces them, also where it fails midway. -/
theorem exists_appends_includePackage (tree : FileTree) (s : Session) (package : Value)
    (recursive : Bool) :
    ∃ added, Registry.Appends table s.registry
      (includePackage tree table s package recursive).1.registry added
      (includePackage tree table s package recursive).2.events := by
  unfold includePackage
  rcases modulesOf tree s.loader package recursive with ⟨l, _ | names⟩
  · exact ⟨[], .refl table s.registry⟩
  · exact exists_appends_includeModules table tree ⟨s.registry, l⟩ names

end Session

end ChatCommands
