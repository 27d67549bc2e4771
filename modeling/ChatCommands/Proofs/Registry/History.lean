import ChatCommands.Proofs.Dispatch.Mediation
import ChatCommands.Proofs.Registry.Growth
import ChatCommands.Proofs.Registry.Validity

/-!
# The history of a program's registries

A program makes registries, registers roots and includes packages in them, and registers
strategies, in any order and whether or not an attempt succeeds.  One *operation* at a time, the
table only gets more tags, and the registries there are only grow by roots that are well formed
when they are appended.  So all roots are well formed at every moment of every history.

## Main definitions

* `Program` : the table of strategies, the loaded modules and the registries of a program.
* `Operation`, `Program.perform` : what a program can do with them.
* `Program.after` : the program after some operations.
* `Program.ChangesTo` : what an operation can change.
* `Program.IsSound` : all roots of all registries are well formed.

## Main results

* `Program.changesTo_perform` : every operation makes such a change.
* `Program.IsSound.of_changesTo`, `Program.ChangesTo.exists_isPrefix` : what every change keeps.
* `registries_stay_valid` : what is so at every moment of a history.
-/

namespace ChatCommands

/-- The table of strategies, the loaded modules and the registries of a program. -/
structure Program where
  table : Converters
  loader : Loader
  registries : List Registry

/-- What a program can do with its registries, which are named by their position: make one with
some roots, register roots or include a package in one, and register a strategy for a tag. -/
inductive Operation
  | construct (roots : List Value)
  | register (target : Nat) (roots : List Value)
  | includePackage (tree : FileTree) (target : Nat) (package : Value) (recursive : Bool)
  | convert (tag : Value) (strategy : Option Strategy)

namespace Program

/-- Works on one of the registries; nothing happens when there is none at the position. -/
def onRegistry {α : Type} (p : Program) (target : Nat) (work : Session → Session × Run α) :
    Program × Run Unit :=
  match p.registries[target]? with
  | none => (p, Run.done ())
  | some r =>
    match work ⟨r, p.loader⟩ with
    | (s, run) =>
      ({ p with loader := s.loader, registries := p.registries.set target s.registry },
        run.andThen fun _ => Run.done ())

/-- Performs an operation.  A registry that cannot be made is not there afterwards. -/
def perform (p : Program) : Operation → Program × Run Unit
  | .construct roots =>
    match (Registry.ofList p.table roots).outcome with
    | .ok r =>
      ({ p with registries := p.registries ++ [r] },
        ⟨(Registry.ofList p.table roots).events, .ok ()⟩)
    | .error e => (p, ⟨(Registry.ofList p.table roots).events, .error e⟩)
  | .register target roots => p.onRegistry target fun s => s.register p.table roots
  | .includePackage tree target package recursive =>
    p.onRegistry target fun s => s.includePackage tree p.table package recursive
  | .convert tag strategy =>
    match p.table.register tag strategy with
    | (table, run) => ({ p with table := table }, run)

/-- The program after some operations, successful or not. -/
def after (p : Program) (operations : List Operation) : Program :=
  operations.foldl (fun p o => (p.perform o).1) p

theorem after_cons (p : Program) (o : Operation) (rest : List Operation) :
    p.after (o :: rest) = (p.perform o).1.after rest := rfl

/-- What an operation can change: it adds tags and leaves the registries alone, it lets one of
them grow, or it makes a new one of well-formed roots. -/
inductive ChangesTo (p q : Program) : Prop
  | table (hwithin : p.table.IsWithin q.table) (hsame : q.registries = p.registries)
  | grown (htable : q.table = p.table) {i : Nat} {r r' : Registry} (hr : p.registries[i]? = some r)
      (hgrows : Registry.GrowsTo p.table r r') (hset : q.registries = p.registries.set i r')
  | made (htable : q.table = p.table) {r : Registry}
      (hgrows : Registry.GrowsTo p.table Registry.empty r)
      (happend : q.registries = p.registries ++ [r])

/-- All roots of all registries are well formed. -/
def IsSound (p : Program) : Prop :=
  ∀ r ∈ p.registries, ∀ c ∈ r.commands, isValid p.table (.command c) = true

/-! ### Single operations -/

theorem growsTo_ofList {table : Converters} {roots : List Value} {r : Registry}
    (h : (Registry.ofList table roots).outcome = .ok r) :
    Registry.GrowsTo table Registry.empty r := by
  unfold Registry.ofList at h
  split at h
  · cases h
    exact .refl table Registry.empty
  · cases hchecked : Registry.checked table roots with
    | error e =>
      rw [Registry.register_of_error _ hchecked] at h
      cases h
    | ok cs =>
      rw [Registry.register_of_checked _ hchecked] at h
      cases h
      exact (Registry.appends_of_checked _ hchecked).growsTo

/-- Work that lets the registry of a session grow does so with one of the program's. -/
theorem changesTo_onRegistry {α : Type} (p : Program) (target : Nat)
    {work : Session → Session × Run α}
    (hwork : ∀ s, Registry.GrowsTo p.table s.registry (work s).1.registry) :
    p.ChangesTo (p.onRegistry target work).1 := by
  unfold onRegistry
  split
  · exact .table (.refl p.table) rfl
  · rename_i r hr
    exact .grown rfl hr (hwork ⟨r, p.loader⟩) rfl

/-- Every operation makes one of the three changes. -/
theorem changesTo_perform (p : Program) (o : Operation) : p.ChangesTo (p.perform o).1 := by
  cases o with
  | construct roots =>
    simp only [perform]
    split
    · rename_i r hr
      exact .made rfl (growsTo_ofList hr) rfl
    · exact .table (.refl p.table) rfl
  | register target roots =>
    exact p.changesTo_onRegistry target fun s =>
      (s.exists_appends_register p.table roots).elim fun _ h => h.growsTo
  | includePackage tree target package recursive =>
    exact p.changesTo_onRegistry target fun s =>
      (s.exists_appends_includePackage p.table tree package recursive).elim fun _ h => h.growsTo
  | convert tag strategy => exact .table (p.table.isWithin_register tag strategy) rfl

/-- A change keeps all roots well formed. -/
theorem IsSound.of_changesTo {p q : Program} (h : p.IsSound) (hchange : p.ChangesTo q) :
    q.IsSound := by
  intro r hr c hc
  cases hchange with
  | table hwithin hsame =>
    rw [hsame] at hr
    exact isValid_mono hwithin (h r hr c hc)
  | @grown htable i old grown hold hgrows hset =>
    obtain ⟨added, hadded, hvalid⟩ := hgrows
    rw [htable]
    rw [hset] at hr
    rcases List.mem_or_eq_of_mem_set hr with hr | rfl
    · exact h r hr c hc
    · rw [hadded] at hc
      exact (List.mem_append.mp hc).elim (h old (List.mem_of_getElem? hold) c) (hvalid c)
  | @made htable new hgrows happend =>
    obtain ⟨added, hadded, hvalid⟩ := hgrows
    rw [htable]
    rw [happend] at hr
    rcases List.mem_append.mp hr with hr | hr
    · exact h r hr c hc
    · rw [List.mem_singleton.mp hr, hadded] at hc
      exact (List.mem_append.mp hc).elim (fun hc => absurd hc List.not_mem_nil) (hvalid c)

/-- A change keeps the roots of a registry in front. -/
theorem ChangesTo.exists_isPrefix {p q : Program} (h : p.ChangesTo q) {i : Nat} {r : Registry}
    (hr : p.registries[i]? = some r) :
    ∃ r', q.registries[i]? = some r' ∧ r.commands <+: r'.commands := by
  have hlt : i < p.registries.length := (List.getElem?_eq_some_iff.mp hr).1
  cases h with
  | table hwithin hsame => exact ⟨r, by rw [hsame, hr], List.prefix_rfl⟩
  | @grown htable j old grown hold hgrows hset =>
    rw [hset]
    by_cases hij : j = i
    · subst hij
      rw [hr] at hold
      cases hold
      exact ⟨grown, List.getElem?_set_self hlt, hgrows.isPrefix⟩
    · exact ⟨r, by rw [List.getElem?_set_ne hij, hr], List.prefix_rfl⟩
  | made htable hgrows happend =>
    exact ⟨r, by rw [happend, List.getElem?_append_left hlt, hr], List.prefix_rfl⟩

/-! ### Whole histories -/

theorem IsSound.after {p : Program} (h : p.IsSound) (operations : List Operation) :
    (p.after operations).IsSound := by
  induction operations generalizing p with
  | nil => exact h
  | cons o rest ih =>
    rw [after_cons]
    exact ih (h.of_changesTo (p.changesTo_perform o))

theorem exists_isPrefix_after (p : Program) (operations : List Operation) {i : Nat} {r : Registry}
    (hr : p.registries[i]? = some r) :
    ∃ r', (p.after operations).registries[i]? = some r' ∧ r.commands <+: r'.commands := by
  induction operations generalizing p r with
  | nil => exact ⟨r, hr, List.prefix_rfl⟩
  | cons o rest ih =>
    obtain ⟨r', hr', hprefix⟩ := (p.changesTo_perform o).exists_isPrefix hr
    obtain ⟨r'', hr'', hprefix'⟩ := ih _ hr'
    exact ⟨r'', by rw [after_cons, hr''], hprefix.trans hprefix'⟩

/-! ### Registering roots -/

variable {p : Program} {i : Nat} {r : Registry} {roots : List Value}

/-- Registering well-formed roots appends them in order. -/
theorem perform_register_of_forall_isValid (hr : p.registries[i]? = some r)
    (h : ∀ v ∈ roots, isValid p.table v = true) :
    (p.perform (.register i roots)).2.outcome = .ok () ∧
      ∃ cs, cs.map Value.command = roots ∧
        (p.perform (.register i roots)).1.registries[i]? = some ⟨r.commands ++ cs⟩ := by
  obtain ⟨cs, hcs, hchecked⟩ := Registry.exists_checked h
  have hlt : i < p.registries.length := (List.getElem?_eq_some_iff.mp hr).1
  simp only [perform, onRegistry, hr, Session.register_of_checked _ hchecked]
  exact ⟨rfl, cs, hcs, List.getElem?_set_self hlt⟩

/-- Registering a malformed root fails and does nothing else. -/
theorem perform_register_of_exists_not_isValid (hr : p.registries[i]? = some r)
    (h : ∃ v ∈ roots, isValid p.table v = false) :
    (p.perform (.register i roots)).1.registries = p.registries ∧
      ∃ v ∈ roots, isValid p.table v = false ∧
        (p.perform (.register i roots)).2 = ⟨[], .error (.fault (Registry.malformedFault v))⟩ := by
  obtain ⟨v, hv, hinvalid, hchecked⟩ := Registry.exists_checked_error h
  simp only [perform, onRegistry, hr, Session.register_of_error _ hchecked]
  refine ⟨?_, v, hv, hinvalid, rfl⟩
  obtain ⟨hlt, rfl⟩ := List.getElem?_eq_some_iff.mp hr
  exact List.set_getElem_self hlt

end Program

/-! ### Histories from the start -/

namespace Program

/-- A program before its first registry. -/
def opening (table : Converters) (loader : Loader) : Program := ⟨table, loader, []⟩

theorem isSound_opening (table : Converters) (loader : Loader) : (opening table loader).IsSound :=
  nofun

end Program

/-- At every moment of a history all roots of all registries are well formed by the table of that
moment, and whatever follows keeps the roots of a registry in front.  Registering roots then fails
with a fault about a malformed definition exactly when one is malformed, and has no effect;
otherwise it appends the roots in order. -/
theorem registries_stay_valid (table : Converters) (loader : Loader)
    (earlier later : List Operation) :
    let p := (Program.opening table loader).after earlier
    (∀ r ∈ p.registries, ∀ c ∈ r.commands, isValid p.table (.command c) = true) ∧
    (∀ (i : Nat) (r : Registry), p.registries[i]? = some r →
      ∃ r', (p.after later).registries[i]? = some r' ∧ r.commands <+: r'.commands) ∧
    ∀ (i : Nat) (r : Registry) (roots : List Value), p.registries[i]? = some r →
      ((∃ e, (p.perform (.register i roots)).2.outcome = .error e ∧
          e.failureClass = .fault .malformedDefinition) ↔
        ∃ v ∈ roots, isValid p.table v = false) ∧
      ((∃ v ∈ roots, isValid p.table v = false) →
        (p.perform (.register i roots)).1.registries = p.registries ∧
          (p.perform (.register i roots)).2.events = []) ∧
      ((∀ v ∈ roots, isValid p.table v = true) →
        (p.perform (.register i roots)).2.outcome = .ok () ∧
          ∃ cs, cs.map Value.command = roots ∧
            (p.perform (.register i roots)).1.registries[i]? = some ⟨r.commands ++ cs⟩) := by
  intro p
  refine ⟨(Program.isSound_opening table loader).after earlier,
    fun i r hr => p.exists_isPrefix_after later hr, fun i r roots hr => ⟨⟨?_, ?_⟩, ?_, ?_⟩⟩
  · rintro ⟨e, he, -⟩
    by_contra hnone
    have hvalid : ∀ v ∈ roots, isValid p.table v = true := fun v hv =>
      eq_true_of_ne_false fun hinvalid => hnone ⟨v, hv, hinvalid⟩
    rw [(Program.perform_register_of_forall_isValid hr hvalid).1] at he
    cases he
  · intro hinvalid
    obtain ⟨-, v, -, -, hrun⟩ := Program.perform_register_of_exists_not_isValid hr hinvalid
    exact ⟨_, by rw [hrun], rfl⟩
  · intro hinvalid
    obtain ⟨hsame, v, -, -, hrun⟩ := Program.perform_register_of_exists_not_isValid hr hinvalid
    exact ⟨hsame, by rw [hrun]⟩
  · exact Program.perform_register_of_forall_isValid hr

/-- A program whose only registry holds the moderation tree. -/
def moderated : Program :=
  (Program.opening Converters.standard Loader.empty).after
    [.construct [.command moderation]]

theorem registries_moderated : moderated.registries[0]? = some ⟨[moderation]⟩ := by
  have hchecked : Registry.checked Converters.standard [.command moderation] =
      .ok [moderation] := by
    simp only [Registry.checked, isValid_moderation _ List.mem_cons_self]
    rfl
  have hmade : (Registry.ofList Converters.standard [.command moderation]).outcome =
      .ok ⟨[moderation]⟩ := by
    rw [Registry.ofList, if_neg (by decide), Registry.register_of_checked _ hchecked]
    rfl
  simp only [moderated, Program.after_cons, Program.perform, Program.opening, hmade]
  rfl

/-- An integer among the roots keeps the command before it from being registered. -/
theorem registries_stay_valid_moderation :
    moderated.registries[0]? = some ⟨[moderation]⟩ ∧
    (moderated.perform (.register 0 [.command kick, .int 5])).1.registries =
      moderated.registries ∧
    (moderated.perform (.register 0 [.command kick, .int 5])).2.events = [] := by
  obtain ⟨-, -, hregister⟩ := registries_stay_valid Converters.standard Loader.empty
    [.construct [.command moderation]] []
  obtain ⟨-, hmalformed, -⟩ := hregister 0 _ [.command kick, .int 5] registries_moderated
  exact ⟨registries_moderated, hmalformed ⟨.int 5, by simp, rfl⟩⟩

end ChatCommands
