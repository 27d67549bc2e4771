import ChatCommands.Proofs.Dispatch.Mediation
import ChatCommands.Proofs.Registry.Extent

/-!
# What including a package ends with

A package is included module by module.  A module with a malformed root ends the inclusion, but the
walk below its commands comes before the check of its roots: the inclusion ends with a fault about a
malformed definition only when the walk can go through the subcommands of all commands of the
module, and otherwise with the failure of the walk.

## Main definitions

* `importedValues` : the values of modules that are loaded one after another.
* `IsFirstFlawed` : the first module with a malformed root.

## Main results

* `Session.includeModule_cases` : what including one module does.
* `Session.includeModules_cases` : what including several modules ends with.
* `include_reports_first_flawed` : what including a package ends with.
-/

namespace ChatCommands

/-- The values of modules, each loaded after the ones before it; there are none when one of them
cannot be loaded. -/
def importedValues (tree : FileTree) : Loader → List String → Option (List (List Value))
  | _, [] => some []
  | l, name :: rest =>
    match importModule tree l name with
    | (_, .error _) => none
    | (l, .ok ()) => (importedValues tree l rest).map (l.valuesOf name :: ·)

/-- The first module with a malformed root. -/
def IsFirstFlawed (table : Converters) (modules : List (List Value)) (values : List Value) : Prop :=
  ∃ front back, modules = front ++ values :: back ∧ IsFlawed table values ∧
    ∀ others ∈ front, ¬ IsFlawed table others

section FirstFlawed

variable {table : Converters} {modules : List (List Value)} {values : List Value}

theorem isFirstFlawed_cons_self {rest : List (List Value)} (h : IsFlawed table values) :
    IsFirstFlawed table (values :: rest) values :=
  ⟨[], rest, rfl, h, nofun⟩

theorem IsFirstFlawed.cons (h : IsFirstFlawed table modules values) {first : List Value}
    (hfirst : ¬ IsFlawed table first) : IsFirstFlawed table (first :: modules) values := by
  obtain ⟨front, back, rfl, hvalues, hfront⟩ := h
  exact ⟨first :: front, back, rfl, hvalues, List.forall_mem_cons.mpr ⟨hfirst, hfront⟩⟩

theorem IsFirstFlawed.exists_mem (h : IsFirstFlawed table modules values) :
    ∃ others ∈ modules, IsFlawed table others := by
  obtain ⟨front, back, rfl, hvalues, -⟩ := h
  exact ⟨values, by simp, hvalues⟩

theorem IsFirstFlawed.eq {others : List Value} (h : IsFirstFlawed table modules values)
    (h' : IsFirstFlawed table modules others) : others = values := by
  obtain ⟨front, back, hsplit, hvalues, hfront⟩ := h
  obtain ⟨front', back', hsplit', hothers, hfront'⟩ := h'
  induction front generalizing modules front' with
  | nil =>
    cases front' with
    | nil =>
      rw [hsplit] at hsplit'
      exact (List.cons.inj hsplit').1.symm
    | cons first front' =>
      rw [hsplit] at hsplit'
      exact absurd ((List.cons.inj hsplit').1 ▸ hvalues) (hfront' first List.mem_cons_self)
  | cons first front ih =>
    cases front' with
    | nil =>
      rw [hsplit] at hsplit'
      exact absurd ((List.cons.inj hsplit').1 ▸ hothers) (hfront first List.mem_cons_self)
    | cons first' front' =>
      rw [hsplit] at hsplit'
      exact ih rfl (fun ws hws => hfront ws (List.mem_cons_of_mem _ hws)) front'
        (List.cons.inj hsplit').2 fun ws hws => hfront' ws (List.mem_cons_of_mem _ hws)

end FirstFlawed

namespace Session

variable {tree : FileTree} (table : Converters)

/-- Including a module that is loaded registers its roots.  It fails when one of them is malformed,
with a fault about that or because the walk has failed, and then leaves the registry as it was. -/
theorem includeModule_cases {s : Session} {name : String} {l : Loader}
    (hload : importModule tree s.loader name = (l, .ok ()))
    (hvalues : IsIdentified (nodesOf (boundCommands (l.valuesOf name)))) :
    (AreWalkable (l.valuesOf name) ∧ ¬ IsFlawed table (l.valuesOf name) ∧
      ∃ roots events, (∀ c, c ∈ roots ↔ IsRootAmong (l.valuesOf name) c) ∧
        includeModule tree table s name =
          (⟨⟨s.registry.commands ++ roots⟩, l⟩, ⟨events, .ok roots⟩)) ∨
    (AreWalkable (l.valuesOf name) ∧ IsFlawed table (l.valuesOf name) ∧
      ∃ v, includeModule tree table s name =
        (⟨s.registry, l⟩, ⟨[], .error (.fault (Registry.malformedFault v))⟩)) ∨
    (¬ AreWalkable (l.valuesOf name) ∧ IsFlawed table (l.valuesOf name) ∧
      ∃ m : Misuse, m.IsAboutWalking ∧
        includeModule tree table s name = (⟨s.registry, l⟩, ⟨[], .error (.misuse m)⟩)) := by
  obtain ⟨hname, hloaded⟩ := importModule_eq_ok_iff.mp hload
  rcases yields_or_fails_includeModule table tree s hname with
    ⟨values, roots, l', ⟨hloaded', rfl, hroots, hvalid⟩, hinclude⟩ | ⟨l', e, hfails, hinclude⟩
  · cases hloaded.symm.trans hloaded'
    have hmem (c : Command) : c ∈ roots ↔ IsRootAmong (l.valuesOf name) c :=
      mem_rootsOf_iff hvalues hroots
    refine .inl ⟨(rootsOf_eq_ok_iff hvalues).mp ⟨roots, hroots⟩, ?_, roots, _, hmem, hinclude⟩
    rintro ⟨c, hc, hinvalid⟩
    rw [hvalid c ((hmem c).mpr hc)] at hinvalid
    cases hinvalid
  · cases hfails with
    | unavailable hloaded' => cases hloaded.symm.trans hloaded'
    | raising hloaded' => cases hloaded.symm.trans hloaded'
    | unwalkable hloaded' hroots =>
      cases hloaded.symm.trans hloaded'
      have hnot : ¬ AreWalkable (l.valuesOf name) := fun hwalkable => by
        obtain ⟨roots, hok⟩ := (rootsOf_eq_ok_iff hvalues).mpr hwalkable
        rw [hroots] at hok
        cases hok
      exact .inr (.inr ⟨hnot, isFlawed_of_not_areWalkable hvalues hnot, _,
        isAboutWalking_of_rootsOf_error hroots, hinclude⟩)
    | @malformed front back c hloaded' hroots hfront hc =>
      cases hloaded.symm.trans hloaded'
      have hroot : IsRootAmong (l.valuesOf name) c := (mem_rootsOf_iff hvalues hroots).mp (by simp)
      exact .inr (.inl ⟨(rootsOf_eq_ok_iff hvalues).mp ⟨_, hroots⟩, ⟨c, hroot, hc⟩, _, hinclude⟩)

/-- Including modules that are loaded succeeds when none has a malformed root.  Otherwise the first
that has decides: it ends with a fault about that, or because the walk has failed. -/
theorem includeModules_cases (htree : tree.IsWritten) {s : Session} (hs : s.loader.IsIdentified)
    {names : List String} {modules : List (List Value)}
    (himported : importedValues tree s.loader names = some modules) :
    ((∀ values ∈ modules, ¬ IsFlawed table values) ∧
      ∃ roots, (includeModules tree table s names).2.outcome = .ok roots) ∨
    ∃ values, IsFirstFlawed table modules values ∧
      ((AreWalkable values ∧ ∃ v, (includeModules tree table s names).2.outcome =
          .error (.fault (Registry.malformedFault v))) ∨
        (¬ AreWalkable values ∧ ∃ m : Misuse, m.IsAboutWalking ∧
          (includeModules tree table s names).2.outcome = .error (.misuse m))) := by
  induction names generalizing s modules with
  | nil =>
    cases himported
    exact .inl ⟨nofun, [], rfl⟩
  | cons name rest ih =>
    unfold importedValues at himported
    cases hload : importModule tree s.loader name with
    | mk l result =>
      rw [hload] at himported
      cases result with
      | error e => cases himported
      | ok _ =>
        obtain ⟨others, hothers, rfl⟩ := Option.map_eq_some_iff.mp himported
        have hl : l.IsIdentified :=
          hs.of_changes htree ((changes_importModule tree s.loader name).of_eq hload)
        rcases includeModule_cases table hload (hl.isIdentified_valuesOf name) with
          ⟨-, hsound, roots, events, -, hinclude⟩ | ⟨hwalkable, hflawed, v, hinclude⟩ |
            ⟨hnot, hflawed, m, habout, hinclude⟩
        · rw [includeModules_of_ok table hinclude]
          rcases ih (s := ⟨⟨s.registry.commands ++ roots⟩, l⟩) hl hothers with
            ⟨hall, more, hrest⟩ | ⟨values, hfirst, hrest⟩
          · refine .inl ⟨List.forall_mem_cons.mpr ⟨hsound, hall⟩, roots ++ more, ?_⟩
            simp only [hrest]
            rfl
          · refine .inr ⟨values, hfirst.cons hsound, hrest.imp ?_ ?_⟩
            · rintro ⟨hwalkable, v, hrest⟩
              refine ⟨hwalkable, v, ?_⟩
              simp only [hrest]
              rfl
            · rintro ⟨hnot, m, habout, hrest⟩
              refine ⟨hnot, m, habout, ?_⟩
              simp only [hrest]
              rfl
        · rw [includeModules_of_error table hinclude]
          exact .inr ⟨_, isFirstFlawed_cons_self hflawed, .inl ⟨hwalkable, v, rfl⟩⟩
        · rw [includeModules_of_error table hinclude]
          exact .inr ⟨_, isFirstFlawed_cons_self hflawed, .inr ⟨hnot, m, habout, rfl⟩⟩

end Session

theorem Misuse.failureClass_ne_fault (m : Misuse) (kind : FaultKind) :
    m.failureClass ≠ .fault kind := by
  cases m <;> exact nofun

/-- Including a package whose modules can all be loaded succeeds exactly when no module has a
malformed root.  Otherwise the first module that has one decides.  When the subcommands of all its
commands can be gone through, the inclusion ends with a fault about a malformed definition; when
they cannot, it ends with the failure of the walk. -/
theorem include_reports_first_flawed (table : Converters) {tree : FileTree} (htree : tree.IsWritten)
    {s : Session} (hs : s.loader.IsIdentified) {package : Value} {recursive : Bool} {l : Loader}
    {names : List String} {modules : List (List Value)}
    (hlisted : modulesOf tree s.loader package recursive = (l, .ok names))
    (himported : importedValues tree l names = some modules) :
    let outcome := (s.includePackage tree table package recursive).2.outcome
    ((∃ cs, outcome = .ok cs) ↔ ∀ values ∈ modules, ¬ IsFlawed table values) ∧
    ((∃ e, outcome = .error e ∧ e.failureClass = .fault .malformedDefinition) ↔
      ∃ values, IsFirstFlawed table modules values ∧ AreWalkable values) ∧
    ((∃ type, outcome = .error (.misuse (.noAttribute type "subcommands")) ∨
        outcome = .error (.misuse (.notIterable type))) ↔
      ∃ values, IsFirstFlawed table modules values ∧ ¬ AreWalkable values) := by
  intro outcome
  have hl : l.IsIdentified :=
    hs.of_changes htree ((changes_modulesOf tree s.loader package recursive).of_eq hlisted)
  have houtcome :
      outcome = (Session.includeModules tree table ⟨s.registry, l⟩ names).2.outcome := by
    simp only [outcome, Session.includePackage, hlisted]
  have hcases := Session.includeModules_cases table htree (s := ⟨s.registry, l⟩) hl himported
  rw [← houtcome] at hcases
  rcases hcases with ⟨hnone, cs, hok⟩ |
    ⟨values, hfirst, ⟨hwalkable, v, hfault⟩ | ⟨hnot, m, ⟨type, habout⟩, hmisuse⟩⟩
  · have hno (values : List Value) : ¬ IsFirstFlawed table modules values := fun hfirst => by
      obtain ⟨others, hothers, hflawed⟩ := hfirst.exists_mem
      exact hnone others hothers hflawed
    rw [hok]
    refine ⟨iff_of_true ⟨cs, rfl⟩ hnone, iff_of_false nofun ?_, iff_of_false nofun ?_⟩
    · exact fun ⟨values, hfirst, _⟩ => hno values hfirst
    · exact fun ⟨values, hfirst, _⟩ => hno values hfirst
  · obtain ⟨others, hothers, hflawed⟩ := hfirst.exists_mem
    rw [hfault]
    refine ⟨iff_of_false nofun fun hall => hall others hothers hflawed,
      iff_of_true ⟨_, rfl, rfl⟩ ⟨values, hfirst, hwalkable⟩, iff_of_false nofun ?_⟩
    rintro ⟨others, hother, hnot⟩
    rw [hfirst.eq hother] at hnot
    exact hnot hwalkable
  · obtain ⟨others, hothers, hflawed⟩ := hfirst.exists_mem
    rw [hmisuse]
    refine ⟨iff_of_false nofun fun hall => hall others hothers hflawed, iff_of_false ?_ ?_,
      iff_of_true ⟨type, ?_⟩ ⟨values, hfirst, hnot⟩⟩
    · rintro ⟨e, he, hmalformed⟩
      cases he
      exact m.failureClass_ne_fault .malformedDefinition hmalformed
    · rintro ⟨others, hother, hwalkable⟩
      rw [hfirst.eq hother] at hwalkable
      exact hnot hwalkable
    · exact habout.imp (fun h => by rw [h]) (fun h => by rw [h])

/-! ### A mistaken module -/

/-- A command with a text in the place of a subcommand. -/
def mistaken : Command :=
  ⟨1, .text "kick", .null, .null, .bool false, .null, .tuple [.text "ban"], .null,
    .callable (answering 0 "kick" .null)⟩

/-- A module that binds a variable to this command. -/
def mistakenSource : ModuleSource :=
  ⟨none, [("kick", .term (.command
    [("name", .const (.text "kick")), ("subcommands", .tuple [.const (.text "ban")]),
      ("handler", .script "kick" false (.const .null) none [] [] [])]))]⟩

/-- The only file of a tree holds this module. -/
def mistakenTree : FileTree :=
  ⟨⟨[".mod"], ".mod", "initial"⟩, [(["moderation.mod"], mistakenSource)]⟩

/-- The loader after the module has been loaded. -/
def mistakenLoader : Loader :=
  ⟨[("moderation", ⟨[("kick", some (.command mistaken))], none⟩)], 2⟩

theorem isWritten_mistakenTree : mistakenTree.IsWritten := by
  rintro t ⟨source, ⟨f, hf, rfl⟩, name, ht⟩
  cases List.mem_singleton.mp hf
  cases List.mem_singleton.mp ht
  simp [Term.IsWritten, Term.AreWritten, Term.AreWrittenEntries, nodes]

/-- Loading the module takes a single step. -/
theorem load_mistaken (l : Loader) :
    l.load mistakenTree "moderation" =
      Loader.loadSteps mistakenTree (Loader.loadWithin mistakenTree 1) none l ["moderation"] := by
  have hdotted : Text.dotted "moderation" = ["moderation"] := by decide
  have hbound : mistakenTree.bound = 2 := by decide
  rw [Loader.load, hbound, Loader.loadWithin, hdotted]

theorem load_empty_mistaken :
    Loader.empty.load mistakenTree "moderation" = (mistakenLoader, .ok ()) := by
  have hnew : Loader.empty.module? "moderation" = none := rfl
  have hlocated : mistakenTree.locate [] "moderation" = some (.file mistakenSource) := rfl
  rw [load_mistaken, Loader.loadSteps, Loader.loadStep]
  simp only [hnew, Option.bind_some, hlocated]
  rfl

theorem load_loaded_mistaken :
    mistakenLoader.load mistakenTree "moderation" = (mistakenLoader, .ok ()) := by
  have hloaded : mistakenLoader.module? "moderation" =
      some ⟨[("kick", some (.command mistaken))], none⟩ := rfl
  rw [load_mistaken, Loader.loadSteps, Loader.loadStep]
  simp only [hloaded]
  rfl

theorem importModule_mistaken {l : Loader}
    (h : l.load mistakenTree "moderation" = (mistakenLoader, .ok ())) :
    importModule mistakenTree l "moderation" = (mistakenLoader, .ok ()) := by
  have hname : checkName "moderation" = .ok () := by
    rw [checkName, if_neg (by decide), if_neg (by decide)]
  simp only [importModule, hname, h]

theorem modulesOf_mistaken :
    modulesOf mistakenTree Loader.empty (.text "moderation") true =
      (mistakenLoader, .ok ["moderation"]) := by
  simp only [modulesOf, importModule_mistaken load_empty_mistaken]
  rfl

theorem importedValues_mistaken :
    importedValues mistakenTree mistakenLoader ["moderation"] = some [[.command mistaken]] := by
  simp only [importedValues, importModule_mistaken load_loaded_mistaken]
  rfl

theorem isRootAmong_mistaken : IsRootAmong [.command mistaken] mistaken := by
  refine ⟨List.mem_cons_self, fun d hd e he => ?_⟩
  cases List.mem_singleton.mp hd
  simp [mistaken, nodes, nodesAll] at he

/-- The inclusion of this module ends with the failure of the walk, not with a fault about the
malformed definition that it holds. -/
theorem include_reports_first_flawed_mistaken :
    IsFlawed Converters.standard [.command mistaken] ∧
    ¬ (∃ e, (Session.empty.includePackage mistakenTree Converters.standard
        (.text "moderation") true).2.outcome = .error e ∧
      e.failureClass = .fault .malformedDefinition) ∧
    ∃ type,
      (Session.empty.includePackage mistakenTree Converters.standard
        (.text "moderation") true).2.outcome =
          .error (.misuse (.noAttribute type "subcommands")) ∨
      (Session.empty.includePackage mistakenTree Converters.standard
        (.text "moderation") true).2.outcome = .error (.misuse (.notIterable type)) := by
  have hflawed : IsFlawed Converters.standard [.command mistaken] :=
    ⟨mistaken, isRootAmong_mistaken, by decide⟩
  have hfirst : IsFirstFlawed Converters.standard [[.command mistaken]] [.command mistaken] :=
    isFirstFlawed_cons_self hflawed
  have hnot : ¬ AreWalkable [.command mistaken] := fun h => by
    rcases h mistaken (mem_nodesOf_of_mem List.mem_cons_self) with h | h <;> cases h
  obtain ⟨-, hmalformed, hmisuse⟩ := include_reports_first_flawed Converters.standard
    isWritten_mistakenTree (s := Session.empty) Loader.isIdentified_empty modulesOf_mistaken
    importedValues_mistaken
  refine ⟨hflawed, fun h => ?_, hmisuse.mpr ⟨_, hfirst, hnot⟩⟩
  obtain ⟨values, hvalues, hwalkable⟩ := hmalformed.mp h
  rw [hfirst.eq hvalues] at hwalkable
  exact hnot hwalkable

end ChatCommands
