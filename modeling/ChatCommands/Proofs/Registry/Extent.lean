import ChatCommands.Proofs.Package.Identity
import ChatCommands.Proofs.Package.Listing
import ChatCommands.Proofs.Registry.Growth

/-!
# How far an inclusion gets

A package is listed before any of its modules is registered, and then its modules are loaded and
registered in turn.  So an inclusion that fails has registered either nothing, when the listing has
failed, or the roots of all modules in front of the one that has failed; whatever it was that the
module has failed at, none of its own roots is registered, and no later module is loaded.

## Main definitions

* `Yields`, `YieldsAll` : a module, or some modules in turn, are loaded and have well-formed roots.
* `Fails` : why a module cannot be included.
* `AreRootsOf` : the roots of a module, each once and in order.

## Main results

* `Session.yields_or_fails_includeModule` : what including one module does.
* `Session.exists_yieldsAll_includeModules` : how far including several modules gets.
* `YieldsAll.areRootsOf` : what is registered are the roots of the modules.
* `include_registers_in_turn` : how far including a package gets.
-/

namespace ChatCommands

variable {tree : FileTree} {table : Converters}

/-! ### Modules that can be included -/

/-- A module is loaded, and the roots among its values are found and are well formed. -/
structure Yields (tree : FileTree) (table : Converters) (l : Loader) (name : String)
    (values : List Value) (roots : List Command) (l' : Loader) : Prop where
  loaded : l.load tree name = (l', .ok ())
  holds : l'.valuesOf name = values
  found : rootsOf values = .ok roots
  valid : ∀ c ∈ roots, isValid table (.command c) = true

/-- Why a module cannot be included: it is not there to be loaded, loading it raises an error, its
commands cannot be gone through, or one of its roots is malformed. -/
inductive Fails (tree : FileTree) (table : Converters) (l : Loader) (name : String) (l' : Loader) :
    Error → Prop
  | unavailable {e : LoadError} (hload : l.load tree name = (l', .error e))
      (he : e.isAboutLoading = true) :
      Fails tree table l name l' (.refusal (.moduleUnavailable name))
  | raising {e : Error} (hload : l.load tree name = (l', .error (.failed e)))
      (he : (LoadError.failed e).isAboutLoading = false) : Fails tree table l name l' e
  | unwalkable {m : Misuse} (hload : l.load tree name = (l', .ok ()))
      (hroots : rootsOf (l'.valuesOf name) = .error m) : Fails tree table l name l' (.misuse m)
  | malformed {front back : List Command} {c : Command}
      (hload : l.load tree name = (l', .ok ()))
      (hroots : rootsOf (l'.valuesOf name) = .ok (front ++ c :: back))
      (hfront : ∀ d ∈ front, isValid table (.command d) = true)
      (hc : isValid table (.command c) = false) :
      Fails tree table l name l' (.fault (Registry.malformedFault (.command c)))

/-- Some modules are loaded in turn and have well-formed roots.  Each module is given with its
values and its roots. -/
inductive YieldsAll (tree : FileTree) (table : Converters) :
    Loader → List String → List (List Value × List Command) → Loader → Prop
  | nil (l : Loader) : YieldsAll tree table l [] [] l
  | cons {l l' l'' : Loader} {name : String} {rest : List String} {values : List Value}
      {roots : List Command} {modules : List (List Value × List Command)}
      (hname : Yields tree table l name values roots l')
      (hrest : YieldsAll tree table l' rest modules l'') :
      YieldsAll tree table l (name :: rest) ((values, roots) :: modules) l''

/-- Some commands are the roots of a module, each once and in the order of its variables. -/
structure AreRootsOf (values : List Value) (roots : List Command) : Prop where
  sublist : roots.Sublist (foundCommands values)
  mem_iff : ∀ c, c ∈ roots ↔ IsRootAmong values c

theorem Yields.areRootsOf {l l' : Loader} {name : String} {values : List Value}
    {roots : List Command} (h : Yields tree table l name values roots l')
    (hl' : l'.IsIdentified) : AreRootsOf values roots where
  sublist := by
    have hfound := h.found
    rw [rootsOf_eq] at hfound
    cases hbelow : below (foundCommands values) with
    | error m =>
      rw [hbelow] at hfound
      cases hfound
    | ok nested =>
      rw [hbelow] at hfound
      cases hfound
      exact List.filter_sublist
  mem_iff c := mem_rootsOf_iff (h.holds ▸ hl'.isIdentified_valuesOf name) h.found

/-- What modules yield are their roots. -/
theorem YieldsAll.areRootsOf (htree : tree.IsWritten) {l l' : Loader} {names : List String}
    {modules : List (List Value × List Command)} (h : YieldsAll tree table l names modules l')
    (hl : l.IsIdentified) : ∀ m ∈ modules, AreRootsOf m.1 m.2 := by
  induction h with
  | nil => exact nofun
  | cons hname _ ih =>
    have hl' := hl.of_changes htree ((Loader.changes_load tree _ _).of_eq hname.loaded)
    exact List.forall_mem_cons.mpr ⟨hname.areRootsOf hl', ih hl'⟩

namespace Session

/-! ### Single modules -/

/-- A session with some roots appended and other modules loaded. -/
def extended (s : Session) (roots : List Command) (l : Loader) : Session :=
  ⟨⟨s.registry.commands ++ roots⟩, l⟩

/-- A run that announces some roots before it ends. -/
def announcing {α : Type} (s : Session) (roots : List Command) (outcome : Except Error α) : Run α :=
  ⟨(Registry.announceAll s.registry.names roots).events, outcome⟩

theorem extended_nil (s : Session) (l : Loader) : s.extended [] l = ⟨s.registry, l⟩ := by
  rw [extended, List.append_nil]

theorem extended_extended (s : Session) (roots more : List Command) (l l' : Loader) :
    (s.extended roots l).extended more l' = s.extended (roots ++ more) l' := by
  rw [extended, extended, extended, List.append_assoc]

/-- Announcing some roots after others goes on from these. -/
theorem events_announceAll_extended (s : Session) (roots more : List Command) (l : Loader) :
    (Registry.announceAll s.registry.names roots).events ++
        (Registry.announceAll (s.extended roots l).registry.names more).events =
      (Registry.announceAll s.registry.names (roots ++ more)).events := by
  have hnames : (s.extended roots l).registry.names =
      s.registry.names ++ roots.map fun c => c.name := List.map_append
  rw [hnames, Registry.events_announceAll_append]

variable (table)

theorem rootsOf_eq_valuesOf (s : Session) (name : String) :
    s.rootsOf name = Value.checked (ChatCommands.rootsOf (s.loader.valuesOf name)) := by
  unfold rootsOf Loader.valuesOf
  cases s.loader.module? name with
  | none =>
    rw [Option.map_none, Option.getD_none, rootsOf_nil]
    rfl
  | some m => rfl

/-- A module that is loaded and has roots registers them, if there are any. -/
theorem includeModule_of_rootsOf {s : Session} {name : String} {l : Loader} {roots : List Command}
    (hload : importModule tree s.loader name = (l, .ok ()))
    (hroots : ChatCommands.rootsOf (l.valuesOf name) = .ok roots) :
    includeModule tree table s name =
      ((register table ⟨s.registry, l⟩ (roots.map Value.command)).1,
        (register table ⟨s.registry, l⟩ (roots.map Value.command)).2.andThen
          fun _ => Run.done roots) := by
  have hrootsOf : rootsOf ⟨s.registry, l⟩ name = .ok roots := by
    rw [rootsOf_eq_valuesOf, hroots]
    rfl
  simp only [includeModule, hload, hrootsOf]
  cases roots with
  | nil =>
    have hchecked : Registry.checked table [] = .ok [] := rfl
    rw [List.map_nil, register_of_checked _ hchecked, List.append_nil]
    rfl
  | cons c rest => rfl

theorem fails_of_load_error {l l' : Loader} {name : String} {e : LoadError}
    (hload : l.load tree name = (l', .error e)) : Fails tree table l name l' (e.toError name) := by
  unfold LoadError.toError
  cases he : e.isAboutLoading with
  | true => exact .unavailable hload he
  | false =>
    cases e with
    | missing => cases he
    | failed e => exact .raising hload he

/-- Including a module registers its roots, or nothing at all when it fails. -/
theorem yields_or_fails_includeModule (tree : FileTree) (s : Session) {name : String}
    (hname : checkName name = .ok ()) :
    (∃ values roots l, Yields tree table s.loader name values roots l ∧
      includeModule tree table s name = (s.extended roots l, s.announcing roots (.ok roots))) ∨
    ∃ l e, Fails tree table s.loader name l e ∧
      includeModule tree table s name = (⟨s.registry, l⟩, ⟨[], .error e⟩) := by
  cases hload : s.loader.load tree name with
  | mk l result =>
    cases result with
    | error e =>
      have himport := importModule_of_load_error hname hload
      refine .inr ⟨l, _, fails_of_load_error table hload, ?_⟩
      simp only [includeModule, himport]
      rfl
    | ok _ =>
      have himport := importModule_eq_ok_iff.mpr ⟨hname, hload⟩
      cases hroots : ChatCommands.rootsOf (l.valuesOf name) with
      | error m =>
        have hrootsOf : rootsOf ⟨s.registry, l⟩ name = .error (.misuse m) := by
          rw [rootsOf_eq_valuesOf, hroots]
          rfl
        refine .inr ⟨l, _, .unwalkable hload hroots, ?_⟩
        simp only [includeModule, himport, hrootsOf]
        rfl
      | ok roots =>
        have hinclude := includeModule_of_rootsOf table himport hroots
        rcases Registry.checked_cases table (roots.map Value.command) with
          ⟨cs, hvalid, hcs, hchecked⟩ | ⟨front, v, back, hsplit, hfront, hv, hchecked⟩
        · obtain rfl : cs = roots :=
            (List.map_inj_right fun _ _ heq => Value.command.inj heq).mp hcs
          rw [register_of_checked _ hchecked] at hinclude
          refine .inl ⟨_, cs, l, ⟨hload, rfl, hroots, fun c hc => ?_⟩, ?_⟩
          · exact hvalid _ (List.mem_map_of_mem hc)
          · rw [hinclude, announcing]
            simp only [Run.andThen, Run.done, List.append_nil]
            rfl
        · obtain ⟨cs, rest, rfl, rfl, hrest⟩ := List.map_eq_append_iff.mp hsplit
          obtain ⟨c, ds, rfl, rfl, -⟩ := List.map_eq_cons_iff.mp hrest
          rw [register_of_error _ hchecked] at hinclude
          exact .inr ⟨l, _, .malformed hload hroots
            (fun d hd => hfront _ (List.mem_map_of_mem hd)) hv, hinclude⟩

/-! ### Modules in turn -/

/-- A module that is included leaves the modules after it to be included. -/
theorem includeModules_of_extended {s : Session} {name : String} {rest : List String}
    {roots more : List Command} {l l' : Loader} {outcome : Except Error (List Command)}
    (hname : includeModule tree table s name = (s.extended roots l, s.announcing roots (.ok roots)))
    (hrest : includeModules tree table (s.extended roots l) rest =
      ((s.extended roots l).extended more l', (s.extended roots l).announcing more outcome)) :
    includeModules tree table s (name :: rest) =
      (s.extended (roots ++ more) l',
        s.announcing (roots ++ more) (outcome.map (roots ++ ·))) := by
  rw [includeModules_of_ok table hname, hrest, extended_extended]
  simp only [announcing, events_announceAll_extended]

/-- Including modules registers the roots of all of them, or of those in front of the first that
fails. -/
theorem exists_yieldsAll_includeModules (tree : FileTree) (s : Session) {names : List String}
    (hnames : ∀ name ∈ names, checkName name = .ok ()) :
    ∃ front modules l, YieldsAll tree table s.loader front modules l ∧
      (names = front ∧ includeModules tree table s names =
          (s.extended (modules.flatMap Prod.snd) l,
            s.announcing (modules.flatMap Prod.snd) (.ok (modules.flatMap Prod.snd))) ∨
        ∃ name back l' e, names = front ++ name :: back ∧ Fails tree table l name l' e ∧
          includeModules tree table s names =
            (s.extended (modules.flatMap Prod.snd) l',
              s.announcing (modules.flatMap Prod.snd) (.error e))) := by
  induction names generalizing s with
  | nil =>
    refine ⟨[], [], s.loader, .nil s.loader, .inl ⟨rfl, ?_⟩⟩
    rw [List.flatMap_nil, extended_nil]
    rfl
  | cons name rest ih =>
    obtain ⟨hproper, hrest⟩ := List.forall_mem_cons.mp hnames
    rcases yields_or_fails_includeModule table tree s hproper with
      ⟨values, roots, l, hyields, hname⟩ | ⟨l, e, hfails, hname⟩
    · obtain ⟨front, modules, l', hall, hrest⟩ := ih (s.extended roots l) hrest
      refine ⟨name :: front, (values, roots) :: modules, l', .cons hyields hall, ?_⟩
      rw [List.flatMap_cons]
      rcases hrest with ⟨rfl, hrest⟩ | ⟨failing, back, l'', e, rfl, hfails, hrest⟩
      · exact .inl ⟨rfl, includeModules_of_extended table hname hrest⟩
      · exact .inr ⟨failing, back, l'', e, rfl, hfails,
          includeModules_of_extended table hname hrest⟩
    · refine ⟨[], [], s.loader, .nil s.loader, .inr ⟨name, rest, l, e, rfl, hfails, ?_⟩⟩
      rw [includeModules_of_error table hname, List.flatMap_nil, extended_nil]
      rfl

end Session

/-- How far including a package gets.  When its modules cannot be listed, nothing is registered.
When they can, the inclusion appends the roots of the modules in front, in order: of all of them,
and then it ends with these roots; or of those in front of a module that fails, and then it ends
with the error of this module.  The roots of a module are the commands of it that are below no
other command of it, each once and in order. -/
theorem include_registers_in_turn (tree : FileTree) (table : Converters) (s : Session)
    (package : Value) (recursive : Bool) :
    (∀ l e, modulesOf tree s.loader package recursive = (l, .error e) →
      s.includePackage tree table package recursive = (⟨s.registry, l⟩, ⟨[], .error e⟩)) ∧
    ∀ l names, modulesOf tree s.loader package recursive = (l, .ok names) →
      ∃ front modules l', YieldsAll tree table l front modules l' ∧
        (tree.IsWritten → s.loader.IsIdentified → ∀ m ∈ modules, AreRootsOf m.1 m.2) ∧
        (names = front ∧ s.includePackage tree table package recursive =
            (s.extended (modules.flatMap Prod.snd) l',
              s.announcing (modules.flatMap Prod.snd) (.ok (modules.flatMap Prod.snd))) ∨
          ∃ name back l'' e, names = front ++ name :: back ∧ Fails tree table l' name l'' e ∧
            s.includePackage tree table package recursive =
              (s.extended (modules.flatMap Prod.snd) l'',
                s.announcing (modules.flatMap Prod.snd) (.error e))) := by
  refine ⟨fun l e hlisted => ?_, fun l names hlisted => ?_⟩
  · unfold Session.includePackage
    rw [hlisted]
    rfl
  · have hinclude : s.includePackage tree table package recursive =
        Session.includeModules tree table ⟨s.registry, l⟩ names := by
      unfold Session.includePackage
      rw [hlisted]
    obtain ⟨front, modules, l', hall, hcases⟩ :=
      Session.exists_yieldsAll_includeModules table tree ⟨s.registry, l⟩
        (checkName_of_mem_modulesOf hlisted)
    rw [hinclude]
    refine ⟨front, modules, l', hall, fun htree hs => ?_, hcases⟩
    have hl : l.IsIdentified :=
      hs.of_changes htree ((changes_modulesOf tree s.loader package recursive).of_eq hlisted)
    exact hall.areRootsOf htree hl

/-! ### A package that is included in part -/

/-- A module that binds a variable to a command with some handler. -/
def commandSource (name : String) (handler : Term) : ModuleSource :=
  ⟨none, [(name, .term (.command [("name", .const (.text name)), ("handler", handler)]))]⟩

/-- A handler that does nothing. -/
def idleHandler : Term :=
  .script "idle" false (.const .null) none [] [] []

/-- A package with three modules, of which the second has an integer in the place of a handler. -/
def botTree : FileTree :=
  ⟨⟨[".mod"], ".mod", "initial"⟩,
    [(["bot", "ask.mod"], commandSource "ask" idleHandler),
      (["bot", "ban.mod"], commandSource "ban" (.const (.int 5))),
      (["bot", "cut.mod"], commandSource "cut" idleHandler),
      (["bot", "initial.mod"], ⟨none, []⟩)]⟩

/-- The loader after the package has been loaded. -/
def botLoader : Loader :=
  (Loader.empty.load botTree "bot").1

theorem isWritten_botTree : botTree.IsWritten := by
  rintro t ⟨source, ⟨f, hf, rfl⟩, name, ht⟩
  simp only [botTree, List.mem_cons, List.not_mem_nil, or_false] at hf
  rcases hf with rfl | rfl | rfl | rfl
  case inr.inr.inr => cases ht
  all_goals
    cases List.mem_singleton.mp ht
    simp [idleHandler, Term.IsWritten, Term.AreWritten, Term.AreWrittenEntries, nodes]

/-- A file with one of the endings is a module of the name before the ending, unless it is the
file of a package or the name is none that an import can write. -/
theorem FileTree.moduleOf_of_stem {tree : FileTree} {file : String} (directory : Path)
    (stem : String) (hstem : tree.layout.stem? file = some stem) :
    tree.moduleOf directory file =
      if stem = tree.layout.initial ∨ stem = "" ∨ '.' ∈ stem.toList then none
      else some (stem, false) := by
  simp [FileTree.moduleOf, hstem]

theorem listed_botTree :
    botTree.listed ["bot"] = [("ask", false), ("ban", false), ("cut", false)] := by
  have hnames : botTree.names ["bot"] = ["ask.mod", "ban.mod", "cut.mod", "initial.mod"] :=
    (List.mergeSort_of_pairwise (by decide)).trans (by decide)
  have hask : botTree.moduleOf ["bot"] "ask.mod" = some ("ask", false) :=
    (FileTree.moduleOf_of_stem ["bot"] "ask" (by decide)).trans (by decide)
  have hban : botTree.moduleOf ["bot"] "ban.mod" = some ("ban", false) :=
    (FileTree.moduleOf_of_stem ["bot"] "ban" (by decide)).trans (by decide)
  have hcut : botTree.moduleOf ["bot"] "cut.mod" = some ("cut", false) :=
    (FileTree.moduleOf_of_stem ["bot"] "cut" (by decide)).trans (by decide)
  have hinitial : botTree.moduleOf ["bot"] "initial.mod" = none :=
    (FileTree.moduleOf_of_stem ["bot"] "initial" (by decide)).trans (by decide)
  simp only [FileTree.listed, hnames, List.filterMap_cons, hask, hban, hcut, hinitial,
    List.filterMap_nil]
  decide

theorem load_botTree : Loader.empty.load botTree "bot" = (botLoader, .ok ()) := by
  have hok : (Loader.empty.load botTree "bot").2.isOk = true := by decide +kernel
  unfold botLoader
  generalize Loader.empty.load botTree "bot" = loaded at hok
  obtain ⟨l, _ | _⟩ := loaded
  · cases hok
  · rfl

theorem modulesOf_botTree :
    modulesOf botTree Loader.empty (.text "bot") true =
      (botLoader, .ok ["bot", "bot.ask", "bot.ban", "bot.cut"]) := by
  have himport : importModule botTree Loader.empty "bot" = (botLoader, .ok ()) :=
    importModule_eq_ok_iff.mpr ⟨by decide +kernel, load_botTree⟩
  have hdirectory : ((botLoader.module? "bot").bind fun m => m.directory) = some ["bot"] := by
    decide +kernel
  have hbound : botTree.bound = 9 := by decide
  simp only [modulesOf, himport, hdirectory, members, hbound, listed_botTree]
  rfl

theorem includePackage_botTree :
    Session.empty.includePackage botTree Converters.standard (.text "bot") true =
      Session.includeModules botTree Converters.standard ⟨Registry.empty, botLoader⟩
        ["bot", "bot.ask", "bot.ban", "bot.cut"] := by
  unfold Session.includePackage
  rw [Session.empty, modulesOf_botTree]

/-- The inclusion ends at the second of the three modules, and the root of the first stays. -/
theorem include_registers_in_turn_botTree :
    botTree.IsWritten ∧ Loader.empty.IsIdentified ∧
    ∃ front modules l', YieldsAll botTree Converters.standard botLoader front modules l' ∧
      front ≠ ["bot", "bot.ask", "bot.ban", "bot.cut"] ∧
      (∀ m ∈ modules, AreRootsOf m.1 m.2) ∧
      ((modules.flatMap Prod.snd).map fun c => c.name.literal) = ["'ask'"] := by
  refine ⟨isWritten_botTree, Loader.isIdentified_empty, ?_⟩
  obtain ⟨front, modules, l', hall, hroots, hcases⟩ :=
    (include_registers_in_turn botTree Converters.standard Session.empty (.text "bot") true).2
      botLoader _ modulesOf_botTree
  have hfailed : (Session.empty.includePackage botTree Converters.standard (.text "bot")
      true).2.outcome.isOk = false := by
    rw [includePackage_botTree]
    decide +kernel
  have hregistered : ((Session.empty.includePackage botTree Converters.standard (.text "bot")
      true).1.registry.commands.map fun c => c.name.literal) = ["'ask'"] := by
    rw [includePackage_botTree]
    decide +kernel
  rcases hcases with ⟨-, hinclude⟩ | ⟨name, back, l'', e, hsplit, -, hinclude⟩
  · rw [hinclude] at hfailed
    cases hfailed
  · rw [hinclude] at hregistered
    refine ⟨front, modules, l', hall, ?_, hroots isWritten_botTree Loader.isIdentified_empty,
      hregistered⟩
    rintro rfl
    cases hsplit

end ChatCommands
