import ChatCommands.Package.Walk

/-!
# The names of a listing

Only a package with a proper name is listed, and the names of the modules in it continue its own.
So every module of a listing can be asked for by name, and where it cannot be had, this is because
of the module and not because of its name.

## Main results

* `importModule_eq_ok_iff`, `importModule_of_load_error` : asking for a module by name.
* `checkName_of_mem_modulesOf` : the names of a listing are proper ones.
-/

namespace ChatCommands

variable {tree : FileTree}

theorem checkName_eq_ok_iff {name : String} :
    checkName name = .ok () ↔ name.toList ≠ [] ∧ name.toList.head? ≠ some '.' := by
  unfold checkName
  by_cases hdot : name.toList.head? = some '.'
  · simp [hdot]
  · simp [hdot]

/-- A module in a package that can be asked for by name can be asked for itself. -/
theorem checkName_memberName {package : String} (h : checkName package = .ok ()) (name : String) :
    checkName (memberName package name) = .ok () := by
  rw [checkName_eq_ok_iff] at h ⊢
  rw [memberName, String.toList_append, String.toList_append]
  cases hpackage : package.toList with
  | nil => exact absurd hpackage h.1
  | cons c rest =>
    rw [hpackage] at h
    exact ⟨List.cons_ne_nil _ _, h.2⟩

/-- The modules that are found in a directory can be asked for by name. -/
theorem checkName_of_mem_walk {fuel : Nat} {l : Loader} {package : String}
    {listed : List (String × Bool)} (hpackage : checkName package = .ok ()) {names : List String}
    (h : (walk tree fuel l package listed).2 = .ok names) :
    ∀ name ∈ names, checkName name = .ok () := by
  induction fuel generalizing l package listed names with
  | zero =>
    cases listed <;> (cases h; exact nofun)
  | succ fuel ih =>
    cases listed with
    | nil => cases h; exact nofun
    | cons m rest =>
      obtain ⟨name, isPackage⟩ := m
      have hmember := checkName_memberName hpackage name
      unfold walk at h
      dsimp only at h
      generalize hinner : (if isPackage = true then _ else _) = inner at h
      have hnames : ∀ found, inner.2 = .ok found → ∀ name ∈ found, checkName name = .ok () := by
        intro found hfound
        subst hinner
        split at hfound
        · split at hfound
          · split at hfound
            · exact ih hmember hfound
            · cases hfound; exact nofun
          · split at hfound
            · cases hfound; exact nofun
            · cases hfound
        · cases hfound; exact nofun
      split at h
      · cases h
      · rename_i l' found
        split at h
        · rename_i l'' others hrest
          cases h
          have hothers := ih hpackage (congrArg Prod.snd hrest)
          rw [List.cons_append]
          refine List.forall_mem_cons.mpr ⟨hmember, fun n hn => ?_⟩
          exact (List.mem_append.mp hn).elim (hnames found rfl n) (hothers n)
        · cases h

theorem importModule_eq_ok_iff {l l' : Loader} {name : String} :
    importModule tree l name = (l', .ok ()) ↔
      checkName name = .ok () ∧ l.load tree name = (l', .ok ()) := by
  unfold importModule
  cases hname : checkName name with
  | error r => simp
  | ok _ =>
    rcases l.load tree name with ⟨l1, _ | _⟩ <;> simp

theorem importModule_of_load_error {l l' : Loader} {name : String} {e : LoadError}
    (hname : checkName name = .ok ()) (hload : l.load tree name = (l', .error e)) :
    importModule tree l name = (l', .error (e.toError name)) := by
  simp only [importModule, hname, hload]

/-- The modules of a listing can be asked for by name, as the package was. -/
theorem checkName_of_mem_modulesOf {l l' : Loader} {package : Value} {recursive : Bool}
    {names : List String} (h : modulesOf tree l package recursive = (l', .ok names)) :
    ∀ name ∈ names, checkName name = .ok () := by
  unfold modulesOf at h
  split at h
  · rename_i name
    split at h
    · cases h
    · rename_i l1 hload
      have hname : checkName name = .ok () := (importModule_eq_ok_iff.mp hload).1
      split at h
      · cases h
        exact List.forall_mem_singleton.mpr hname
      · split at h
        · rename_i l2 found hmembers
          cases h
          refine List.forall_mem_cons.mpr ⟨hname, ?_⟩
          unfold members at hmembers
          split at hmembers
          · split at hmembers
            · rename_i hwalk
              cases hmembers
              exact checkName_of_mem_walk hname (congrArg Prod.snd hwalk)
            · cases hmembers
          · cases hmembers
            exact List.forall_mem_map.mpr fun m _ => checkName_memberName hname m.1
        · cases h
  · cases h

end ChatCommands
