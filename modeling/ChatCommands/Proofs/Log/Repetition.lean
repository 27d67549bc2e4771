import ChatCommands.LogSetup
import Mathlib.Data.List.Basic

/-!
# Setting the log up again and again

A host sets the log up by any number of calls, and not all of their levels are valid.  A call with
an invalid level is refused and changes nothing.  Of the others the first one puts a handler on its
console, which stays the only one on a console, and the last one sets the level.

## Main definitions

* `LogCall` : a call that sets the log up.
* `LogCall.Sets` : the level that a call sets; an invalid one sets none.
* `LogSetup.perform`, `LogSetup.after` : the log after one call, and after several.
* `LogSetup.IsSetUpBy` : what several calls make of a log.

## Main results

* `LogSetup.perform_of_sets`, `LogSetup.perform_of_not_isValid` : what one call does.
* `LogSetup.consoles_after`, `LogSetup.level_after` : which calls decide.
* `LogSetup.set_up_keeps_first_console` : the handler of the first valid call and the level of the
  last one.
-/

namespace ChatCommands

/-- A call that sets the log up, and the environment at the time of the call. -/
structure LogCall where
  environment : Option String
  level : Value
  console : Option Nat

/-- The level that a call sets: the given integer, the integer with the given name, or, where no
level is given, the one that suits the environment. -/
inductive LogCall.Sets : LogCall → Value → Prop
  | number {environment : Option String} {level : Value} {console : Option Nat} {n : Int}
      (hlevel : level.integer? = some n) : Sets ⟨environment, level, console⟩ level
  | name {environment : Option String} {s : String} {console : Option Nat} {n : Int}
      (hname : (s, n) ∈ LogSetup.levelNames) : Sets ⟨environment, .text s, console⟩ (.int n)
  | development {environment : Option String} {console : Option Nat}
      (hflag : Flag.development ∈ Environment.flags environment) :
      Sets ⟨environment, .unset, console⟩ (.int 10)
  | production {environment : Option String} {console : Option Nat}
      (hflag : Flag.development ∉ Environment.flags environment) :
      Sets ⟨environment, .unset, console⟩ (.int 20)

/-- A call with a valid level. -/
def LogCall.IsValid (c : LogCall) : Prop :=
  ∃ level, c.Sets level

namespace LogSetup

/-- The log after a call, and how the call has ended. -/
def perform (s : LogSetup) (c : LogCall) : LogSetup × Except Refusal Unit :=
  s.configureOn c.environment c.level c.console

/-- The log after some calls, whether or not they were refused. -/
def after (s : LogSetup) (calls : List LogCall) : LogSetup :=
  calls.foldl (fun s c => (s.perform c).1) s

theorem after_cons (s : LogSetup) (c : LogCall) (rest : List LogCall) :
    s.after (c :: rest) = (s.perform c).1.after rest := rfl

theorem after_append (s : LogSetup) (before later : List LogCall) :
    s.after (before ++ later) = (s.after before).after later :=
  List.foldl_append

/-! ### The level of a call -/

theorem lookup_levelNames {s : String} {n : Int} :
    levelNames.lookup s = some n ↔ (s, n) ∈ levelNames := by
  constructor
  · intro h
    obtain ⟨front, back, hsplit, -⟩ := List.lookup_eq_some_iff.mp h
    simp [hsplit]
  · intro h
    have hall : ∀ e ∈ levelNames, levelNames.lookup e.1 = some e.2 := by decide
    exact hall _ h

theorem levelOf_eq_ok_iff {v level : Value} :
    levelOf v = .ok level ↔
      (∃ n, v.integer? = some n) ∧ level = v ∨
        ∃ s n, v = .text s ∧ (s, n) ∈ levelNames ∧ level = .int n := by
  simp only [← lookup_levelNames]
  unfold levelOf
  split
  · rename_i n hn
    constructor
    · intro h
      exact .inl ⟨⟨n, hn⟩, (Except.ok.inj h).symm⟩
    · rintro (⟨-, rfl⟩ | ⟨s, -, rfl, -⟩)
      · rfl
      · cases hn
  · rename_i s hs
    cases hlookup : levelNames.lookup s with
    | some n => simp [Value.integer?, hlookup, eq_comm]
    | none => simp [Value.integer?, hlookup]
  · rename_i hnotText hinteger
    constructor
    · exact nofun
    · rintro (⟨⟨n, hn⟩, -⟩ | ⟨s, n, rfl, -⟩)
      · rw [hinteger] at hn
        cases hn
      · exact (hnotText s rfl).elim

theorem standardLevel_eq (environment : Option String) :
    standardLevel environment =
      .int (if Flag.development ∈ Environment.flags environment then 10 else 20) := by
  simp [standardLevel, Environment.isDevelopment]

/-- The level of a call is what its argument, or the environment in its place, stands for. -/
theorem sets_iff {c : LogCall} {level : Value} :
    c.Sets level ↔ levelOf (c.level.orElse (standardLevel c.environment)) = .ok level := by
  obtain ⟨environment, given, console⟩ := c
  cases hunset : given.isUnset with
  | true =>
    obtain rfl : given = .unset := by cases given <;> first | rfl | cases hunset
    have hstandard : Value.unset.orElse (standardLevel environment) =
        .int (if Flag.development ∈ Environment.flags environment then 10 else 20) :=
      standardLevel_eq environment
    rw [hstandard]
    constructor
    · intro h
      cases h with
      | number hlevel => cases hlevel
      | development hflag => rw [if_pos hflag]; rfl
      | production hflag => rw [if_neg hflag]; rfl
    · intro h
      cases h
      split
      · rename_i hflag
        exact .development hflag
      · rename_i hflag
        exact .production hflag
  | false =>
    have hgiven : given.orElse (standardLevel environment) = given := by
      simp [Value.orElse, hunset]
    rw [hgiven, levelOf_eq_ok_iff]
    constructor
    · intro h
      cases h with
      | number hlevel => exact .inl ⟨⟨_, hlevel⟩, rfl⟩
      | name hname => exact .inr ⟨_, _, rfl, hname, rfl⟩
      | development | production => cases hunset
    · rintro (⟨⟨n, hn⟩, rfl⟩ | ⟨s, n, rfl, hname, rfl⟩)
      · exact .number hn
      · exact .name hname

/-! ### One call -/

section Calls

variable (s : LogSetup) {c : LogCall}

/-- A call with a valid level sets it, and puts a handler on its console if none is on one. -/
theorem perform_of_sets {level : Value} (h : c.Sets level) :
    s.perform c =
      (({ s with level := level } : LogSetup).attach (.ofGiven c.console), .ok ()) := by
  rw [perform, configureOn, sets_iff.mp h]

/-- A call with an invalid level is refused and changes nothing. -/
theorem perform_of_not_isValid (h : ¬ c.IsValid) : ∃ r, s.perform c = (s, .error r) := by
  cases hlevel : levelOf (c.level.orElse (standardLevel c.environment)) with
  | ok level => exact absurd ⟨level, sets_iff.mpr hlevel⟩ h
  | error r => exact ⟨r, by rw [perform, configureOn, hlevel]⟩

theorem perform_eq_ok_iff : (s.perform c).2 = .ok () ↔ c.IsValid := by
  constructor
  · intro h
    by_contra hvalid
    obtain ⟨r, hr⟩ := s.perform_of_not_isValid hvalid
    rw [hr] at h
    cases h
  · rintro ⟨level, h⟩
    rw [s.perform_of_sets h]

theorem any_console_iff : (s.attached.any fun h => h.console?.isSome) = true ↔ s.consoles ≠ [] := by
  simp [consoles, Option.isSome_iff_exists, Option.eq_none_iff_forall_ne_some]

theorem level_attach (target : LogConsole) : (s.attach target).level = s.level := by
  unfold attach
  split <;> rfl

variable {s}

theorem attach_of_ne_nil (h : s.consoles ≠ []) (target : LogConsole) : s.attach target = s := by
  rw [attach, if_pos (s.any_console_iff.mpr h)]

theorem attached_attach_of_eq_nil (h : s.consoles = []) (target : LogConsole) :
    (s.attach target).attached = s.attached ++ [.console target recordFormat] := by
  rw [attach, if_neg fun hany => s.any_console_iff.mp hany h]

/-! ### Several calls -/

theorem after_of_forall_not_isValid {calls : List LogCall} (h : ∀ c ∈ calls, ¬ c.IsValid) :
    s.after calls = s := by
  induction calls with
  | nil => rfl
  | cons c rest ih =>
    obtain ⟨hc, hrest⟩ := List.forall_mem_cons.mp h
    obtain ⟨r, hr⟩ := s.perform_of_not_isValid hc
    rw [after_cons, hr]
    exact ih hrest

/-- A handler that is on a console keeps all later ones away. -/
theorem attached_after (h : s.consoles ≠ []) (calls : List LogCall) :
    (s.after calls).attached = s.attached := by
  induction calls generalizing s with
  | nil => rfl
  | cons c rest ih =>
    rw [after_cons]
    by_cases hvalid : c.IsValid
    case pos =>
      obtain ⟨level, hlevel⟩ := hvalid
      have hconsoles : ({ s with level := level } : LogSetup).consoles ≠ [] := h
      rw [s.perform_of_sets hlevel, attach_of_ne_nil hconsoles]
      exact ih hconsoles
    case neg =>
      obtain ⟨r, hr⟩ := s.perform_of_not_isValid hvalid
      rw [hr]
      exact ih h

/-- The first valid call puts the only handler on a console there. -/
theorem attached_after_first (h : s.consoles = []) {before later : List LogCall} {first : LogCall}
    (hbefore : ∀ c ∈ before, ¬ c.IsValid) (hfirst : first.IsValid) :
    (s.after (before ++ first :: later)).attached =
      s.attached ++ [.console (.ofGiven first.console) recordFormat] := by
  obtain ⟨level, hlevel⟩ := hfirst
  rw [after_append, after_of_forall_not_isValid hbefore, after_cons, s.perform_of_sets hlevel]
  have hattached := attached_attach_of_eq_nil (s := { s with level := level }) h
    (.ofGiven first.console)
  rw [attached_after, hattached]
  rw [consoles, hattached]
  simp [LogHandler.console?]

/-- The last valid call sets the level. -/
theorem level_after_last {before later : List LogCall} {last : LogCall} {level : Value}
    (hlast : last.Sets level) (hlater : ∀ c ∈ later, ¬ c.IsValid) :
    (s.after (before ++ last :: later)).level = level := by
  rw [after_append, after_cons, (s.after before).perform_of_sets hlast,
    after_of_forall_not_isValid hlater, level_attach]

end Calls

/-- What some calls make of a log without a handler on a console.  Those with an invalid level are
refused and change nothing; of the others the first one puts the only handler on a console there,
and the last one sets the level. -/
structure IsSetUpBy (s : LogSetup) (calls : List LogCall) : Prop where
  succeeds : ∀ before c later, calls = before ++ c :: later →
    (((s.after before).perform c).2 = .ok () ↔ c.IsValid)
  refused : ∀ before c later, calls = before ++ c :: later → ¬ c.IsValid →
    ∃ r, (s.after before).perform c = (s.after before, .error r)
  untouched : (∀ c ∈ calls, ¬ c.IsValid) → s.after calls = s
  attached : ∀ before first later, calls = before ++ first :: later →
    (∀ c ∈ before, ¬ c.IsValid) → first.IsValid →
      (s.after calls).attached = s.attached ++ [.console (.ofGiven first.console) recordFormat] ∧
        (s.after calls).consoles = [.ofGiven first.console]
  level : ∀ before last later level, calls = before ++ last :: later → last.Sets level →
    (∀ c ∈ later, ¬ c.IsValid) → (s.after calls).level = level

/-- A log is set up on the console of the first valid call, and has the level of the last one. -/
theorem set_up_keeps_first_console (s : LogSetup) (hs : s.consoles = []) (calls : List LogCall) :
    s.IsSetUpBy calls where
  succeeds before c later _ := (s.after before).perform_eq_ok_iff
  refused before c later _ hc := (s.after before).perform_of_not_isValid hc
  untouched := after_of_forall_not_isValid
  attached before first later hcalls hbefore hfirst := by
    subst hcalls
    have hattached : (s.after (before ++ first :: later)).attached = _ :=
      attached_after_first hs hbefore hfirst
    refine ⟨hattached, ?_⟩
    rw [consoles, hattached, List.filterMap_append]
    exact congrArg (· ++ [LogConsole.ofGiven first.console]) hs
  level before last later level hcalls hlast hlater := by
    subst hcalls
    exact level_after_last hlast hlater

/-- The second of four calls is the first valid one and the third is the last; the log also writes
to a file. -/
theorem set_up_keeps_first_console_file :
    let s : LogSetup := ⟨.int 0, [.other "file"]⟩
    let loud : LogCall := ⟨none, .text "LOUD", some 7⟩
    let developing : LogCall := ⟨some "Development", .unset, some 1⟩
    let quiet : LogCall := ⟨none, .text "WARNING", none⟩
    let nameless : LogCall := ⟨none, .null, some 2⟩
    let calls := [loud, developing, quiet, nameless]
    s.consoles = [] ∧ s.IsSetUpBy calls ∧
      (s.after calls).attached = [.other "file", .console (.own 1) recordFormat] ∧
      (s.after calls).consoles = [.own 1] ∧ (s.after calls).level = .int 30 := by
  intro s loud developing quiet nameless calls
  have hloud : ¬ loud.IsValid := fun ⟨level, h⟩ => nomatch sets_iff.mp h
  have hnameless : ¬ nameless.IsValid := fun ⟨level, h⟩ => nomatch sets_iff.mp h
  have hdeveloping : developing.Sets (.int 10) := .development (by decide +kernel)
  have hquiet : quiet.Sets (.int 30) := .name (by decide)
  have hs : s.consoles = [] := rfl
  have hcalls := set_up_keeps_first_console s hs calls
  obtain ⟨hattached, hconsoles⟩ := hcalls.attached [loud] developing [quiet, nameless] rfl
    (List.forall_mem_singleton.mpr hloud) ⟨_, hdeveloping⟩
  exact ⟨hs, hcalls, hattached, hconsoles, hcalls.level [loud, developing] quiet [nameless] _ rfl
    hquiet (List.forall_mem_singleton.mpr hnameless)⟩

end LogSetup

end ChatCommands
