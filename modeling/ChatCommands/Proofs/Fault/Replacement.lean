import ChatCommands.Fault.Stored
import ChatCommands.Locale.Source
import ChatCommands.Proofs.Fault.Trigger
import ChatCommands.Proofs.Value.Override

/-!
# Replacing the options of a fault

A fault has the options of its kind overridden by those that it was made with.  Replacing options
makes another fault of the kind, which overrides the defaults of the kind once more; this brings no
default back, since the options that are there already have been overridden.  So a fault that was
replaced any number of times has, under each name, what was given last.

In memory no map is changed by this: the fault that is replaced, the options given and the defaults
of the kinds stay what they are.

## Main definitions

* `Fault.AreOverrides` : options that a fault can be replaced with.
* `Fault.replaceEach` : a fault replaced again and again.
* `Fault.IsSurfacedBy` : how a run ends that surfaces a fault.

## Main results

* `Fault.replace_make` : a replaced fault is one made with all options at once.
* `Fault.replaceEach_make`, `Fault.option?_replaceEach` : what is left after many replacements.
* `StoredFault.run_replace` : what replacing a fault does in memory.
* `Fault.replacement_overrides` : the options of faults that are made, replaced and surfaced.
-/

namespace ChatCommands

namespace Memory

theorem run_find {m : Memory} {place : Nat} {entries : Entries} (h : m[place]? = some entries) :
    (find place).run m = pure (entries, m) := by
  simp [find, h]

/-- Overriding one map by another makes a new map behind those that are there. -/
theorem run_overridden {m : Memory} {base overrides : Nat} {x y : Entries}
    (hx : m[base]? = some x) (hy : m[overrides]? = some y) :
    (overridden base overrides).run m = pure (m.length, m ++ [x.union y]) := by
  simp only [overridden, StateT.run_bind, run_find hx, run_find hy, pure_bind]
  rfl

theorem getElem?_of_isPrefix {m m' : Memory} (h : m <+: m') {place : Nat} {entries : Entries}
    (hplace : m[place]? = some entries) : m'[place]? = some entries := by
  obtain ⟨rest, rfl⟩ := h
  exact (List.getElem?_append_left (List.getElem?_eq_some_iff.mp hplace).1).trans hplace

theorem getElem?_place {m : Memory} (h : opening <+: m) (kind : FaultKind) :
    m[kind.place]? = some kind.defaults :=
  getElem?_of_isPrefix h (by cases kind <;> rfl)

end Memory

namespace Fault

/-- Options that a fault can be replaced with: each name once, and none that is taken by the fault
itself. -/
structure AreOverrides (options : Entries) : Prop where
  nodup : options.keys.Nodup
  receiver : namesReceiver options = false

theorem AreOverrides.union {a b : Entries} (ha : AreOverrides a) (hb : AreOverrides b) :
    AreOverrides (a.union b) where
  nodup := Entries.nodup_keys_union ha.nodup b
  receiver := by
    have ha := ha.receiver
    have hb := hb.receiver
    simp only [namesReceiver, List.any_eq_false] at ha hb ⊢
    exact fun e he => (Entries.mem_union he).elim (ha e) (hb e)

theorem nodup_defaults (kind : FaultKind) : kind.defaults.keys.Nodup := by
  cases kind <;> decide

section Replacement

variable (kind : FaultKind) (message : Option String) {o a : Entries}

theorem isOverridden_make (ho : o.keys.Nodup) :
    Entries.IsOverridden kind.defaults o (make kind message o).options :=
  Entries.isOverridden_union ho kind.defaults

/-- A fault that is replaced is one that is made with the options of both at once. -/
theorem replace_make (ho : o.keys.Nodup) (ha : a.keys.Nodup) :
    (make kind message o).replace a = make kind message (o.union a) := by
  have hall : (o.union a).keys.Nodup := Entries.nodup_keys_union ho a
  calc (make kind message o).replace a
      = make kind message ((kind.defaults.union o).union a) := rfl
    _ = make kind message (kind.defaults.union (o.union a)) := by
        rw [Entries.union_assoc (nodup_defaults kind) ho ha]
    _ = make kind message (o.union a) := by
        rw [make, make, Entries.union_union_self (nodup_defaults kind) hall]

/-- Replacing does not bring a default back. -/
theorem options_replace_make (ho : o.keys.Nodup) (ha : a.keys.Nodup) :
    ((make kind message o).replace a).options = (make kind message o).options.union a := by
  rw [replace_make kind message ho ha, make, make, Entries.union_assoc (nodup_defaults kind) ho ha]

theorem replaceWith_nil (ha : AreOverrides a) (f : Fault) :
    f.replaceWith [] a = .ok (f.replace a) := by
  rw [replaceWith, ha.receiver]
  rfl

/-! ### Many replacements -/

/-- A fault replaced again and again. -/
def replaceEach (f : Fault) (steps : List Entries) : Except Refusal Fault :=
  steps.foldlM (fun g step => g.replaceWith [] step) f

theorem nodup_foldl_union {steps : List Entries} (ho : o.keys.Nodup) :
    (steps.foldl Entries.union o).keys.Nodup := by
  induction steps generalizing o with
  | nil => exact ho
  | cons step rest ih => exact ih (Entries.nodup_keys_union ho step)

/-- A fault that is replaced again and again is one that is made with the options of all steps. -/
theorem replaceEach_make {steps : List Entries} (ho : o.keys.Nodup)
    (hsteps : ∀ step ∈ steps, AreOverrides step) :
    (make kind message o).replaceEach steps =
      .ok (make kind message (steps.foldl Entries.union o)) := by
  induction steps generalizing o with
  | nil => rfl
  | cons step rest ih =>
    obtain ⟨hstep, hrest⟩ := List.forall_mem_cons.mp hsteps
    rw [replaceEach, List.foldlM_cons, replaceWith_nil hstep,
      replace_make kind message ho hstep.nodup]
    exact ih (Entries.nodup_keys_union ho step) hrest

theorem lookup_foldl_union {steps : List Entries} (hsteps : ∀ step ∈ steps, step.keys.Nodup)
    (o : Entries) (name : String) :
    (steps.foldl Entries.union o).lookup name =
      ((o :: steps).reverse.findSome? fun step => step.lookup name) := by
  induction steps generalizing o with
  | nil => simp
  | cons step rest ih =>
    obtain ⟨hstep, hrest⟩ := List.forall_mem_cons.mp hsteps
    rw [List.foldl_cons, ih hrest]
    simp only [List.reverse_cons, List.append_assoc, List.findSome?_append,
      List.findSome?_singleton, Entries.lookup_union hstep]

/-- Under a name is what was given last, and the default only where nothing was given. -/
theorem option?_replaceEach {steps : List Entries} (ho : o.keys.Nodup)
    (hsteps : ∀ step ∈ steps, AreOverrides step) (name : String) :
    (make kind message (steps.foldl Entries.union o)).option? name =
      ((o :: steps).reverse.findSome? fun step => step.lookup name).or
        (kind.defaults.lookup name) := by
  rw [option?, (isOverridden_make kind message (nodup_foldl_union ho)).lookup,
    lookup_foldl_union fun step hstep => (hsteps step hstep).nodup]

/-! ### Surfacing -/

/-- How a run ends that surfaces a fault: its one reply is the rendered one, but a fault that cannot
be shown on the console of the host is not answered. -/
structure IsSurfacedBy (h : Host) (l : Locale) (f : Fault) (r : Run Unit) : Prop where
  replies : ∀ text, (f.render l).outcome = .ok text →
    (r.replies = [text] ↔ ¬ f.IsUnshowable h) ∧ (r.outcome = .ok () ↔ ¬ f.IsUnshowable h)
  unrendered : ∀ e, (f.render l).outcome = .error e → ¬ f.IsUnshowable h →
    r.replies = [] ∧ r.outcome = .error e
  unshowable : f.IsUnshowable h →
    r.replies = [] ∧ ∃ type, r.outcome = .error (.misuse (.noAttribute type "normalize"))

/-- A fault is surfaced by the rendered reply to what replaces it. -/
theorem isSurfacedBy_trigger (h : Host) (l : Locale) (f : Fault) (options : Entries) :
    IsSurfacedBy h l (f.replace options) (f.trigger h l options) where
  replies text htext := by
    have hshowable : ¬ (f.replace options).IsUnshowable h →
        (f.trigger h l options).replies = [text] ∧ (f.trigger h l options).outcome = .ok () := by
      intro hf
      have hanswer := (outcome_answer_of_not_isUnshowable h l f options hf).trans htext
      exact ⟨replies_trigger_of_answer h l f options hanswer,
        outcome_trigger h l f options hanswer⟩
    have hunshowable : (f.replace options).IsUnshowable h →
        (f.trigger h l options).replies ≠ [text] ∧ (f.trigger h l options).outcome ≠ .ok () := by
      intro hf
      obtain ⟨type, hanswer⟩ := outcome_answer_of_isUnshowable h l f options hf
      obtain ⟨hreplies, houtcome⟩ := trigger_of_answer_error h l f options hanswer
      rw [hreplies, houtcome]
      exact ⟨(List.cons_ne_nil text []).symm, nofun⟩
    exact ⟨⟨fun hreplies hf => (hunshowable hf).1 hreplies, fun hf => (hshowable hf).1⟩,
      fun houtcome hf => (hunshowable hf).2 houtcome, fun hf => (hshowable hf).2⟩
  unrendered e he hf :=
    trigger_of_answer_error h l f options
      ((outcome_answer_of_not_isUnshowable h l f options hf).trans he)
  unshowable hf := by
    obtain ⟨type, hanswer⟩ := outcome_answer_of_isUnshowable h l f options hf
    obtain ⟨hreplies, houtcome⟩ := trigger_of_answer_error h l f options hanswer
    exact ⟨hreplies, type, houtcome⟩

/-- Surfacing a fault with options is surfacing the replaced fault. -/
theorem trigger_subject (h : Host) (l : Locale) (ha : AreOverrides a) (f : Fault) :
    (Subject.fault f).trigger h l a = (f.replace a).trigger h l [] := by
  rw [Subject.trigger, replaceWith_nil ha]
  rfl

end Replacement

end Fault

/-! ### In memory -/

namespace StoredFault

variable {m : Memory} {place : Nat} {o a : Entries}

/-- Making a fault makes its map of options and changes none. -/
theorem run_make (kind : FaultKind) (message : Option String) (hopening : Memory.opening <+: m)
    (hplace : m[place]? = some o) :
    ∃ stored m', (make kind message place).run m = (stored, m') ∧
      stored.fault? m' = some (Fault.make kind message o) ∧ m <+: m' := by
  have hkind := Memory.getElem?_place hopening kind
  refine ⟨⟨kind, message, m.length⟩, m ++ [kind.defaults.union o], ?_, ?_,
    List.prefix_append m _⟩
  · simp only [make, StateT.run_bind, Memory.run_overridden hkind hplace, pure_bind]
    rfl
  · simp [fault?, Fault.make]

/-- Replacing a fault makes new maps and changes none, so that the fault itself stays as it is. -/
theorem run_replace {stored : StoredFault} {f : Fault} (hopening : Memory.opening <+: m)
    (hstored : stored.fault? m = some f) (hplace : m[place]? = some a) :
    ∃ stored' m', (stored.replace place).run m = (stored', m') ∧
      stored'.fault? m' = some (f.replace a) ∧ stored.fault? m' = some f ∧ m <+: m' := by
  obtain ⟨options, hoptions, rfl⟩ := Option.map_eq_some_iff.mp hstored
  have hmerged : (m ++ [options.union a])[m.length]? = some (options.union a) := by simp
  obtain ⟨stored', m', hmake, hfault, hprefix⟩ := run_make stored.kind stored.message
    (hopening.trans (List.prefix_append m [options.union a])) hmerged
  have hall : m <+: m' := (List.prefix_append m _).trans hprefix
  refine ⟨stored', m', ?_, hfault, ?_, hall⟩
  · simp only [replace, StateT.run_bind, Memory.run_overridden hoptions hplace, pure_bind]
    exact hmake
  · rw [fault?, Memory.getElem?_of_isPrefix hall hoptions]
    rfl

end StoredFault

namespace Fault

/-- A fault that replaces another one with options given: it differs in those, and in memory the
other one stays as it is. -/
structure IsReplacedBy (f : Fault) (a : Entries) (g : Fault) : Prop where
  given : f.replaceWith [] a = .ok g
  kind : g.kind = f.kind
  message : g.message = f.message
  options : f.options.IsOverridden a g.options
  memory : ∀ (m : Memory) (stored : StoredFault) (place : Nat), Memory.opening <+: m →
    stored.fault? m = some f → m[place]? = some a →
      ∃ stored' m', (stored.replace place).run m = (stored', m') ∧
        stored'.fault? m' = some g ∧ stored.fault? m' = some f ∧ m <+: m'

theorem isReplacedBy_make (kind : FaultKind) (message : Option String) {o a : Entries}
    (ho : o.keys.Nodup) (ha : AreOverrides a) :
    (make kind message o).IsReplacedBy a (make kind message (o.union a)) := by
  have hreplace := replace_make kind message ho ha.nodup
  have hoptions := options_replace_make kind message ho ha.nodup
  rw [← hreplace]
  exact
    { given := replaceWith_nil ha _
      kind := rfl
      message := rfl
      options := hoptions ▸ Entries.isOverridden_union ha.nodup _
      memory := fun _ _ _ hopening hstored hplace =>
        StoredFault.run_replace hopening hstored hplace }

/-- The options of a fault are the defaults of its kind, overridden by those that it is made with
and then by those of every replacement.  A replacement leaves the fault alone, two of them are one
with the options of both, and surfacing a fault with options surfaces the replacement. -/
theorem replacement_overrides (kind : FaultKind) (message : Option String) {o a b : Entries}
    (ho : o.keys.Nodup) (ha : AreOverrides a) (hb : AreOverrides b) (h : Host) (l : Locale) :
    let f := make kind message o
    (ofValues kind f.messageValue o = .ok f ∧ f.kind = kind ∧ f.message = message ∧
        kind.defaults.IsOverridden o f.options) ∧
      (∃ g, f.IsReplacedBy a g ∧ IsSurfacedBy h l g ((Subject.fault f).trigger h l a) ∧
        a.IsOverridden b (a.union b) ∧
        ∃ g', g.IsReplacedBy b g' ∧ f.IsReplacedBy (a.union b) g') ∧
      ∀ steps : List Entries, (∀ step ∈ steps, AreOverrides step) →
        ∃ g, f.replaceEach steps = .ok g ∧ g.kind = kind ∧ g.message = message ∧
          ∀ name, g.option? name =
            ((o :: steps).reverse.findSome? fun step => step.lookup name).or
              (kind.defaults.lookup name) := by
  have hoa : (o.union a).keys.Nodup := Entries.nodup_keys_union ho a
  have hunion : o.union (a.union b) = (o.union a).union b :=
    (Entries.union_assoc ho ha.nodup hb.nodup).symm
  intro f
  -- Surfacing replaces once more, by nothing, which changes nothing.
  have hagain : (f.replace a).replace [] = make kind message (o.union a) := by
    rw [replace_make kind message ho ha.nodup]
    exact replace_make kind message hoa List.nodup_nil
  have hsurfaced := isSurfacedBy_trigger h l (f.replace a) []
  rw [← trigger_subject h l ha, hagain] at hsurfaced
  have hmade : ofValues kind f.messageValue o = .ok f := by cases message <;> rfl
  exact ⟨⟨hmade, rfl, rfl, isOverridden_make kind message ho⟩,
    ⟨_, isReplacedBy_make kind message ho ha, hsurfaced, Entries.isOverridden_union hb.nodup a,
      _, isReplacedBy_make kind message hoa hb,
      hunion ▸ isReplacedBy_make kind message ho (ha.union hb)⟩,
    fun steps hsteps => ⟨_, replaceEach_make kind message ho hsteps, rfl, rfl,
      option?_replaceEach kind message ho hsteps⟩⟩

/-- A shop labels a fault in its own way.  A host in development does not answer it, a host in
production does; with a code of the engine in place of the label it is answered by either. -/
theorem replacement_overrides_shop :
    let label : Entries := [("code", .text "SHOP-7")]
    let title : Entries := [("title", .text "shop")]
    let code : Entries := [("code", .code .guardRejected)]
    let f := make .plain (some "sold out") label
    let developing : Host := { Host.bare with environment := some "development" }
    label.keys.Nodup ∧ AreOverrides title ∧ AreOverrides code ∧
      ((Subject.fault f).trigger developing Locale.english title).replies = [] ∧
      ((Subject.fault f).trigger Host.bare Locale.english title).replies = ["sold out"] ∧
      ((Subject.fault f).trigger developing Locale.english code).replies = ["sold out"] ∧
      ∃ g, f.replaceEach [title, code] = .ok g ∧
        g.option? "code" = some (.code .guardRejected) := by
  intro label title code f developing
  have hlabel : label.keys.Nodup := by decide
  have htitle : AreOverrides title := ⟨by decide, by decide⟩
  have hcode : AreOverrides code := ⟨by decide, by decide⟩
  obtain ⟨-, ⟨g, hg, hdeveloping, -⟩, heach⟩ := replacement_overrides .plain (some "sold out")
    hlabel htitle hcode developing Locale.english
  obtain ⟨-, ⟨g', hg', hproduction, -⟩, -⟩ := replacement_overrides .plain (some "sold out")
    hlabel htitle hcode Host.bare Locale.english
  obtain ⟨-, ⟨g'', hg'', hcoded, -⟩, -⟩ := replacement_overrides .plain (some "sold out")
    hlabel hcode htitle developing Locale.english
  obtain rfl := Except.ok.inj (hg.given.symm.trans (replaceWith_nil htitle f))
  obtain rfl := Except.ok.inj (hg'.given.symm.trans (replaceWith_nil htitle f))
  obtain rfl := Except.ok.inj (hg''.given.symm.trans (replaceWith_nil hcode f))
  have hforeign : (f.replace title).HasForeignCode := ⟨.text "SHOP-7", rfl, rfl, nofun⟩
  have hdevelopment : developing.isDevelopment = true := by decide +kernel
  have hbare : ¬ Host.bare.isDevelopment = true := by decide +kernel
  refine ⟨hlabel, htitle, hcode, (hdeveloping.unshowable ⟨hdevelopment, hforeign⟩).1,
    ((hproduction.replies "sold out" rfl).1).mpr fun hf => hbare hf.1,
    ((hcoded.replies "sold out" rfl).1).mpr (not_isUnshowable_of_code developing _ rfl), ?_⟩
  obtain ⟨g, heach, -, -, hoption⟩ := heach [title, code] (by simp [htitle, hcode])
  exact ⟨g, heach, hoption "code"⟩

end Fault

end ChatCommands
