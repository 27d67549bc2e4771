import ChatCommands.Proofs.Dispatch.Revision
import Mathlib.Data.List.Forall2

/-!
# The standpoint of a view

A view is a position in the data of a locale.  What the engine itself asks of a view, it asks of the
data: the common section and the listings are read from the root, wherever the view stands.  So two
dispatches that start with views of the same data run alike.  All that differs is where the views
stand that guards and handlers are called with, since the sections of the commands of a path are
looked for below the view that the dispatch starts with.

A name that is no text and cannot be a key is refused when it is looked up in a section, and it is
looked up only if there is a section at the view.  For such a name the standpoint matters, so that
the names of a tree are asked to be ones that can be looked up; texts can.

## Main definitions

* `Run.Matches` : two runs with related events that end alike.
* `Event.DiffersInPlace`, `Call.DiffersInPlace` : reports of calls, and calls, that differ at most
  in where a view stands.
* `AreLookedUp` : names of a tree that can be looked up.
* `AreBlind` : callables of a tree that do the same wherever their view stands.

## Main results

* `Run.Matches.bind` : runs that match, one after another.
* `AreBlind.matches_dispatchFrom` : dispatches that differ in their standpoint match.
* `dispatch_ignores_standpoint` : what such dispatches have in common, and what they have not.
-/

namespace ChatCommands

/-! ### Runs that match -/

/-- Two runs end alike, and their events are related one by one. -/
structure Run.Matches {α : Type} (R : Event → Event → Prop) (r r' : Run α) : Prop where
  outcome : r.outcome = r'.outcome
  events : List.Forall₂ R r.events r'.events

namespace Run.Matches

variable {α β : Type} {R : Event → Event → Prop}

theorem refl (hR : ∀ e, R e e) (r : Run α) : r.Matches R r :=
  ⟨rfl, List.forall₂_same.mpr fun e _ => hR e⟩

/-- What follows on runs that match counts only for the value that both end with. -/
theorem bind {r r' : Run α} {f g : α → Run β} (h : r.Matches R r')
    (hnext : ∀ a, r.outcome = .ok a → (f a).Matches R (g a)) :
    (r >>= f).Matches R (r' >>= g) := by
  cases hr : r.outcome with
  | error e =>
    have hr' : r'.outcome = .error e := h.outcome ▸ hr
    rw [bind_of_error hr, bind_of_error hr']
    exact ⟨rfl, h.events⟩
  | ok a =>
    have hr' : r'.outcome = .ok a := h.outcome ▸ hr
    rw [bind_of_ok hr, bind_of_ok hr']
    exact ⟨(hnext a hr).outcome, List.rel_append h.events (hnext a hr).events⟩

theorem mapError {r r' : Run α} (h : r.Matches R r') (f : Error → Error) :
    (r.mapError f).Matches R (r'.mapError f) :=
  ⟨congrArg (Except.mapError f) h.outcome, h.events⟩

/-- What is read off related events alike is the same for runs that match. -/
theorem filterMap_eq {r r' : Run α} (h : r.Matches R r') {read : Event → Option β}
    (hread : ∀ e e', R e e' → read e = read e') :
    r.events.filterMap read = r'.events.filterMap read := by
  have hevents := h.events
  generalize r.events = events, r'.events = events' at hevents
  induction hevents with
  | nil => rfl
  | cons he _ ih => rw [List.filterMap_cons, List.filterMap_cons, hread _ _ he, ih]

end Run.Matches

/-! ### Differences in place -/

/-- Two events are the same, or they report calls that differ in where the view stands. -/
inductive Event.DiffersInPlace : Event → Event → Prop
  | refl (e : Event) : DiffersInPlace e e
  | call (label path path' : String) (args : List Value) :
      DiffersInPlace (.call label path args) (.call label path' args)

/-- Two calls differ at most in where their views of the same data stand. -/
structure Call.DiffersInPlace (c c' : Call) : Prop where
  callee : c.callee = c'.callee
  data : c.view.data = c'.view.data
  args : c.args = c'.args

/-- Two events are the same, or they mark calls that differ in where the view stands. -/
inductive Event.MarksInPlace : Event → Event → Prop
  | refl (e : Event) : MarksInPlace e e
  | mark {c c' : Call} (h : c.DiffersInPlace c') : MarksInPlace c.mark c'.mark

theorem Event.DiffersInPlace.reply?_eq {e e' : Event} (h : e.DiffersInPlace e') :
    e.reply? = e'.reply? := by
  cases h <;> rfl

/-- The record that an event leaves. -/
def Event.record? : Event → Option Event
  | .log level source text => some (.log level source text)
  | .console shown => some (.console shown)
  | _ => none

theorem Event.DiffersInPlace.record?_eq {e e' : Event} (h : e.DiffersInPlace e') :
    e.record? = e'.record? := by
  cases h <;> rfl

theorem Event.MarksInPlace.rel_call? {e e' : Event} (h : e.MarksInPlace e') :
    Option.Rel Call.DiffersInPlace e.call? e'.call? := by
  cases h with
  | refl =>
    cases e.call? with
    | none => exact .none
    | some c => exact .some ⟨rfl, rfl, rfl⟩
  | mark h =>
    rw [Event.call?_mark, Event.call?_mark]
    exact .some h

/-! ### The engine's own replies -/

section Own

variable {l l' : Locale} (hdata : l.data = l'.data)

include hdata

theorem Fault.trigger_eq_of_data_eq (h : Host) (f : Fault) (options : Entries) :
    f.trigger h l options = f.trigger h l' options := by
  obtain ⟨data, path⟩ := l
  obtain ⟨data', path'⟩ := l'
  cases hdata
  rfl

theorem blocks_eq_of_data_eq (E : Engine) (m : Message) (c : Command) :
    blocks E m l c = blocks E m l' c := by
  obtain ⟨data, path⟩ := l
  obtain ⟨data', path'⟩ := l'
  cases hdata
  rfl

end Own

theorem Locale.data_of_viewAt? {l v : Locale} {path : List String} (h : l.viewAt? path = some v) :
    v.data = l.data := by
  rw [(viewAt?_eq_some_iff.mp h).2]

/-- A command whose name can be looked up is handed a view of the same data. -/
theorem exists_viewFor {c : Command} (hname : c.name.hashable = .ok ()) (l : Locale)
    (narrows : Bool) :
    ∃ view narrowed, viewFor l narrows c = .ok (view, narrowed) ∧ view.data = l.data := by
  have hsection : ∃ found, l.sectionOf? c.name = .ok found ∧ ∀ v, found = some v →
      v.data = l.data := by
    unfold Locale.sectionOf?
    split
    · exact ⟨_, rfl, fun v hv => Locale.data_of_viewAt? hv⟩
    · split
      · rw [hname]
        exact ⟨none, rfl, nofun⟩
      · exact ⟨none, rfl, nofun⟩
  obtain ⟨found, hfound, hdata⟩ := hsection
  cases narrows with
  | false => exact ⟨l, false, rfl, rfl⟩
  | true =>
    simp only [viewFor, if_true, hfound]
    cases found with
    | none => exact ⟨l, false, rfl, rfl⟩
    | some v => exact ⟨v, true, rfl, hdata v rfl⟩

/-! ### Callables that are blind for the standpoint -/

/-- The names of a tree can be looked up. -/
def AreLookedUp (siblings : Value) : Prop :=
  ∀ c ∈ nodes siblings, c.name.hashable = .ok ()

/-- Names that are texts can. -/
theorem areLookedUp_of_isForest {siblings : Value} (h : IsForest siblings) :
    AreLookedUp siblings := by
  intro c hc
  obtain ⟨s, hs⟩ := Value.eq_text_of_isText (h.named c hc)
  rw [hs]
  rfl

/-- The guards and the handlers of a tree do the same wherever their view of some data stands, up
to related events. -/
def AreBlind (R : Event → Event → Prop) (E : Engine) (m : Message) (config : GuildConfig)
    (siblings : Value) : Prop :=
  ∀ c ∈ nodes siblings, ∀ f, c.guard = .callable f ∨ c.handler = .callable f →
    ∀ (view view' : Locale) (args : List Value), view.data = view'.data →
      (E.invoke m config view f args).Matches R (E.invoke m config view' f args)

/-- Scripts that write no localized text are blind for the standpoint. -/
theorem ScriptOf.matches_perform {s : Script} (hs : s.formats = []) (view view' : Locale)
    (args : List Value) :
    (s.perform view args).Matches Event.DiffersInPlace (s.perform view' args) := by
  have hanswer : s.answer view args = s.answer view' args := by
    simp only [answer, hs, Run.forAll]
  have hcall : (Run.emit (.call s.label view.pathText args)).Matches Event.DiffersInPlace
      (Run.emit (.call s.label view'.pathText args)) :=
    ⟨rfl, .cons (.call _ _ _ _) .nil⟩
  unfold perform
  rw [hanswer]
  exact hcall.bind fun _ _ => .refl .refl _

namespace AreBlind

variable {R : Event → Event → Prop} {E : Engine} {m : Message} {config : GuildConfig}
  {siblings : Value}

theorem below (h : AreBlind R E m config siblings) {c : Command} (hc : c ∈ commandsIn siblings) :
    AreBlind R E m config c.subcommands :=
  fun d hd => h d (mem_nodes_below hc (List.mem_cons_of_mem c hd))

/-- Observed callables leave marks of calls that differ in where the view stands. -/
theorem observed (h : AreBlind R E m config siblings) :
    AreBlind Event.MarksInPlace E.observed m config siblings :=
  fun c hc f hf view view' args hdata =>
    ⟨(h c hc f hf view view' args hdata).outcome, .cons (.mark ⟨rfl, hdata, rfl⟩) .nil⟩

variable (hR : ∀ e, R e e) {c : Command} {view view' : Locale}

include hR

theorem matches_call (h : AreBlind R E m config siblings) (hc : c ∈ nodes siblings) {f : Value}
    (hf : f = c.guard ∨ f = c.handler) (hdata : view.data = view'.data) (args : List Value) :
    (E.call m config view f args).Matches R (E.call m config view' f args) := by
  cases f with
  | callable g => exact (h c hc g (hf.imp Eq.symm Eq.symm) view view' args hdata).mapError _
  | _ => exact .refl hR _

theorem matches_rejects (h : AreBlind R E m config siblings) (hc : c ∈ nodes siblings)
    (hdata : view.data = view'.data) :
    (rejects E m config view c).Matches R (rejects E m config view' c) := by
  unfold rejects
  split
  · exact .refl hR _
  · exact (h.matches_call hR hc (.inl rfl) hdata []).bind fun _ _ => .refl hR _

theorem matches_execute (h : AreBlind R E m config siblings) (hc : c ∈ nodes siblings)
    {l l' : Locale} (hl : l.data = l'.data) (hdata : view.data = view'.data) (rest : List Value) :
    (execute E m config l view c rest).Matches R (execute E m config l' view' c rest) := by
  unfold execute
  rw [Fault.trigger_eq_of_data_eq hl]
  split
  · exact .refl hR _
  · split
    · exact (Run.Matches.refl hR _).bind fun _ _ =>
        (h.matches_call hR hc (.inr rfl) hdata _).bind fun _ _ => .refl hR _
    · split
      · rw [Fault.trigger_eq_of_data_eq hl]
        exact .refl hR _
      · exact .refl hR _

/-- Dispatches that start with views of the same data match, wherever the views stand and whether
or not they may be narrowed. -/
theorem matches_dispatchFrom (h : AreBlind R E m config siblings) (hnames : AreLookedUp siblings)
    (tokens : List Value) {l l' : Locale} (hl : l.data = l'.data) (narrows narrows' : Bool) :
    (dispatchFrom E m config tokens siblings l narrows).Matches R
      (dispatchFrom E m config tokens siblings l' narrows') := by
  induction tokens generalizing siblings l l' narrows narrows' with
  | nil => exact .refl hR _
  | cons token rest ih =>
    rw [dispatchFrom, dispatchFrom]
    refine (Run.Matches.refl hR _).bind fun selected hselected => ?_
    cases selected with
    | none => exact .refl hR _
    | some c =>
      have hc : c ∈ commandsIn siblings :=
        mem_commandsIn_of_selectAmong (Value.checked_eq_ok_iff.mp hselected)
      have hmem : c ∈ nodes siblings := mem_nodes_of_mem_commandsIn hc
      obtain ⟨view, narrowed, hview, hdata⟩ := exists_viewFor (hnames c hmem) l narrows
      obtain ⟨view', narrowed', hview', hdata'⟩ := exists_viewFor (hnames c hmem) l' narrows'
      have hviews : view.data = view'.data := by rw [hdata, hdata', hl]
      dsimp only
      refine (Run.Matches.refl hR _).bind fun _ _ => ?_
      rw [blocks_eq_of_data_eq hl]
      refine (Run.Matches.refl hR _).bind fun isBlocked _ => ?_
      split
      · exact .refl hR _
      · rw [hview, hview', Run.ofExcept_checked_ok, Run.ofExcept_checked_ok, pure_bind, pure_bind]
        refine (h.matches_rejects hR hmem hviews).bind fun isRejected _ => ?_
        split
        · exact .refl hR _
        · have htail (handled : Bool) :
              (if handled then pure true
                else execute E m config l view c rest >>= fun _ => pure true : Run Bool).Matches R
              (if handled then pure true
                else execute E m config l' view' c rest >>= fun _ => pure true) := by
            split
            · exact .refl hR _
            · exact (h.matches_execute hR hmem hl hviews rest).bind fun _ _ => .refl hR _
          split
          · exact htail false
          · have hbelow : AreLookedUp c.subcommands := fun d hd =>
              hnames d (mem_nodes_below hc (List.mem_cons_of_mem c hd))
            exact (ih (h.below hc) hbelow hviews narrowed narrowed').bind
              fun handled _ => htail handled

theorem matches_dispatch (h : AreBlind R E m config siblings) (hnames : AreLookedUp siblings)
    (tokens : Value) {l l' : Locale} (hl : l.data = l'.data) :
    (dispatch E m config l tokens siblings).Matches R (dispatch E m config l' tokens siblings) :=
  (Run.Matches.refl hR _).bind fun items _ =>
    h.matches_dispatchFrom hR hnames items hl true true

end AreBlind

/-- The engine's replies do not depend on where the view stands.  Dispatches that start with two
views of the same data end alike, send the same replies and leave the same records, whether or not
there are sections at the views.  Their events are the same but for the positions that calls
report, and so are their calls of guards and handlers but for the positions of the views. -/
theorem dispatch_ignores_standpoint (E : Engine) (m : Message) (config : GuildConfig)
    {l l' : Locale} (hdata : l.data = l'.data) (tokens : Value) {siblings : Value}
    (hnames : AreLookedUp siblings) (hblind : AreBlind Event.DiffersInPlace E m config siblings) :
    let run := dispatch E m config l tokens siblings
    let run' := dispatch E m config l' tokens siblings
    run.outcome = run'.outcome ∧ run.replies = run'.replies ∧
    run.events.filterMap Event.record? = run'.events.filterMap Event.record? ∧
    List.Forall₂ Event.DiffersInPlace run.events run'.events ∧
    List.Forall₂ Call.DiffersInPlace (callsOf E m config l tokens siblings)
      (callsOf E m config l' tokens siblings) := by
  intro run run'
  have hruns : run.Matches Event.DiffersInPlace run' :=
    hblind.matches_dispatch .refl hnames tokens hdata
  have hmarks := hblind.observed.matches_dispatch .refl hnames tokens hdata
  exact ⟨hruns.outcome, hruns.filterMap_eq fun _ _ h => h.reply?_eq,
    hruns.filterMap_eq fun _ _ h => h.record?_eq, hruns.events,
    List.rel_filterMap (fun _ _ h => h.rel_call?) hmarks.events⟩

/-- A locale with a section for the moderation tree, seen from its root. -/
def signposted : Locale :=
  ⟨.map false [("commands", .map false [("mod", .map false [])])], []⟩

/-- The same locale, seen from where there is no section. -/
def astray : Locale :=
  ⟨signposted.data, ["nowhere"]⟩

/-- The moderator's `mod k ann` does the same from both. -/
theorem dispatch_ignores_standpoint_moderation :
    signposted.data = astray.data ∧ AreLookedUp (.list [.command moderation]) ∧
    AreBlind Event.DiffersInPlace scripted moderator ⟨true, none, "en"⟩
      (.list [.command moderation]) ∧
    List.Forall₂ Call.DiffersInPlace
      (callsOf scripted moderator ⟨true, none, "en"⟩ signposted
        (.list [.text "mod", .text "k", .text "ann"]) (.list [.command moderation]))
      (callsOf scripted moderator ⟨true, none, "en"⟩ astray
        (.list [.text "mod", .text "k", .text "ann"]) (.list [.command moderation])) := by
  have hnames : AreLookedUp (.list [.command moderation]) :=
    areLookedUp_of_isForest isForest_moderation
  have hblind : AreBlind Event.DiffersInPlace scripted moderator ⟨true, none, "en"⟩
      (.list [.command moderation]) := by
    intro c hc f hf view view' args _
    rw [nodes_moderation] at hc
    rcases List.mem_pair.mp hc with rfl | rfl
    · rcases hf with hf | hf
      · cases hf
        exact ScriptOf.matches_perform rfl view view' args
      · cases hf
    · rcases hf with hf | hf
      · cases hf
      · cases hf
        exact ScriptOf.matches_perform rfl view view' args
  have hdata : signposted.data = astray.data := rfl
  obtain ⟨-, -, -, -, hcalls⟩ := dispatch_ignores_standpoint scripted moderator ⟨true, none, "en"⟩
    hdata (.list [.text "mod", .text "k", .text "ann"]) hnames hblind
  exact ⟨hdata, hnames, hblind, hcalls⟩

end ChatCommands
