import ChatCommands.Locale.Question
import ChatCommands.Proofs.Locale.Lookup
import ChatCommands.Proofs.Run.Events
import ChatCommands.Proofs.Text.Dotted
import Mathlib.Logic.Relation

/-!
# Answers and misses

Every question reads the data at one path.  When a miss is an answer, nothing is logged; when it is
not, a miss is logged once and the answer falls back to the path.  A view that a miss has fallen
back to is empty for good: it has no texts, and no name leads from it to a section, while the
questions that read from the root are answered as they were.

## Main definitions

* `Lookup.pathIn`, `Lookup.found` : the path that a question reads, and what is there.
* `Lookup.missEvent`, `Lookup.fallback` : what is logged on a miss, and the answer in its place.
* `Locale.LeadsTo` : a question that is answered by a view.
* `Locale.IsVoid` : an empty view below the root.

## Main results

* `Locale.look_missable`, `Locale.look_of_found`, `Locale.look_of_missed` : the answers.
* `Locale.eq_of_leadsTo` : a view that is answered is at the path that the question reads.
* `Locale.IsVoid.leadsTo` : names lead from empty views to empty views.
* `Locale.misses_are_absorbed` : what a miss leaves behind.
-/

namespace ChatCommands

/-- Whether an answer says that there is none. -/
def Answer.IsMiss : Answer → Prop
  | .text s => s = none
  | .view l => l = none

namespace Lookup

/-- The path that a question reads. -/
def pathIn (q : Lookup) (l : Locale) (key : String) : List String :=
  match q with
  | .get => l.keyPath key
  | .common => Locale.commonPath key
  | .sublocale => Text.dotted key
  | .commandLocale => l.commandPath key

/-- What the data has at a path to answer a question with. -/
def found (q : Lookup) (l : Locale) (path : List String) : Answer :=
  match q with
  | .get | .common => .text (l.textAt? path)
  | .sublocale | .commandLocale => .view (l.viewAt? path)

/-- What a question asks for. -/
def subject (q : Lookup) : String :=
  match q with
  | .get | .common => "string"
  | .sublocale | .commandLocale => "section"

/-- The record of a miss names the dotted path. -/
def missEvent (q : Lookup) (path : List String) : Event :=
  .log .warning .locales ("missing locale " ++ q.subject ++ " " ++ Text.quote (Text.dot path))

/-- The answer in the place of one that is missing: the dotted path, or a view at the path. -/
def fallback (q : Lookup) (l : Locale) (path : List String) : Answer :=
  match q with
  | .get | .common => .text (some (Text.dot path))
  | .sublocale | .commandLocale => .view (some ⟨l.data, path⟩)

end Lookup

namespace Locale

variable {l v w : Locale} {q : Lookup} {key : String}

/-! ### The two modes -/

/-- When a miss is an answer, the answer is what is found. -/
theorem look_missable (l : Locale) (q : Lookup) (key : String) :
    l.look q (.text key) true = Run.done (q.found l (q.pathIn l key)) := by
  cases q <;> rfl

theorem sectionOf_text (l : Locale) (name : String) :
    l.sectionOf (.text name) = l.viewAt (l.commandPath name) := by
  have hsection : l.sectionOf? (.text name) = .ok (l.viewAt? (l.commandPath name)) := rfl
  rw [sectionOf, hsection, Run.ofExcept_checked_ok, viewAt]
  cases hview : l.viewAt? (l.commandPath name) with
  | some v => rfl
  | none =>
    change l.viewAt (l.commandPath name) = _
    rw [viewAt, hview]

/-- When a miss is no answer, a question for a text answers with one. -/
theorem look_text (hq : q.subject = "string") :
    l.look q (.text key) false =
      l.textAt (q.pathIn l key) >>= fun s => pure (.text (some s)) := by
  cases q with
  | get | common => rfl
  | sublocale | commandLocale => exact absurd hq (by decide)

/-- When a miss is no answer, a question for a section answers with a view. -/
theorem look_view (hq : q.subject = "section") :
    l.look q (.text key) false =
      l.viewAt (q.pathIn l key) >>= fun v => pure (.view (some v)) := by
  cases q with
  | get | common => exact absurd hq (by decide)
  | sublocale => rfl
  | commandLocale =>
    rw [look, if_neg Bool.false_ne_true, sectionOf_text]
    rfl

/-- What is found is the answer in either mode. -/
theorem look_of_found (h : ¬ (q.found l (q.pathIn l key)).IsMiss) :
    l.look q (.text key) false = Run.done (q.found l (q.pathIn l key)) := by
  cases q with
  | get | common =>
    rw [look_text rfl, textAt, Lookup.found]
    obtain ⟨s, hs⟩ := Option.ne_none_iff_exists'.mp h
    rw [hs]
    rfl
  | sublocale | commandLocale =>
    rw [look_view rfl, viewAt, Lookup.found]
    obtain ⟨v, hv⟩ := Option.ne_none_iff_exists'.mp h
    rw [hv]
    rfl

/-- A miss that is no answer is logged, and the answer falls back to the path. -/
theorem look_of_missed (h : (q.found l (q.pathIn l key)).IsMiss) :
    l.look q (.text key) false =
      ⟨[q.missEvent (q.pathIn l key)], .ok (q.fallback l (q.pathIn l key))⟩ := by
  cases q with
  | get | common =>
    rw [look_text rfl, textAt, show l.textAt? _ = none from h]
    rfl
  | sublocale | commandLocale =>
    rw [look_view rfl, viewAt, show l.viewAt? _ = none from h]
    rfl

/-- When a miss is no answer, a question for a section ends with a view at the path that it
reads. -/
theorem outcome_look_view (hq : q.subject = "section") :
    (l.look q (.text key) false).outcome = .ok (.view (some ⟨l.data, q.pathIn l key⟩)) := by
  rw [look_view hq, Run.bind_pure_eq, viewAt]
  cases hview : l.viewAt? (q.pathIn l key) with
  | some v =>
    rw [(viewAt?_eq_some_iff.mp hview).2]
    rfl
  | none => rfl

/-- When a miss is an answer, nothing is logged, whatever the key is. -/
theorem events_look_missable (l : Locale) (q : Lookup) (key : Value) :
    (l.look q key true).events = [] := by
  have hquiet {α : Type} (x : Except Error α) (f : α → Answer) :
      (Run.ofExcept x >>= fun a => pure (f a)).events = [] := by
    rw [Run.bind_pure_eq]
    rfl
  cases q <;> exact hquiet _ _

/-! ### Views that are answered -/

/-- A question is answered by a view, in one of the two modes. -/
def LeadsTo (l : Locale) (q : Lookup) (key : String) (v : Locale) : Prop :=
  ∃ mayMiss, (l.look q (.text key) mayMiss).outcome = .ok (.view (some v))

theorem eq_of_found {path : List String} (h : q.found l path = .view (some v)) :
    v = ⟨l.data, path⟩ := by
  cases q with
  | get | common => cases h
  | sublocale | commandLocale => exact (viewAt?_eq_some_iff.mp (Answer.view.inj h)).2

theorem eq_of_fallback {path : List String} (h : q.fallback l path = .view (some v)) :
    v = ⟨l.data, path⟩ := by
  cases q with
  | get | common => cases h
  | sublocale | commandLocale => exact (Option.some.inj (Answer.view.inj h)).symm

/-- A view that is answered is at the path that the question reads, whether or not there is a
section. -/
theorem eq_of_leadsTo (h : l.LeadsTo q key v) : v = ⟨l.data, q.pathIn l key⟩ := by
  obtain ⟨mayMiss, h⟩ := h
  cases mayMiss with
  | true =>
    rw [look_missable] at h
    exact eq_of_found (Except.ok.inj h)
  | false =>
    by_cases hmiss : (q.found l (q.pathIn l key)).IsMiss
    · rw [look_of_missed hmiss] at h
      exact eq_of_fallback (Except.ok.inj h)
    · rw [look_of_found hmiss] at h
      exact eq_of_found (Except.ok.inj h)

/-- Below the root, the section of a command is among the subcommands of the view. -/
theorem commandPath_of_ne_nil (h : l.path ≠ []) (name : String) :
    l.commandPath name = l.path ++ ["subcommands", name] := by
  rw [commandPath, sectionsPath, if_neg (mt List.isEmpty_iff.mp h), List.append_assoc,
    List.singleton_append]

theorem commandPath_ne_nil (l : Locale) (name : String) : l.commandPath name ≠ [] := by
  simp [commandPath]

/-- The common section and sections by path are read from the root. -/
theorem look_of_data_eq {l' : Locale} (hdata : l.data = l'.data) (hq : q = .common ∨ q = .sublocale)
    (key : Value) (mayMiss : Bool) : l.look q key mayMiss = l'.look q key mayMiss := by
  obtain ⟨data, path⟩ := l
  obtain ⟨data', path'⟩ := l'
  cases hdata
  rcases hq with rfl | rfl <;> rfl

/-! ### Empty views -/

/-- A view below the root whose section is missing. -/
structure IsVoid (v : Locale) : Prop where
  path_ne_nil : v.path ≠ []
  missing : v.viewAt? v.path = none

/-- A miss falls back to an empty view. -/
theorem isVoid_of_found (h : q.found l (q.pathIn l key) = .view none) :
    IsVoid ⟨l.data, q.pathIn l key⟩ := by
  cases q with
  | get | common => cases h
  | sublocale => exact ⟨Text.dotted_ne_nil key, Answer.view.inj h⟩
  | commandLocale => exact ⟨l.commandPath_ne_nil key, Answer.view.inj h⟩

theorem IsVoid.look_get (h : v.IsVoid) (key : String) :
    v.look .get (.text key) true = Run.done (.text none) := by
  rw [look_missable, Lookup.found, Lookup.pathIn, keyPath,
    textAt?_append_of_viewAt? (Text.dotted_ne_nil key) h.missing]

theorem IsVoid.viewAt?_commandPath (h : v.IsVoid) (name : String) :
    v.viewAt? (v.commandPath name) = none := by
  rw [commandPath_of_ne_nil h.path_ne_nil]
  exact viewAt?_append_of_viewAt? (List.cons_ne_nil _ _) h.missing

theorem IsVoid.look_commandLocale (h : v.IsVoid) (name : String) :
    v.look .commandLocale (.text name) true = Run.done (.view none) := by
  rw [look_missable, Lookup.found, Lookup.pathIn, h.viewAt?_commandPath]

/-- The name of a command leads from an empty view to an empty view. -/
theorem IsVoid.leadsTo {name : String} (h : v.IsVoid) (hw : v.LeadsTo .commandLocale name w) :
    w.IsVoid := by
  rw [eq_of_leadsTo hw]
  exact ⟨v.commandPath_ne_nil name, h.viewAt?_commandPath name⟩

/-- The names of commands lead from one view to another. -/
def Descends : Locale → Locale → Prop :=
  Relation.ReflTransGen fun v w => ∃ name, v.LeadsTo .commandLocale name w

theorem IsVoid.descends (h : v.IsVoid) (hw : v.Descends w) : w.IsVoid ∧ w.data = v.data := by
  induction hw with
  | refl => exact ⟨h, rfl⟩
  | tail _ hstep ih =>
    obtain ⟨name, hname⟩ := hstep
    exact ⟨ih.1.leadsTo hname, by rw [eq_of_leadsTo hname, ih.2]⟩

/-- When a miss is an answer, nothing is logged, and the answer is what the data has at the path of
the question.  When it is not, what is found is answered all the same, and a miss is logged once,
with the path that was read, and answered by the path or by a view at it.  Such a view is empty
for good: no key of it has a text, and no name leads from it or from any view below it to a section,
while the common section and sections by path are read from the root. -/
theorem misses_are_absorbed (l : Locale) (q : Lookup) :
    (∀ key : Value, (l.look q key true).events = []) ∧
    ∀ key : String,
      (l.look q (.text key) true = Run.done (q.found l (q.pathIn l key)) ∧
        (¬ (q.found l (q.pathIn l key)).IsMiss →
          l.look q (.text key) false = Run.done (q.found l (q.pathIn l key))) ∧
        ((q.found l (q.pathIn l key)).IsMiss → l.look q (.text key) false =
          ⟨[q.missEvent (q.pathIn l key)], .ok (q.fallback l (q.pathIn l key))⟩)) ∧
      (l.look q (.text key) true = Run.done (.view none) → ∀ v,
        (l.look q (.text key) false).outcome = .ok (.view (some v)) → ∀ w, v.Descends w →
          (∀ below, w.look .get (.text below) true = Run.done (.text none)) ∧
          (∀ name, w.look .commandLocale (.text name) true = Run.done (.view none)) ∧
          ∀ (asked : Value) (mayMiss : Bool),
            w.look .common asked mayMiss = look ⟨l.data, []⟩ .common asked mayMiss ∧
            w.look .sublocale asked mayMiss = look ⟨l.data, []⟩ .sublocale asked mayMiss) := by
  refine ⟨l.events_look_missable q, fun key =>
    ⟨⟨l.look_missable q key, look_of_found, look_of_missed⟩, fun hmiss v hv w hw => ?_⟩⟩
  rw [look_missable] at hmiss
  have hnone : q.found l (q.pathIn l key) = .view none :=
    Except.ok.inj (congrArg Run.outcome hmiss)
  rw [eq_of_leadsTo ⟨false, hv⟩] at hw
  obtain ⟨hvoid, hdata⟩ := (isVoid_of_found hnone).descends hw
  exact ⟨hvoid.look_get, hvoid.look_commandLocale, fun asked mayMiss =>
    ⟨look_of_data_eq hdata (.inl rfl) asked mayMiss,
      look_of_data_eq hdata (.inr rfl) asked mayMiss⟩⟩

/-- Texts with a text in the place of the section of `ping`, and a section for `now` beside it. -/
def scattered : Locale :=
  ⟨.map false [("common", .map false [("greeting", .text "Hello")]),
    ("commands", .map false [("ping", .text "pong"),
      ("now", .map false [("title", .text "Now")])])], []⟩

/-- The view at `ping` is empty, and so is the view at `now` below it, although the data has a
section of that name. -/
theorem misses_are_absorbed_scattered :
    scattered.look .commandLocale (.text "ping") true = Run.done (.view none) ∧
    ∃ v w : Locale,
      (scattered.look .commandLocale (.text "ping") false).outcome = .ok (.view (some v)) ∧
      v.LeadsTo .commandLocale "now" w ∧
      w.look .get (.text "title") true = Run.done (.text none) ∧
      w.look .common (.text "greeting") true = scattered.look .common (.text "greeting") true := by
  have hmiss : scattered.look .commandLocale (.text "ping") true = Run.done (.view none) := rfl
  have hv : (scattered.look .commandLocale (.text "ping") false).outcome =
      .ok (.view (some ⟨scattered.data, ["commands", "ping"]⟩)) := rfl
  have hw : LeadsTo ⟨scattered.data, ["commands", "ping"]⟩ .commandLocale "now"
      ⟨scattered.data, ["commands", "ping", "subcommands", "now"]⟩ := ⟨false, rfl⟩
  obtain ⟨hget, -, hroot⟩ := ((misses_are_absorbed scattered .commandLocale).2 "ping").2 hmiss _ hv _
    (.single ⟨"now", hw⟩)
  exact ⟨hmiss, _, _, hv, hw, hget "title", (hroot (.text "greeting") true).1⟩

end Locale

end ChatCommands
