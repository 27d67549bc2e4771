import ChatCommands.Locale.Source
import ChatCommands.Proofs.Locale.Misses

/-!
# Views as places in the whole

A view only stands for its path: what it is asked for is what the whole locale has at that path,
whichever way the view was reached and whether or not there was a section at every step.  The path
of a view is a dotted name, so it can be put in front of a key as it is, as long as no name on the
way has a dot in it.

## Main definitions

* `Locale.StepsTo` : one step from a view to another.

## Main results

* `Locale.look_eq_of_pathIn` : an answer depends on the path that a question reads.
* `Locale.StepsTo.arePieces` : a step leads to a path without dots in its pieces.
* `Locale.views_rebase_root` : a view answers what the whole locale answers at its path.
-/

namespace ChatCommands.Locale

variable {l v w : Locale}

/-- The answer to a question depends on the data and on the path that the question reads. -/
theorem look_eq_of_pathIn {q : Lookup} {key key' : String} (hdata : l.data = v.data)
    (hpath : q.pathIn l key = q.pathIn v key') (mayMiss : Bool) :
    l.look q (.text key) mayMiss = v.look q (.text key') mayMiss := by
  obtain ⟨data, path⟩ := l
  obtain ⟨data', path'⟩ := v
  cases hdata
  have hfound : q.found ⟨data, path⟩ = q.found ⟨data, path'⟩ := by cases q <;> rfl
  have hfallback : q.fallback ⟨data, path⟩ = q.fallback ⟨data, path'⟩ := by cases q <;> rfl
  cases mayMiss with
  | true => rw [look_missable, look_missable, hfound, hpath]
  | false =>
    by_cases hmiss : (q.found ⟨data, path⟩ (q.pathIn ⟨data, path⟩ key)).IsMiss
    · rw [look_of_missed hmiss, hfallback, hpath]
      rw [hfound, hpath] at hmiss
      rw [look_of_missed hmiss]
    · rw [look_of_found hmiss, hfound, hpath]
      rw [hfound, hpath] at hmiss
      rw [look_of_found hmiss]

/-! ### Steps -/

/-- One step from a view to another: by the name of a command, which has no dot in it, or by the
path of a section. -/
inductive StepsTo (l v : Locale) : Prop
  | command (name : String) (hname : '.' ∉ name.toList) (h : l.LeadsTo .commandLocale name v)
  | path (path : String) (h : l.LeadsTo .sublocale path v)

theorem StepsTo.data_eq (h : l.StepsTo v) : v.data = l.data := by
  cases h with
  | command name hname h => rw [eq_of_leadsTo h]
  | path path h => rw [eq_of_leadsTo h]

theorem mem_commandPath {name piece : String} (h : piece ∈ l.commandPath name) :
    piece ∈ l.path ∨ piece = "commands" ∨ piece = "subcommands" ∨ piece = name := by
  simp only [commandPath, sectionsPath] at h
  split at h
  · simp only [List.singleton_append, List.mem_cons, List.not_mem_nil, or_false] at h
    exact h.elim (fun h => .inr (.inl h)) fun h => .inr (.inr (.inr h))
  · simp only [List.append_assoc, List.singleton_append, List.mem_append, List.mem_cons,
      List.not_mem_nil, or_false] at h
    exact h.imp_right .inr

/-- A step leads below the root, to a path of which no piece has a dot in it. -/
theorem StepsTo.arePieces (h : l.StepsTo v) (hl : ∀ piece ∈ l.path, '.' ∉ piece.toList) :
    Text.ArePieces v.path := by
  cases h with
  | path path h =>
    rw [eq_of_leadsTo h]
    exact Text.arePieces_dotted path
  | command name hname h =>
    rw [eq_of_leadsTo h]
    refine ⟨l.commandPath_ne_nil name, fun piece hpiece => ?_⟩
    rcases mem_commandPath hpiece with hpiece | rfl | rfl | rfl
    · exact hl piece hpiece
    · decide
    · decide
    · exact hname

/-- What is reached from a view has its data and a path of which no piece has a dot in it. -/
theorem arePieces_of_transGen (hl : l.path = []) (h : Relation.TransGen StepsTo l v) :
    v.data = l.data ∧ Text.ArePieces v.path := by
  induction h with
  | single h => exact ⟨h.data_eq, h.arePieces (by simp [hl])⟩
  | tail _ h ih => exact ⟨h.data_eq.trans ih.1, h.arePieces ih.2.undotted⟩

theorem path_of_ofValue {data : Value} {root : Locale} (h : ofValue data = .ok root) :
    root.path = [] := by
  unfold ofValue at h
  split at h <;> cases h
  rfl

/-- A view below the root answers for every key what the whole locale answers for the path of the
view and the key, and leaves the same records.  The common section and sections by path are the same
from everywhere, and the section at the path of the view is the view. -/
theorem views_rebase_root {data : Value} {root : Locale} (hroot : ofValue data = .ok root)
    (hchain : Relation.TransGen StepsTo root v) :
    (∀ (key : String) (mayMiss : Bool), v.look .get (.text key) mayMiss =
      root.look .get (.text (v.pathText ++ "." ++ key)) mayMiss) ∧
    (∀ (asked : Value) (mayMiss : Bool),
      v.look .common asked mayMiss = root.look .common asked mayMiss ∧
      v.look .sublocale asked mayMiss = root.look .sublocale asked mayMiss) ∧
    (v.look .sublocale (.text v.pathText) false).outcome = .ok (.view (some v)) ∧
    ∀ w, v.LeadsTo .sublocale v.pathText w → w = v := by
  have hrootpath : root.path = [] := path_of_ofValue hroot
  obtain ⟨hdata, hpieces⟩ := arePieces_of_transGen hrootpath hchain
  have hsection : (⟨v.data, Text.dotted v.pathText⟩ : Locale) = v := by
    rw [pathText, Text.dotted_dot hpieces]
  refine ⟨fun key mayMiss => look_eq_of_pathIn hdata ?_ mayMiss, fun asked mayMiss =>
    ⟨look_of_data_eq hdata (.inl rfl) asked mayMiss,
      look_of_data_eq hdata (.inr rfl) asked mayMiss⟩, ?_, fun w hw => ?_⟩
  · -- The dots of the path are found again, and the key goes on from there.
    simp only [Lookup.pathIn, keyPath, hrootpath, List.nil_append]
    exact (Text.dotted_dot_append hpieces key).symm
  · rw [outcome_look_view rfl]
    exact congrArg (fun u => Except.ok (Answer.view (some u))) hsection
  · exact (eq_of_leadsTo hw).trans hsection

/-- Texts with a section for `role` and one for `add` below it. -/
def nested : Value :=
  .map false [("common", .map false [("greeting", .text "Hello")]),
    ("commands", .map false [("role", .map false [("title", .text "Roles"),
      ("subcommands", .map false [("add", .map false [("title", .text "Add a role")])])])])]

/-- The view at the section of `add` is reached through a view that is empty, and answers what the
whole locale answers at its path. -/
theorem views_rebase_root_nested :
    ofValue nested = .ok ⟨nested, []⟩ ∧
    ∃ v : Locale, Relation.TransGen StepsTo ⟨nested, []⟩ v ∧
      v.look .get (.text "title") false = look ⟨nested, []⟩ .get
        (.text (v.pathText ++ "." ++ "title")) false ∧
      (v.look .get (.text "title") false).outcome = .ok (.text (some "Add a role")) := by
  have hroot : ofValue nested = .ok ⟨nested, []⟩ := rfl
  have hempty : StepsTo ⟨nested, []⟩ ⟨nested, ["commands", "ban"]⟩ :=
    .command "ban" (by decide) ⟨false, rfl⟩
  have hrole : StepsTo ⟨nested, ["commands", "ban"]⟩ ⟨nested, ["commands", "role"]⟩ :=
    .path "commands.role" ⟨true, rfl⟩
  have hadd : StepsTo ⟨nested, ["commands", "role"]⟩
      ⟨nested, ["commands", "role", "subcommands", "add"]⟩ :=
    .command "add" (by decide) ⟨true, rfl⟩
  have hchain : Relation.TransGen StepsTo ⟨nested, []⟩
      ⟨nested, ["commands", "role", "subcommands", "add"]⟩ :=
    ((Relation.TransGen.single hempty).tail hrole).tail hadd
  exact ⟨hroot, _, hchain, (views_rebase_root hroot hchain).1 "title" false, rfl⟩

end ChatCommands.Locale
