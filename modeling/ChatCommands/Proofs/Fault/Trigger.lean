import ChatCommands.Fault.Trigger
import ChatCommands.Proofs.Run.Events

/-!
# Surfaced faults send one reply

Surfacing a fault leaves records and works out the text of the reply; only then is the reply sent.
A surfaced fault whose text can be worked out is thus answered by exactly one reply, and one whose
text cannot is answered by none.

## Main definitions

* `Fault.answer` : everything that surfacing a fault does before its reply, with the text of the
  reply.
* `Fault.IsUnshowable` : the faults that cannot be shown on the console of a host.

## Main results

* `Fault.panel_cases` : which faults can be shown on a console.
* `Fault.trigger_eq_answer` : surfacing a fault is working out its answer and sending it.
* `Fault.outcome_trigger_of_render` : surfacing a fault does not fail if its reply can be rendered.
* `Fault.replies_trigger_of_render` : the reply that is sent is the rendered one.
* `Fault.replies_trigger` : a fault that is surfaced without an error sends one reply.
-/

namespace ChatCommands

/-! ### Localized texts only leave records -/

namespace Locale

theorem outcome_textAt (l : Locale) (path : List String) :
    (l.textAt path).outcome = .ok ((l.textAt? path).getD (Text.dot path)) := by
  unfold textAt
  cases l.textAt? path <;> rfl

theorem quiet_textAt (l : Locale) (path : List String) : (l.textAt path).Quiet := by
  unfold textAt
  cases l.textAt? path with
  | some s => exact .pure s
  | none => exact (Run.quiet_log _ _ _).bind fun _ => .pure _

theorem quiet_common (l : Locale) (key : String) : (l.common key).Quiet :=
  l.quiet_textAt _

theorem quiet_formatCommon (l : Locale) (key : String) (args : List Value) :
    (l.formatCommon key args).Quiet :=
  (l.quiet_common key).bind fun _ => .ofExcept _

theorem quiet_listing (l : Locale) (keys : Value) (path : String) : (l.listing keys path).Quiet :=
  (l.quiet_common _).bind fun _ => .ofExcept _

end Locale

namespace Fault

theorem quiet_render (f : Fault) (l : Locale) : (f.render l).Quiet := by
  unfold render renderPermissions renderMissing renderInvalid
  cases f.kind with
  | noSubcommand => exact l.quiet_common _
  | missingPermissions =>
    refine Run.Emits.bind (.ofExcept _) fun channel => .bind (.ofExcept _) fun names => ?_
    split
    · exact l.quiet_formatCommon _ _
    · exact l.quiet_formatCommon _ _
  | missingArgument =>
    exact Run.Emits.bind (.ofExcept _) fun _ => l.quiet_formatCommon _ _
  | invalidArgumentType =>
    exact Run.Emits.bind (.ofExcept _) fun _ => .bind (.ofExcept _) fun _ =>
      .bind (l.quiet_listing _ _) fun _ => l.quiet_formatCommon _ _
  | plain | malformedDefinition | unknownArgumentType => exact .pure _

/-! ### The answer to a fault -/

/-- The console line of a fault in development. -/
def exhibit (h : Host) (f : Fault) : Run Unit :=
  if h.isDevelopment then do
    let shown ← Run.ofExcept (Value.checked (f.panel h))
    Run.emit (.console shown)
  else return ()

/-- What surfacing a fault does before its reply is sent; the value is the text of the reply. -/
def answer (h : Host) (l : Locale) (given : Fault) (options : Entries) : Run String := do
  let f := given.replace options
  logFault (f.loggedCode h) f.messageValue.plain
  exhibit h f
  f.render l

variable (h : Host) (l : Locale) (f : Fault) (options : Entries)

theorem quiet_exhibit : (exhibit h f).Quiet := by
  unfold exhibit
  split
  · exact Run.Emits.bind (.ofExcept _) fun _ => .emit trivial
  · exact .pure ()

theorem quiet_answer : (f.answer h l options).Quiet :=
  Run.Emits.bind (Run.quiet_log _ _ _) fun _ => .bind (quiet_exhibit h _) fun _ => quiet_render _ l

/-- Surfacing a fault is working out its answer and sending it. -/
theorem trigger_eq_answer : f.trigger h l options = f.answer h l options >>= Run.reply := by
  simp only [trigger, answer, exhibit, bind_assoc]
  split
  · simp only [bind_assoc]
  · simp only [pure_bind]

theorem emits_isOwn_trigger : (f.trigger h l options).Emits Event.IsOwn := by
  rw [trigger_eq_answer]
  exact ((quiet_answer h l f options).mono fun _ => Event.IsRecord.isOwn).bind
    fun _ => .emit trivial

theorem outcome_trigger {text : String} (ht : (f.answer h l options).outcome = .ok text) :
    (f.trigger h l options).outcome = .ok () := by
  rw [trigger_eq_answer, Run.bind_of_ok ht]
  rfl

/-- The answer to a fault is sent as its one reply. -/
theorem replies_trigger_of_answer {text : String}
    (ht : (f.answer h l options).outcome = .ok text) :
    (f.trigger h l options).replies = [text] := by
  rw [trigger_eq_answer, Run.replies_bind_of_ok ht, (quiet_answer h l f options).replies_eq_nil,
    Run.replies_reply, List.nil_append]

/-- A fault without an answer is not replied to. -/
theorem trigger_of_answer_error {e : Error} (he : (f.answer h l options).outcome = .error e) :
    (f.trigger h l options).replies = [] ∧ (f.trigger h l options).outcome = .error e := by
  rw [trigger_eq_answer, Run.bind_of_error he]
  exact ⟨(quiet_answer h l f options).replies_eq_nil, rfl⟩

/-- The code of a fault counts as true and is no fault code, so that it has no label. -/
def HasForeignCode (f : Fault) : Prop :=
  ∃ v, f.option? "code" = some v ∧ v.isTruthy = true ∧ ∀ c, v ≠ .code c

theorem codeLabel_of_foreign {v : Value} (htruthy : v.isTruthy = true) (hv : ∀ c, v ≠ .code c) :
    codeLabel h v = .error (.noAttribute v.typeName "normalize") := by
  unfold codeLabel
  rw [if_pos htruthy]
  split
  · rename_i c
    exact absurd rfl (hv c)
  · rfl

/-- A fault can be shown on a console unless it has a foreign code. -/
theorem panel_cases :
    (¬ f.HasForeignCode ∧ ∃ shown, f.panel h = .ok shown) ∨
      (f.HasForeignCode ∧ ∃ type, f.panel h = .error (.noAttribute type "normalize")) := by
  have hpanel : ∀ label, codeLabel h ((f.option? "code").getD .null) = .ok label →
      ∃ shown, f.panel h = .ok shown := by
    intro label hlabel
    rw [panel, hlabel]
    simp only [bind, Except.bind]
    split <;> exact ⟨_, rfl⟩
  cases hcode : f.option? "code" with
  | none =>
    refine .inl ⟨?_, hpanel (.text "?") (by rw [hcode]; rfl)⟩
    rintro ⟨v, hv, -⟩
    rw [hcode] at hv
    cases hv
  | some v =>
    have hforeign : f.HasForeignCode ↔ v.isTruthy = true ∧ ∀ c, v ≠ .code c := by
      simp [HasForeignCode, hcode]
    cases htruthy : v.isTruthy with
    | false =>
      refine .inl ⟨by simp [hforeign, htruthy], hpanel (.text "?") ?_⟩
      rw [hcode, Option.getD_some]
      exact if_neg (by simp [htruthy])
    | true =>
      by_cases hc : ∃ c, v = .code c
      case pos =>
        obtain ⟨c, rfl⟩ := hc
        exact .inl ⟨fun hf => (hforeign.mp hf).2 c rfl, hpanel _ (by rw [hcode]; rfl)⟩
      case neg =>
        have hv : ∀ c, v ≠ .code c := fun c hv => hc ⟨c, hv⟩
        refine .inr ⟨hforeign.mpr ⟨htruthy, hv⟩, v.typeName, ?_⟩
        rw [panel, hcode, Option.getD_some, codeLabel_of_foreign h htruthy hv]
        rfl

/-- In development a fault with a foreign code is not surfaced. -/
def IsUnshowable (h : Host) (f : Fault) : Prop :=
  h.isDevelopment = true ∧ f.HasForeignCode

theorem exhibit_of_isUnshowable (hf : f.IsUnshowable h) :
    ∃ type, exhibit h f = Run.fail (.misuse (.noAttribute type "normalize")) := by
  rcases panel_cases h f with ⟨hnot, -⟩ | ⟨-, type, hpanel⟩
  · exact absurd hf.2 hnot
  · refine ⟨type, ?_⟩
    rw [exhibit, if_pos hf.1, hpanel]
    rfl

theorem outcome_exhibit_of_not_isUnshowable (hf : ¬ f.IsUnshowable h) :
    (exhibit h f).outcome = .ok () := by
  unfold exhibit
  split
  · rename_i hdevelopment
    rcases panel_cases h f with ⟨-, shown, hshown⟩ | ⟨hforeign, -⟩
    · rw [hshown]
      rfl
    · exact absurd ⟨hdevelopment, hforeign⟩ hf
  · rfl

theorem not_isUnshowable_of_code {c : FaultCode} (hcode : f.option? "code" = some (.code c)) :
    ¬ f.IsUnshowable h := by
  rintro ⟨-, v, hv, -, hne⟩
  rw [hcode] at hv
  exact hne c (Option.some.inj hv).symm

/-- The answer to a fault that can be shown is its rendered reply. -/
theorem outcome_answer_of_not_isUnshowable (hf : ¬ (f.replace options).IsUnshowable h) :
    (f.answer h l options).outcome = ((f.replace options).render l).outcome := by
  rw [answer, logFault, Run.outcome_log_bind,
    Run.bind_of_ok (outcome_exhibit_of_not_isUnshowable h _ hf)]

/-- A fault that cannot be shown is not answered. -/
theorem outcome_answer_of_isUnshowable (hf : (f.replace options).IsUnshowable h) :
    ∃ type, (f.answer h l options).outcome =
      .error (.misuse (.noAttribute type "normalize")) := by
  obtain ⟨type, hexhibit⟩ := exhibit_of_isUnshowable h _ hf
  refine ⟨type, ?_⟩
  rw [answer, logFault, Run.outcome_log_bind, hexhibit]
  rfl

/-- The answer to a fault with a fault code is its rendered reply. -/
theorem outcome_answer {c : FaultCode} {text : String}
    (hcode : (f.replace options).option? "code" = some (.code c))
    (htext : ((f.replace options).render l).outcome = .ok text) :
    (f.answer h l options).outcome = .ok text := by
  rw [outcome_answer_of_not_isUnshowable h l f options (not_isUnshowable_of_code h _ hcode), htext]

/-- A fault with a fault code is surfaced without an error if its reply can be rendered. -/
theorem outcome_trigger_of_render {c : FaultCode} {text : String}
    (hcode : (f.replace options).option? "code" = some (.code c))
    (htext : ((f.replace options).render l).outcome = .ok text) :
    (f.trigger h l options).outcome = .ok () :=
  outcome_trigger h l f options (outcome_answer h l f options hcode htext)

/-- The one reply that surfaces a fault with a fault code is the rendered one. -/
theorem replies_trigger_of_render {c : FaultCode} {text : String}
    (hcode : (f.replace options).option? "code" = some (.code c))
    (htext : ((f.replace options).render l).outcome = .ok text) :
    (f.trigger h l options).replies = [text] :=
  replies_trigger_of_answer h l f options (outcome_answer h l f options hcode htext)

/-- A fault that is surfaced without an error sends exactly one reply. -/
theorem replies_trigger (ht : (f.trigger h l options).outcome = .ok ()) :
    ∃ text, (f.trigger h l options).replies = [text] := by
  rw [trigger_eq_answer] at ht
  obtain ⟨text, ha, -⟩ := Run.exists_of_bind_ok ht
  exact ⟨text, replies_trigger_of_answer h l f options ha⟩

end Fault

end ChatCommands
