import ChatCommands.Command.Reentry
import ChatCommands.Proofs.Dispatch.Stage

/-!
# The depth of nested dispatches

Callables that dispatch in their turn do so up to a depth.  The depth is no part of what a dispatch
does: a dispatch that does not end where the depth is reached is the same at every greater depth.
Dispatch passes on how calls end, so that a call that reaches the depth is the end of all the
dispatches around it, and the calls that do not are the same by induction on the depth.

## Main definitions

* `Run.Survives` : a run is the same as another one, unless that reaches the depth.

## Main results

* `survives_dispatch` : a dispatch survives what its calls survive.
* `dispatch_reentrant_of_le` : a dispatch that does not reach the depth is the same at every
  greater depth.
-/

namespace ChatCommands

/-- A run is the same as another one, unless the other one reaches the depth of dispatches. -/
def Run.Survives {α : Type} (r' r : Run α) : Prop :=
  r.outcome ≠ .error .tooDeep → r' = r

namespace Run.Survives

variable {α β : Type}

theorem refl (r : Run α) : r.Survives r :=
  fun _ => rfl

theorem trans {r r' r'' : Run α} (h' : r''.Survives r') (h : r'.Survives r) : r''.Survives r := by
  intro hne
  have heq := h hne
  rw [← heq] at hne ⊢
  exact h' hne

theorem bind {r r' : Run α} {f f' : α → Run β} (hr : r'.Survives r)
    (hf : ∀ a, (f' a).Survives (f a)) : (r' >>= f').Survives (r >>= f) := by
  intro hne
  cases hoc : r.outcome with
  | error e =>
    rw [bind_of_error hoc] at hne
    have he : e ≠ .tooDeep := fun h => hne (congrArg Except.error h)
    have heq : r' = r := hr fun h => he (Except.error.inj (hoc.symm.trans h))
    rw [heq, bind_of_error hoc, bind_of_error hoc]
  | ok a =>
    rw [bind_of_ok hoc] at hne
    have heq : r' = r := hr (hoc ▸ nofun)
    rw [heq, bind_of_ok hoc, bind_of_ok hoc, hf a hne]

theorem mapError {r r' : Run α} {g : Error → Error} (hg : g .tooDeep = .tooDeep)
    (h : r'.Survives r) : (r'.mapError g).Survives (r.mapError g) := by
  intro hne
  have heq : r' = r := h fun hoc => hne (by rw [Run.mapError, hoc, Except.mapError, hg])
  rw [heq]

end Run.Survives

/-! ### What the calls of a dispatch survive -/

section Calls

variable (h : Host) (table : Converters)
  {invoke invoke' : Message → GuildConfig → Locale → Callable → List Value → Run Value}
  (hinvoke : ∀ m config l c args, (invoke' m config l c args).Survives (invoke m config l c args))

include hinvoke

theorem survives_call (m : Message) (config : GuildConfig) (l : Locale) (f : Value)
    (args : List Value) :
    ((⟨h, table, invoke'⟩ : Engine).call m config l f args).Survives
      ((⟨h, table, invoke⟩ : Engine).call m config l f args) := by
  cases f with
  | callable c => exact (hinvoke m config l c args).mapError rfl
  | _ => exact .refl _

theorem survives_rejects (m : Message) (config : GuildConfig) (view : Locale) (c : Command) :
    (rejects ⟨h, table, invoke'⟩ m config view c).Survives
      (rejects ⟨h, table, invoke⟩ m config view c) := by
  unfold rejects
  split
  · exact .refl _
  · exact .bind (survives_call h table hinvoke _ _ _ _ _) fun _ => .refl _

theorem survives_execute (m : Message) (config : GuildConfig) (l view : Locale) (c : Command)
    (rest : List Value) :
    (execute ⟨h, table, invoke'⟩ m config l view c rest).Survives
      (execute ⟨h, table, invoke⟩ m config l view c rest) := by
  unfold execute
  split
  · exact .refl _
  · dsimp only
    split
    · exact .bind (.refl _) fun _ =>
        .bind (survives_call h table hinvoke _ _ _ _ _) fun _ => .refl _
    · exact .refl _

theorem survives_dispatchFrom (m : Message) (config : GuildConfig) (tokens : List Value)
    (siblings : Value) (l : Locale) (narrows : Bool) :
    (dispatchFrom ⟨h, table, invoke'⟩ m config tokens siblings l narrows).Survives
      (dispatchFrom ⟨h, table, invoke⟩ m config tokens siblings l narrows) := by
  induction tokens generalizing siblings l narrows with
  | nil => exact .refl _
  | cons token rest ih =>
    have htail (view : Locale) (c : Command) (handled : Bool) :
        (if handled then pure true
          else execute ⟨h, table, invoke'⟩ m config l view c rest >>= fun _ => pure true :
            Run Bool).Survives
          (if handled then pure true
            else execute ⟨h, table, invoke⟩ m config l view c rest >>= fun _ => pure true) := by
      split
      · exact .refl _
      · exact .bind (survives_execute h table hinvoke _ _ _ _ _ _) fun _ => .refl _
    rw [dispatchFrom, dispatchFrom]
    refine .bind (.refl _) fun selected => ?_
    cases selected with
    | none => exact .refl _
    | some c =>
      refine .bind (.refl _) fun _ => .bind (.refl _) fun isBlocked => ?_
      split
      · exact .refl _
      · refine .bind (.refl _) fun viewed => ?_
        obtain ⟨view, narrowed⟩ := viewed
        refine .bind (survives_rejects h table hinvoke _ _ _ _) fun isRejected => ?_
        split
        · exact .refl _
        · split
          · exact htail view c false
          · exact .bind (ih _ _ _) fun handled => htail view c handled

/-- A dispatch survives what its calls survive. -/
theorem survives_dispatch (m : Message) (config : GuildConfig) (l : Locale)
    (tokens siblings : Value) :
    (dispatch ⟨h, table, invoke'⟩ m config l tokens siblings).Survives
      (dispatch ⟨h, table, invoke⟩ m config l tokens siblings) :=
  .bind (.refl _) fun items => survives_dispatchFrom h table hinvoke m config items siblings l true

end Calls

/-! ### Greater depths -/

section Depth

variable (h : Host) (table : Converters) (routines : List (String × Routine))

theorem survives_performWith {name : String} {run run' : Routine}
    (hrun : ∀ m config l args, (run' m config l args).Survives (run m config l args))
    (m : Message) (config : GuildConfig) (l : Locale) (c : Callable) (args : List Value) :
    (performWith ((name, run') :: routines) m config l c args).Survives
      (performWith ((name, run) :: routines) m config l c args) := by
  cases c with
  | script s => exact .refl _
  | routine name' =>
    dsimp only [performWith]
    rw [List.lookup_cons, List.lookup_cons]
    cases name' == name with
    | true => exact hrun m config l args
    | false => exact .refl _

theorem survives_dispatching (depth : Nat) (m : Message) (config : GuildConfig) (l : Locale)
    (args : List Value) :
    (dispatching h table routines (depth + 1) m config l args).Survives
      (dispatching h table routines depth m config l args) := by
  induction depth generalizing m config l args with
  | zero => exact fun hne => absurd rfl hne
  | succ depth ih =>
    match args with
    | [] | [_] | _ :: _ :: _ :: _ => exact .refl _
    | [tokens, siblings] =>
      exact .bind (survives_dispatch h table (survives_performWith routines ih) _ _ _ _ _)
        fun _ => .refl _

/-- A dispatch that does not reach the depth is the same at every greater depth. -/
theorem dispatch_reentrant_of_le {depth depth' : Nat} (hle : depth ≤ depth') (m : Message)
    (config : GuildConfig) (l : Locale) (tokens siblings : Value)
    (hne : (dispatch (.reentrant h table routines depth) m config l tokens siblings).outcome ≠
      .error .tooDeep) :
    dispatch (.reentrant h table routines depth') m config l tokens siblings =
      dispatch (.reentrant h table routines depth) m config l tokens siblings := by
  have hsurvives : (dispatch (.reentrant h table routines depth') m config l tokens
      siblings).Survives
      (dispatch (.reentrant h table routines depth) m config l tokens siblings) := by
    induction hle with
    | refl => exact .refl _
    | @step depth' _ ih =>
      exact .trans (survives_dispatch h table
        (survives_performWith routines (survives_dispatching h table routines depth')) _ _ _ _ _) ih
  exact hsurvives hne

end Depth

end ChatCommands
