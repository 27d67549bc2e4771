import ChatCommands.Command.Reentry
import ChatCommands.Proofs.Dispatch.Revision

/-!
# Shortcuts as an extension

A shortcut is a second name for a command, and it counts only where shortcuts are switched on and
only for a token that equals it.  Nothing else reads a shortcut, so that switching shortcuts off is
the same as having none, and switching them on changes nothing for tokens that are no shortcuts:
although an earlier shortcut may win over a later name, it does so only for tokens that equal it.
Guards and handlers are given the configuration, though, and must not look at the switch.  One of
them that does is dispatch itself.

## Main definitions

* `withoutShortcuts` : a tree with no shortcuts at any depth.
* `AvoidShortcuts` : tokens that are no shortcuts of a tree.
* `Run.labels` : the scripts that a run runs.

## Main results

* `dispatch_extends_names` : shortcuts are a conservative extension of names.
* `dispatch_tells_switch` : a handler that tells the switch.
-/

namespace ChatCommands

/-- The revision that drops every shortcut. -/
def Revision.shortcutless : Revision :=
  ⟨fun _ => .null, id⟩

/-- A tree with no shortcuts at any depth. -/
def withoutShortcuts (siblings : Value) : Value :=
  revised .shortcutless siblings

/-- None of the tokens equals a shortcut of any node of a tree. -/
def AvoidShortcuts (tokens : List Value) (siblings : Value) : Prop :=
  ∀ token ∈ tokens, ∀ c ∈ nodes siblings,
    c.shortcut.isNull = true ∨ token.equals c.shortcut = false

section Accepts

variable {c : Command} {token : Value}

/-- Without shortcuts a command is selected by its name only. -/
theorem accepts_false : c.accepts token false = token.equals c.name := by
  simp only [CommandOf.accepts, Bool.false_and, Bool.or_false]

theorem accepts_of_avoids (h : c.shortcut.isNull = true ∨ token.equals c.shortcut = false)
    (shortcuts : Bool) : c.accepts token shortcuts = token.equals c.name := by
  have hshortcut : (!c.shortcut.isNull && token.equals c.shortcut) = false := by
    rcases h with hnull | hequals
    · rw [hnull, Bool.not_true, Bool.false_and]
    · rw [hequals, Bool.and_false]
  rw [CommandOf.accepts, Bool.and_assoc, hshortcut, Bool.and_false, Bool.or_false]

theorem accepts_shortcutless (shortcuts : Bool) :
    (Revision.shortcutless.command c).accepts token shortcuts = token.equals c.name :=
  accepts_of_avoids (.inl rfl) shortcuts

end Accepts

/-- Shortcuts are a conservative extension of names.  Switched off, they do not count: a dispatch is
that of the tree without shortcuts, whose nodes are those of the tree.  Switched on, they count only
for tokens that equal one of them: any other tokens are dispatched as if they were switched off, if
guards and handlers do not tell the switch themselves. -/
theorem dispatch_extends_names (E : Engine) (m : Message) (config : GuildConfig) (l : Locale)
    (ts : List Value) (siblings : Value) :
    dispatch E m { config with shortcuts := false } l (.list ts) (withoutShortcuts siblings) =
      dispatch E m { config with shortcuts := false } l (.list ts) siblings ∧
    nodes (withoutShortcuts siblings) = (nodes siblings).map (fun c =>
      { c with shortcut := .null, subcommands := withoutShortcuts c.subcommands }) ∧
    (AvoidShortcuts ts siblings →
      AreIndifferent E m m { config with shortcuts := false } { config with shortcuts := true }
        siblings →
      dispatch E m { config with shortcuts := true } l (.list ts) siblings =
        dispatch E m { config with shortcuts := false } l (.list ts) siblings) := by
  refine ⟨?_, nodes_revised .shortcutless siblings, fun havoid hindifferent => ?_⟩
  · have hhidden : Revision.shortcutless.IsHidden E m m { config with shortcuts := false }
        { config with shortcuts := false } (fun _ => True) ts siblings :=
      { accepts := fun _ _ _ _ => (accepts_shortcutless false).trans accepts_false.symm
        blocks := fun _ _ _ _ => rfl
        indifferent := .refl E m _ siblings }
    exact hhidden.dispatch_eq l fun _ _ => trivial
  · have hhidden : Revision.unchanged.IsHidden E m m { config with shortcuts := false }
        { config with shortcuts := true } (fun _ => True) ts siblings :=
      { accepts := fun token ht c hc =>
          (accepts_of_avoids (havoid token ht c hc) true).trans accepts_false.symm
        blocks := fun _ _ _ _ => rfl
        indifferent := hindifferent }
    have heq : dispatch E m { config with shortcuts := true } l (.list ts)
          (revised .unchanged siblings) =
        dispatch E m { config with shortcuts := false } l (.list ts) siblings :=
      hhidden.dispatch_eq l fun _ _ => trivial
    rwa [revised_unchanged] at heq

/-- The words of `mod kick ann` are no shortcuts, so that it is dispatched alike with shortcuts and
without. -/
theorem dispatch_extends_names_moderation :
    AvoidShortcuts [.text "mod", .text "kick", .text "ann"] (.list [.command moderation]) ∧
    dispatch scripted moderator ⟨true, none, "en"⟩ silent
        (.list [.text "mod", .text "kick", .text "ann"]) (.list [.command moderation]) =
      dispatch scripted moderator ⟨false, none, "en"⟩ silent
        (.list [.text "mod", .text "kick", .text "ann"]) (.list [.command moderation]) := by
  have havoid : AvoidShortcuts [.text "mod", .text "kick", .text "ann"]
      (.list [.command moderation]) := by
    intro token ht c hc
    rw [nodes_moderation] at hc
    simp only [List.mem_cons, List.not_mem_nil, or_false] at ht
    rcases List.mem_pair.mp hc with rfl | rfl
    · exact .inl rfl
    · rcases ht with rfl | rfl | rfl <;> exact .inr (by cbv)
  exact ⟨havoid, (dispatch_extends_names scripted moderator ⟨true, none, "en"⟩ silent _ _).2.2
    havoid (areIndifferent_performWith _ _ _ _ _ _ _)⟩

/-! ### A handler that tells the switch -/

/-- A command with a shortcut. -/
def nudge : Command :=
  ⟨3, .text "nudge", .text "n", .null, .bool false, .null, .null, .null,
    .callable (answering 4 "nudge" .null)⟩

/-- A command without a shortcut, whose handler is dispatch.  By default the handler gets the token
`n` and the command with that shortcut. -/
def relay : Command :=
  ⟨0, .text "relay", .null, .null, .bool false, .null, .null,
    .tuple [.argument ⟨1, .text "tokens", [.text "string"], .bool false, .tuple [.text "n"]⟩,
      .argument ⟨2, .text "commands", [.text "string"], .bool false, .tuple [.command nudge]⟩],
    .callable (.routine "dispatch")⟩

/-- The engine that runs scripts and dispatch. -/
def relaying : Engine :=
  .reentrant Host.bare Converters.standard [] 1

/-- The labels of the scripts that a run runs. -/
def Run.labels {α : Type} (r : Run α) : List String :=
  r.events.filterMap fun e =>
    match e with
    | .call label _ _ => some label
    | _ => none

theorem nodes_relay : nodes (.list [.command relay]) = [relay] := by
  cbv

/-- The word `relay` is no shortcut, and yet its dispatch goes on with shortcuts where it ends
without them: the handler dispatches the token `n` under the configuration that it is handed. -/
theorem dispatch_tells_switch :
    (∀ w ∈ [Value.command relay], isValid Converters.standard w = true) ∧
    AvoidShortcuts [.text "relay"] (.list [.command relay]) ∧
    (dispatch relaying moderator ⟨true, none, "en"⟩ silent (.list [.text "relay"])
      (.list [.command relay])).labels = ["nudge"] ∧
    (dispatch relaying moderator ⟨false, none, "en"⟩ silent (.list [.text "relay"])
      (.list [.command relay])).labels = [] ∧
    dispatch relaying moderator ⟨true, none, "en"⟩ silent (.list [.text "relay"])
        (.list [.command relay]) ≠
      dispatch relaying moderator ⟨false, none, "en"⟩ silent (.list [.text "relay"])
        (.list [.command relay]) := by
  have hon : (dispatch relaying moderator ⟨true, none, "en"⟩ silent (.list [.text "relay"])
      (.list [.command relay])).labels = ["nudge"] := by
    decide +kernel
  have hoff : (dispatch relaying moderator ⟨false, none, "en"⟩ silent (.list [.text "relay"])
      (.list [.command relay])).labels = [] := by
    decide +kernel
  refine ⟨by decide, ?_, hon, hoff, fun heq => ?_⟩
  · intro token ht c hc
    rw [nodes_relay] at hc
    rw [List.mem_singleton.mp hc]
    exact .inl rfl
  · rw [heq, hoff] at hon
    cases hon

end ChatCommands
