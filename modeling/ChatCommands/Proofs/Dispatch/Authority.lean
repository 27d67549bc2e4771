import ChatCommands.Proofs.Dispatch.Revision
import ChatCommands.Proofs.Permission.Grant

/-!
# More permissions

Permissions are read by gates only, and a gate that lets a message pass leaves no trace of it.  A
dispatch that no gate blocks is therefore the same for an author who holds more, and the dispatch of
an administrator is that of the tree without requirements.

## Main definitions

* `Message.holding` : a message whose author holds other permissions.
* `withoutPermissions` : a tree with no requirements at any depth.

## Main results

* `blocks_holding` : a stage that does not block does the same for an author who holds more.
* `dispatch_monotone` : the same for a whole dispatch, and what administrators get.
-/

namespace ChatCommands

/-- A message whose author holds other permissions, in the guild and in the channel. -/
def Message.holding (m : Message) (guild channel : Value) : Message :=
  { m with guildPermissions := guild, channelPermissions := channel }

/-- The revision that lifts every requirement. -/
def Revision.permissionless : Revision :=
  ⟨id, fun _ => .null⟩

/-- A tree with no requirements at any depth. -/
def withoutPermissions (siblings : Value) : Value :=
  revised .permissionless siblings

section Stage

variable {E : Engine} {m : Message} {l : Locale} {c : Command}

/-- A stage that does not block does the same for an author who holds more. -/
theorem blocks_holding {guild channel : Value}
    (hguild : Permission.Extends guild m.guildPermissions)
    (hchannel : Permission.Extends channel m.channelPermissions)
    (hnarrow : ∀ n, Permission.resolve c.permissions = .ok n → Permission.IsNarrow n)
    (h : (blocks E m l c).Emits fun e => ¬ e.IsBlock) :
    blocks E (m.holding guild channel) l c = blocks E m l c := by
  by_cases hnull : c.permissions.isNull = true
  · rw [blocks_of_isNull hnull, blocks_of_isNull hnull]
  · have hheld : Permission.Extends ((m.holding guild channel).held c.channel.isTruthy)
        (m.held c.channel.isTruthy) := by
      cases c.channel.isTruthy with
      | false => exact hguild
      | true => exact hchannel
    rw [blocks_eq_gate hnull] at h
    rw [blocks_eq_gate hnull, blocks_eq_gate hnull]
    exact Permission.gate_of_extends hheld hnarrow h

/-- An administrator passes every requirement that stands for a field. -/
theorem permits_of_holdsAdministrator
    (hadmin : Permission.HoldsAdministrator (m.held c.channel.isTruthy))
    (hrequired : c.permissions.isNull = true ∨ ∃ n, Permission.resolve c.permissions = .ok n) :
    m.Permits c :=
  hrequired.imp_right fun ⟨_, hn⟩ => Permission.missing_of_holdsAdministrator hadmin hn

end Stage

/-- A dispatch in which the engine records no block is the same, events and outcome alike, for an
author who holds more in either scope, if guards and handlers do not tell the permissions apart and
requirements are narrow.  An administrator in both scopes gets the dispatch of the tree without
requirements, whose nodes are those of the tree, if these require nothing or stand for fields. -/
theorem dispatch_monotone (E : Engine) (m : Message) (config : GuildConfig) (l : Locale)
    (ts : List Value) (siblings : Value) :
    (∀ guild channel, Permission.Extends guild m.guildPermissions →
      Permission.Extends channel m.channelPermissions →
      (∀ c ∈ nodes siblings, ∀ n, Permission.resolve c.permissions = .ok n →
        Permission.IsNarrow n) →
      AreIndifferent E m (m.holding guild channel) config config siblings →
      ((dispatch E.observed m config l (.list ts) siblings).Emits fun e => ¬ e.IsBlock) →
      dispatch E (m.holding guild channel) config l (.list ts) siblings =
        dispatch E m config l (.list ts) siblings) ∧
    ((∀ inChannel, Permission.HoldsAdministrator (m.held inChannel)) →
      (∀ c ∈ nodes siblings,
        c.permissions.isNull = true ∨ ∃ n, Permission.resolve c.permissions = .ok n) →
      dispatch E m config l (.list ts) (withoutPermissions siblings) =
        dispatch E m config l (.list ts) siblings) ∧
    nodes (withoutPermissions siblings) = (nodes siblings).map fun c =>
      { c with permissions := .null, subcommands := withoutPermissions c.subcommands } := by
  refine ⟨fun guild channel hguild hchannel hnarrow hindifferent hrun => ?_,
    fun hadmin hrequired => ?_, nodes_revised .permissionless siblings⟩
  · exact hindifferent.dispatch_eq l
      (fun c hc l h => blocks_holding hguild hchannel (hnarrow c hc) h) hrun
  · have hhidden : Revision.permissionless.IsHidden E m m config config (fun _ => True) ts
        siblings :=
      { accepts := fun _ _ _ _ => rfl
        blocks := fun c hc l _ => by
          have hpermits : m.Permits c := permits_of_holdsAdministrator (hadmin _) (hrequired c hc)
          rw [blocks_of_permits hpermits]
          exact blocks_of_isNull rfl
        indifferent := .refl E m config siblings }
    exact hhidden.dispatch_eq l fun _ _ => trivial

/-- The moderator's `mod k ann` asks the guard and runs the command; no gate blocks it. -/
theorem emits_dispatch_moderation :
    (dispatch scripted.observed moderator ⟨true, none, "en"⟩ silent
      (.list [.text "mod", .text "k", .text "ann"]) (.list [.command moderation])).Emits
      fun e => ¬ e.IsBlock := by
  have hevents : ∃ first second third,
      (dispatch scripted.observed moderator ⟨true, none, "en"⟩ silent
        (.list [.text "mod", .text "k", .text "ann"]) (.list [.command moderation])).events =
      [.log .debug .commands first, Call.mark ⟨answering 4 "isOpen" (.bool true), silent, []⟩,
        .log .debug .commands second, .log .debug .commands third,
        Call.mark ⟨answering 3 "kick" .null, silent, [.text "ann"]⟩] := by
    rw [dispatch_eq_descend _ _ _ _ _ isForest_moderation, planned_moderation, leftover_moderation]
    exact ⟨_, _, _, rfl⟩
  obtain ⟨first, second, third, hevents⟩ := hevents
  intro e he
  rw [hevents] at he
  simp only [List.mem_cons, List.not_mem_nil, or_false] at he
  rcases he with rfl | rfl | rfl | rfl | rfl <;> exact id

theorem isNarrow_moderation {c : Command} (hc : c ∈ nodes (.list [.command moderation])) :
    ∃ n, Permission.resolve c.permissions = .ok n ∧ Permission.IsNarrow n := by
  rw [nodes_moderation] at hc
  rcases List.mem_pair.mp hc with rfl | rfl
  · exact ⟨2, rfl, Permission.isNarrow_of_lt (by decide)⟩
  · exact ⟨4, rfl, Permission.isNarrow_of_lt (by decide)⟩

/-- The moderator's `mod k ann` is the same for a moderator who is an administrator besides, and
that is what the tree without requirements gives. -/
theorem dispatch_monotone_moderation :
    Permission.Extends (.int 10) moderator.guildPermissions ∧
    Permission.Extends (.int 12) moderator.channelPermissions ∧
    dispatch scripted (moderator.holding (.int 10) (.int 12)) ⟨true, none, "en"⟩ silent
        (.list [.text "mod", .text "k", .text "ann"]) (.list [.command moderation]) =
      dispatch scripted moderator ⟨true, none, "en"⟩ silent
        (.list [.text "mod", .text "k", .text "ann"]) (.list [.command moderation]) ∧
    dispatch scripted (moderator.holding (.int 10) (.int 12)) ⟨true, none, "en"⟩ silent
        (.list [.text "mod", .text "k", .text "ann"])
        (withoutPermissions (.list [.command moderation])) =
      dispatch scripted (moderator.holding (.int 10) (.int 12)) ⟨true, none, "en"⟩ silent
        (.list [.text "mod", .text "k", .text "ann"]) (.list [.command moderation]) := by
  have hguild : Permission.Extends (.int 10) moderator.guildPermissions :=
    Permission.extends_or 2 8 rfl rfl
  have hchannel : Permission.Extends (.int 12) moderator.channelPermissions :=
    Permission.extends_or 4 8 rfl rfl
  have hadmin (inChannel : Bool) :
      Permission.HoldsAdministrator ((moderator.holding (.int 10) (.int 12)).held inChannel) := by
    cases inChannel with
    | false => exact ⟨10, rfl, rfl⟩
    | true => exact ⟨12, rfl, rfl⟩
  have hnarrow : ∀ c ∈ nodes (.list [.command moderation]), ∀ n,
      Permission.resolve c.permissions = .ok n → Permission.IsNarrow n := by
    intro c hc n hn
    obtain ⟨n', hn', hnarrow⟩ := isNarrow_moderation hc
    cases hn.symm.trans hn'
    exact hnarrow
  have hrequired : ∀ c ∈ nodes (.list [.command moderation]),
      c.permissions.isNull = true ∨ ∃ n, Permission.resolve c.permissions = .ok n :=
    fun c hc => .inr ((isNarrow_moderation hc).imp fun _ => And.left)
  refine ⟨hguild, hchannel, ?_, ?_⟩
  · exact (dispatch_monotone scripted moderator ⟨true, none, "en"⟩ silent _ _).1 (.int 10) (.int 12)
      hguild hchannel hnarrow (areIndifferent_performWith _ _ _ _ _ _ _) emits_dispatch_moderation
  · exact (dispatch_monotone scripted (moderator.holding (.int 10) (.int 12)) ⟨true, none, "en"⟩
      silent _ _).2.1 hadmin hrequired

end ChatCommands
