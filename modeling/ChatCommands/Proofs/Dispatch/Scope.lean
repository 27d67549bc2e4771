import ChatCommands.Proofs.Dispatch.Revision

/-!
# One scope of permissions

A node asks for permissions in the guild or in the channel.  Where all nodes that ask for any do so
in one scope, a dispatch depends on the permissions of that scope only, and on the name of the
channel only if it is the scope of the channel: neither a decision nor a reply gives away what the
author holds in the other scope.

## Main definitions

* `AsksIn` : the nodes of a tree that require permissions require them in one scope.
* `Message.AgreesIn` : two messages that are the same to a gate in one scope.

## Main results

* `AsksIn.dispatch_eq` : the dispatch of a tree that asks in one scope, for two messages that agree
  in it.
* `dispatch_reads_one_scope` : which fields of a message such a dispatch does not read.
-/

namespace ChatCommands

/-- Every node of a tree that requires permissions requires them in one scope, which is the channel
or the guild. -/
def AsksIn (inChannel : Bool) (siblings : Value) : Prop :=
  ∀ c ∈ nodes siblings, c.permissions.isNull = true ∨ c.channel.isTruthy = inChannel

/-- Two messages have authors of one name who hold the same in one scope, and are sent to one
channel if that is the scope. -/
structure Message.AgreesIn (inChannel : Bool) (m m' : Message) : Prop where
  author : m'.author = m.author
  held : m'.held inChannel = m.held inChannel
  channel : inChannel = true → m'.channel = m.channel

section Scope

variable {inChannel : Bool} {m m' : Message} {siblings : Value}

/-- The permission stages of a tree that asks in one scope are the same for messages that agree in
it. -/
theorem AsksIn.blocks_eq (h : AsksIn inChannel siblings) (hm : m.AgreesIn inChannel m')
    (E : Engine) (l : Locale) {c : Command} (hc : c ∈ nodes siblings) :
    blocks E m' l c = blocks E m l c := by
  by_cases hnull : c.permissions.isNull = true
  · rw [blocks_of_isNull hnull, blocks_of_isNull hnull]
  · have hscope : c.channel.isTruthy = inChannel := (h c hc).resolve_left hnull
    rw [blocks_eq_gate hnull, blocks_eq_gate hnull, hscope]
    exact Permission.gate_congr hm.author hm.held hm.channel

theorem AsksIn.dispatch_eq (h : AsksIn inChannel siblings) (hm : m.AgreesIn inChannel m')
    {E : Engine} {config : GuildConfig}
    (hindifferent : AreIndifferent E m m' config config siblings) (l : Locale) (ts : List Value) :
    dispatch E m' config l (.list ts) siblings = dispatch E m config l (.list ts) siblings :=
  hindifferent.dispatch_eq l (p := fun _ => True) (fun _ hc l _ => h.blocks_eq hm E l hc)
    fun _ _ => trivial

end Scope

/-- A tree that asks in the guild only dispatches two messages alike, with the same events and the
same outcome, that differ in what the author holds in the channel and in the name of the channel; a
tree that asks in the channel only does so for two messages that differ in what the author holds in
the guild.  Guards and handlers must not tell the messages apart. -/
theorem dispatch_reads_one_scope (E : Engine) (m : Message) (config : GuildConfig) (l : Locale)
    (ts : List Value) (siblings : Value) :
    (AsksIn false siblings → ∀ held channel,
      AreIndifferent E m { m with channelPermissions := held, channel := channel } config config
        siblings →
      dispatch E { m with channelPermissions := held, channel := channel } config l (.list ts)
          siblings =
        dispatch E m config l (.list ts) siblings) ∧
    (AsksIn true siblings → ∀ held,
      AreIndifferent E m { m with guildPermissions := held } config config siblings →
      dispatch E { m with guildPermissions := held } config l (.list ts) siblings =
        dispatch E m config l (.list ts) siblings) := by
  refine ⟨fun hguild held channel hindifferent => ?_, fun hchannel held hindifferent => ?_⟩
  · have hagrees : m.AgreesIn false { m with channelPermissions := held, channel := channel } :=
      ⟨rfl, rfl, nofun⟩
    exact hguild.dispatch_eq hagrees hindifferent l ts
  · have hagrees : m.AgreesIn true { m with guildPermissions := held } :=
      ⟨rfl, rfl, fun _ => rfl⟩
    exact hchannel.dispatch_eq hagrees hindifferent l ts

/-- The moderation tree with both requirements in one scope. -/
def moderationIn (inChannel : Bool) : Value :=
  .list [.command { moderation with
    channel := .bool inChannel
    subcommands := .tuple [.command { kick with channel := .bool inChannel }] }]

theorem asksIn_moderationIn (inChannel : Bool) : AsksIn inChannel (moderationIn inChannel) := by
  intro c hc
  have hnodes : nodes (moderationIn inChannel) =
      [{ moderation with
          channel := .bool inChannel
          subcommands := .tuple [.command { kick with channel := .bool inChannel }] },
        { kick with channel := .bool inChannel }] := by
    cbv
  rw [hnodes] at hc
  rcases List.mem_pair.mp hc with rfl | rfl <;> exact .inr rfl

/-- Asked in the guild, the moderator gets the same without permissions in the channel and from
another channel; asked in the channel, the same without permissions in the guild. -/
theorem dispatch_reads_one_scope_moderation :
    AsksIn false (moderationIn false) ∧ AsksIn true (moderationIn true) ∧
    dispatch scripted { moderator with channelPermissions := .int 0, channel := .text "attic" }
        ⟨true, none, "en"⟩ silent (.list [.text "mod", .text "k", .text "ann"])
        (moderationIn false) =
      dispatch scripted moderator ⟨true, none, "en"⟩ silent
        (.list [.text "mod", .text "k", .text "ann"]) (moderationIn false) ∧
    dispatch scripted { moderator with guildPermissions := .int 0 } ⟨true, none, "en"⟩ silent
        (.list [.text "mod", .text "k", .text "ann"]) (moderationIn true) =
      dispatch scripted moderator ⟨true, none, "en"⟩ silent
        (.list [.text "mod", .text "k", .text "ann"]) (moderationIn true) := by
  refine ⟨asksIn_moderationIn false, asksIn_moderationIn true, ?_, ?_⟩
  · exact (dispatch_reads_one_scope scripted moderator ⟨true, none, "en"⟩ silent _ _).1
      (asksIn_moderationIn false) (.int 0) (.text "attic")
      (areIndifferent_performWith _ _ _ _ _ _ _)
  · exact (dispatch_reads_one_scope scripted moderator ⟨true, none, "en"⟩ silent _ _).2
      (asksIn_moderationIn true) (.int 0) (areIndifferent_performWith _ _ _ _ _ _ _)

end ChatCommands
