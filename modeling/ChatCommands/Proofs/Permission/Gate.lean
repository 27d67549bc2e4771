import ChatCommands.Permission.Gate
import ChatCommands.Proofs.Locale.Replies

/-!
# The decision of the permission gate

The gate does one of three things, by what the author is missing: a requirement that cannot be
compared with what is held fails before anything happens, a message whose author misses nothing
passes without a trace, and any other message is answered by one reply and blocked.

## Main definitions

* `Permission.listedNames` : permission keys as a locale lists them.
* `Permission.blockedReply` : the reply to a blocked message.

## Main results

* `Permission.gate_of_error`, `Permission.gate_of_nil`, `Permission.gate_of_ne_nil` : the three
  cases.
* `Permission.gate_congr` : what a gate reads of a message.
* `Permission.outcome_gate_eq_false_iff` : a message passes exactly if nothing is missing.
* `Permission.replies_block` : a block that is completed sends one reply.
* `Permission.replies_block_of_blockedReply` : which reply that is.
* `Permission.outcome_gate_of_missing` : the gate does not fail if the locale formats its replies.
-/

namespace ChatCommands.Permission

variable {h : Host} {m : Message} {l : Locale} {required : Value} {inChannel : Bool}

theorem gate_of_error {e : Refusal} (he : missing (m.held inChannel) required = .error e) :
    gate h m l required inChannel = Run.fail (.refusal e) := by
  unfold gate
  rw [he]
  rfl

theorem gate_of_nil (hnil : missing (m.held inChannel) required = .ok []) :
    gate h m l required inChannel = pure false := by
  unfold gate
  rw [hnil]
  rfl

theorem gate_of_ne_nil {keys : List String}
    (hkeys : missing (m.held inChannel) required = .ok keys) (hne : keys ≠ []) :
    gate h m l required inChannel = block h m l keys inChannel >>= fun _ => pure true := by
  have hempty : keys.isEmpty = false := List.isEmpty_eq_false_iff.mpr hne
  have hlift : (Except.ok keys : Except Refusal (List String)).mapError Error.refusal = .ok keys :=
    rfl
  unfold gate
  rw [hkeys, hlift, Run.ofExcept_ok_bind, hempty]
  rfl

/-- A gate reads who the author is, what the author holds in the scope of the gate and, in the scope
of the channel, the name of the channel. -/
theorem gate_congr {m' : Message} (hauthor : m'.author = m.author)
    (hheld : m'.held inChannel = m.held inChannel)
    (hchannel : inChannel = true → m'.channel = m.channel) :
    gate h m' l required inChannel = gate h m l required inChannel := by
  have hblock (keys : List String) : block h m' l keys inChannel = block h m l keys inChannel := by
    unfold block
    cases inChannel with
    | false => rw [hauthor]; rfl
    | true => rw [hauthor, hchannel rfl]
  unfold gate
  simp only [hheld, hblock]

/-! ### Blocking a message -/

/-- The options that the fault of a blocked message gets. -/
def blockOptions (m : Message) (keys : List String) (inChannel : Bool) (listed : String) :
    Entries :=
  [("missing", keyTuple keys), ("listing", .text listed),
    ("channel", if inChannel then m.channel else .null)]

variable (h m l)

theorem block_eq (keys : List String) (inChannel : Bool) :
    block h m l keys inChannel =
      Run.log .info .permissions
        ("blocked " ++ m.author.literal ++ ", missing " ++ String.intercalate ", " keys) >>=
      fun _ => describe (keyTuple keys) l >>= fun listed =>
        (missingFault keys).trigger h l (blockOptions m keys inChannel listed) := rfl

theorem quiet_describe (keys : Value) : (describe keys l).Quiet :=
  l.quiet_listing keys _

theorem emits_isOwn_block (keys : List String) (inChannel : Bool) :
    (block h m l keys inChannel).Emits Event.IsOwn := by
  have hdescribe := (quiet_describe l (keyTuple keys)).mono fun _ => Event.IsRecord.isOwn
  rw [block_eq]
  exact Run.Emits.bind (.emit trivial) fun _ =>
    hdescribe.bind fun _ => Fault.emits_isOwn_trigger _ _ _ _

theorem emits_isOwn_gate (required : Value) (inChannel : Bool) :
    (gate h m l required inChannel).Emits Event.IsOwn := by
  unfold gate
  refine Run.Emits.bind (.ofExcept _) fun keys => ?_
  split
  · exact .pure _
  · exact (emits_isOwn_block h m l _ _).bind fun _ => .pure _

variable {h m l}

/-- A block that is completed sends exactly one reply. -/
theorem replies_block {keys : List String} {inChannel : Bool}
    (hok : (block h m l keys inChannel).outcome = .ok ()) :
    ∃ text, (block h m l keys inChannel).replies = [text] := by
  rw [block_eq] at hok ⊢
  rw [Run.outcome_log_bind] at hok
  rw [Run.replies_log_bind]
  obtain ⟨listed, hlisted, htrigger⟩ := Run.exists_of_bind_ok hok
  rw [Run.replies_bind_of_ok hlisted, (quiet_describe l _).replies_eq_nil, List.nil_append]
  exact Fault.replies_trigger _ _ _ _ htrigger

/-! ### The reply to a blocked message -/

/-- The names of permission keys, as a locale lists them. -/
def listedNames (l : Locale) (keys : List String) : String :=
  String.intercalate (l.commonText "list_separator") (keys.map (l.nameIn "common.permissions"))

/-- The reply to a blocked message: the template of the scope, filled in with the listed
permissions and, in a channel that has a name, with that name. -/
def blockedReply (m : Message) (l : Locale) (inChannel : Bool) (listed : String) :
    Except TemplateError String :=
  if inChannel && !m.channel.isNull then
    Template.format (l.commonText "no_channel_permissions") [.text listed, m.channel]
  else Template.format (l.commonText "no_guild_permissions") [.text listed]

theorem outcome_describe (l : Locale) (keys : List String) :
    (describe (keyTuple keys) l).outcome = .ok (listedNames l keys) :=
  l.outcome_listing keys _

theorem outcome_render_missingFault (m : Message) (l : Locale) (keys : List String)
    (inChannel : Bool) (listed : String) :
    (((missingFault keys).replace (blockOptions m keys inChannel listed)).render l).outcome =
      (blockedReply m l inChannel listed).mapError .template := by
  have hrender : ((missingFault keys).replace (blockOptions m keys inChannel listed)).render l =
      if (if inChannel then m.channel else .null).isNull then
        l.formatCommon "no_guild_permissions" [.text listed]
      else l.formatCommon "no_channel_permissions"
        [.text listed, if inChannel then m.channel else .null] := rfl
  rw [hrender, blockedReply]
  cases inChannel with
  | false => exact l.outcome_formatCommon _ _
  | true =>
    simp only [if_true, Bool.true_and]
    cases m.channel.isNull with
    | false => exact l.outcome_formatCommon _ _
    | true => exact l.outcome_formatCommon _ _

/-- A locale that formats its replies has one for every blocked message. -/
theorem exists_blockedReply (hl : l.Formats m.channel) (inChannel : Bool) (listed : String) :
    ∃ text, blockedReply m l inChannel listed = .ok text := by
  rw [blockedReply]
  split
  · exact Locale.fills_iff.mp (hl.channel listed)
  · exact Locale.fills_iff.mp (hl.guild listed)

section Reply

variable {keys : List String} {text : String}
  (htext : blockedReply m l inChannel (listedNames l keys) = .ok text)

include htext

theorem outcome_render_of_blockedReply :
    (((missingFault keys).replace (blockOptions m keys inChannel (listedNames l keys))).render
      l).outcome = .ok text := by
  rw [outcome_render_missingFault, htext]
  rfl

/-- A message is blocked without an error if the reply can be formatted. -/
theorem outcome_block : (block h m l keys inChannel).outcome = .ok () := by
  rw [block_eq, Run.outcome_log_bind, Run.bind_of_ok (outcome_describe l keys)]
  exact Fault.outcome_trigger_of_render h l _ _ rfl (outcome_render_of_blockedReply htext)

/-- The reply to a blocked message is the formatted one. -/
theorem replies_block_of_blockedReply : (block h m l keys inChannel).replies = [text] := by
  rw [block_eq, Run.replies_log_bind, Run.replies_bind_of_ok (outcome_describe l keys),
    (quiet_describe l _).replies_eq_nil, List.nil_append]
  exact Fault.replies_trigger_of_render h l _ _ rfl (outcome_render_of_blockedReply htext)

end Reply

/-! ### The answer of the gate -/

/-- With a locale that formats its replies the gate blocks exactly those who miss something. -/
theorem outcome_gate_of_missing (hl : l.Formats m.channel) {keys : List String}
    (hkeys : missing (m.held inChannel) required = .ok keys) :
    (gate h m l required inChannel).outcome = .ok (!keys.isEmpty) := by
  by_cases hnil : keys = []
  · subst hnil
    rw [gate_of_nil hkeys]
    rfl
  · obtain ⟨text, htext⟩ := exists_blockedReply hl inChannel (listedNames l keys)
    rw [gate_of_ne_nil hkeys hnil, Run.bind_of_ok (outcome_block htext),
      List.isEmpty_eq_false_iff.mpr hnil]
    rfl

/-- A message passes the gate exactly if its author misses nothing. -/
theorem outcome_gate_eq_false_iff :
    (gate h m l required inChannel).outcome = .ok false ↔
      missing (m.held inChannel) required = .ok [] := by
  cases hmissing : missing (m.held inChannel) required with
  | error e =>
    rw [gate_of_error hmissing]
    constructor <;> intro hf <;> cases hf
  | ok keys =>
    by_cases hkeys : keys = []
    · subst hkeys
      rw [gate_of_nil hmissing]
      exact ⟨fun _ => rfl, fun _ => rfl⟩
    · rw [gate_of_ne_nil hmissing hkeys]
      refine ⟨fun hf => ?_, fun hf => absurd (Except.ok.inj hf) hkeys⟩
      obtain ⟨_, -, htrue⟩ := Run.exists_of_bind_ok hf
      cases htrue

/-- A message that is blocked is answered by exactly one reply. -/
theorem replies_gate_of_true (ht : (gate h m l required inChannel).outcome = .ok true) :
    ∃ text, (gate h m l required inChannel).replies = [text] := by
  cases hmissing : missing (m.held inChannel) required with
  | error e => rw [gate_of_error hmissing] at ht; cases ht
  | ok keys =>
    by_cases hkeys : keys = []
    · subst hkeys
      rw [gate_of_nil hmissing] at ht
      cases ht
    · rw [gate_of_ne_nil hmissing hkeys] at ht ⊢
      obtain ⟨_, hblock, -⟩ := Run.exists_of_bind_ok ht
      obtain ⟨text, htext⟩ := replies_block hblock
      exact ⟨text, by rw [Run.replies_bind_of_ok hblock, htext, Run.replies_pure, List.append_nil]⟩

end ChatCommands.Permission
