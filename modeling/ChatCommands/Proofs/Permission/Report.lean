import ChatCommands.Proofs.Permission.Difference

/-!
# What a blocked author is told

The gate answers an author with the permissions that are lacking and with nothing else: one entry
for each bit of the shortfall, in increasing order, each under the name that the locale has for it
at its root.  The names are put into the template of the scope as they are, and so is the name of a
channel: what looks like a field in them is not filled in again.

## Main definitions

* `Permission.bitName` : the name of a bit in a locale.
* `Permission.listedBits` : the names of some bits, one after another.

## Main results

* `Permission.listedNames_map_bitKey` : the keys of some bits are listed by the names of the bits.
* `Permission.gate_of_shortfall` : the gate is decided by the shortfall.
* `Permission.gate_names_shortfall` : whom the gate stops, and what its reply names.
-/

namespace ChatCommands.Permission

variable {h : Host} {m : Message} {l : Locale} {required : Value} {inChannel : Bool}

/-- The name of a permission: the text that the locale has for its key, unless there is none or it
is empty, and then the key. -/
def bitName (l : Locale) (bit : Nat) : String :=
  ((l.textAt? ["common", "permissions", bitKey bit]).filter fun name => !name.isEmpty).getD
    (bitKey bit)

/-- The names of some bits with the separator of the locale between them. -/
def listedBits (l : Locale) (bits : List Nat) : String :=
  String.intercalate (l.commonText "list_separator") (bits.map (bitName l))

/-! ### The listing -/

theorem nameIn_bitKey (l : Locale) (bit : Nat) :
    l.nameIn "common.permissions" (bitKey bit) = bitName l bit := by
  have hpath : Text.dotted "common.permissions" = ["common", "permissions"] := by decide
  rw [Locale.nameIn, hpath, dotted_bitKey]
  rfl

/-- The keys of some bits are listed by the names of the bits. -/
theorem listedNames_map_bitKey (l : Locale) (bits : List Nat) :
    listedNames l (bits.map bitKey) = listedBits l bits := by
  rw [listedNames, listedBits, List.map_map]
  exact congrArg _ (List.map_congr_left fun bit _ => nameIn_bitKey l bit)

/-! ### The name of the channel -/

theorem blockedReply_of_text {name : String} (hchannel : m.channel = .text name) (l : Locale)
    (listed : String) :
    blockedReply m l true listed =
      Template.format (l.commonText "no_channel_permissions") [.text listed, .text name] := by
  rw [blockedReply, hchannel]
  rfl

/-- The listing and the name of the channel are put into a positional template as they are. -/
theorem eq_inserted_of_blockedReply {name listed text : String} (hchannel : m.channel = .text name)
    (hpositional : Template.isPositional 2 (l.commonText "no_channel_permissions") = true)
    (htext : blockedReply m l true listed = .ok text) :
    text = Template.inserted [listed, name] (l.commonText "no_channel_permissions") := by
  have hformat : Template.format (l.commonText "no_channel_permissions")
      [.text listed, .text name] = .ok _ := Template.format_of_isPositional hpositional
  rw [blockedReply_of_text hchannel, hformat] at htext
  exact (Except.ok.inj htext).symm

/-! ### The answer of the gate -/

section Shortfall

variable {held wanted : Nat} (hheld : resolve (m.held inChannel) = .ok held)
  (hrequired : resolve required = .ok wanted) (htold : CanBeTold held wanted)

include hheld hrequired htold

/-- The gate lets a message pass without a trace when nothing is lacking, and otherwise sends the
reply with the names of what is lacking. -/
theorem gate_of_shortfall :
    (shortfall held wanted = [] → gate h m l required inChannel = pure false) ∧
    (shortfall held wanted ≠ [] → ∀ text,
      blockedReply m l inChannel (listedBits l (shortfall held wanted)) = .ok text →
        (gate h m l required inChannel).outcome = .ok true ∧
        (gate h m l required inChannel).replies = [text]) := by
  have hmissing := missing_of_canBeTold hheld hrequired htold
  refine ⟨fun hnil => ?_, fun hne text htext => ?_⟩
  · rw [hnil] at hmissing
    exact gate_of_nil hmissing
  · rw [← listedNames_map_bitKey] at htext
    have hblock := outcome_block (h := h) htext
    rw [gate_of_ne_nil hmissing (mt List.map_eq_nil_iff.mp hne)]
    constructor
    · rw [Run.bind_of_ok hblock]
      rfl
    · rw [Run.replies_bind_of_ok hblock, replies_block_of_blockedReply htext]
      rfl

/-- The gate stops just those who are no administrators and lack a required bit, as long as the
keys of what they lack can be written.  Its one reply names exactly the lacking bits, in increasing
order; nobody else gets a reply. -/
theorem gate_names_shortfall (h : Host)
    (hl : shortfall held wanted ≠ [] →
      ∃ text, blockedReply m l inChannel (listedBits l (shortfall held wanted)) = .ok text) :
    (∃ blocked, (gate h m l required inChannel).outcome = .ok blocked) ∧
    ((gate h m l required inChannel).outcome = .ok true ↔ isAdministrator held = false ∧
      ∃ bit, wanted.testBit bit = true ∧ held.testBit bit = false) ∧
    ((gate h m l required inChannel).outcome = .ok false →
      (gate h m l required inChannel).replies = []) ∧
    ((gate h m l required inChannel).outcome = .ok true → ∃ (bits : List Nat) (text : String),
      (∀ bit, bit ∈ bits ↔ wanted.testBit bit = true ∧ held.testBit bit = false) ∧
      bits.Pairwise (· < ·) ∧
      (gate h m l required inChannel).replies = [text] ∧
      blockedReply m l inChannel (listedBits l bits) = .ok text ∧
      ∀ name, inChannel = true → m.channel = .text name →
        Template.isPositional 2 (l.commonText "no_channel_permissions") = true →
          text = Template.inserted [listedBits l bits, name]
            (l.commonText "no_channel_permissions")) := by
  obtain ⟨hpass, hstop⟩ := gate_of_shortfall (h := h) (l := l) hheld hrequired htold
  have hlacks : shortfall held wanted ≠ [] ↔ _ := shortfall_ne_nil_iff
  by_cases hnil : shortfall held wanted = []
  · have hgate := hpass hnil
    have hfalse : ¬ (gate h m l required inChannel).outcome = .ok true := by
      rw [hgate]
      nofun
    exact ⟨⟨false, hgate ▸ rfl⟩, iff_of_false hfalse (mt hlacks.mpr (not_not.mpr hnil)),
      fun _ => hgate ▸ rfl, fun htrue => absurd htrue hfalse⟩
  · obtain ⟨text, htext⟩ := hl hnil
    obtain ⟨htrue, hreply⟩ := hstop hnil text htext
    refine ⟨⟨true, htrue⟩, iff_of_true htrue (hlacks.mp hnil), fun hfalse => ?_, fun _ =>
      ⟨shortfall held wanted, text, fun bit => ?_, pairwise_shortfall _ _, hreply, htext,
        fun name hscope hchannel hpositional => ?_⟩⟩
    · cases htrue.symm.trans hfalse
    · rw [mem_shortfall, and_iff_right (hlacks.mp hnil).1]
    · subst hscope
      exact eq_inserted_of_blockedReply hchannel hpositional htext

end Shortfall

/-- A member who may only send messages in a channel whose name looks like a field. -/
def writer : Message :=
  ⟨.text "purge", .text "bea", false, .int 0, .int 2048, .text "\x7b0\x7d"⟩

/-- The reply to somebody who may not clean up a channel names the channel as it is. -/
theorem gate_names_shortfall_writer :
    resolve (writer.held true) = .ok 2048 ∧ resolve (.int 10240) = .ok 10240 ∧
      CanBeTold 2048 10240 ∧
      (shortfall 2048 10240 ≠ [] → ∃ text,
        blockedReply writer Locale.english true
          (listedBits Locale.english (shortfall 2048 10240)) = .ok text) ∧
      (gate Host.bare writer Locale.english (.int 10240) true).outcome = .ok true ∧
      (gate Host.bare writer Locale.english (.int 10240) true).replies =
        ["You are missing the following permissions in #\x7b0\x7d: Manage Messages"] := by
  have hheld : resolve (writer.held true) = .ok 2048 := rfl
  have hrequired : resolve (.int 10240) = .ok 10240 := rfl
  have htold : CanBeTold 2048 10240 := (isNarrow_of_lt (by decide)).canBeTold
  have hl : shortfall 2048 10240 ≠ [] → ∃ text,
      blockedReply writer Locale.english true
        (listedBits Locale.english (shortfall 2048 10240)) = .ok text :=
    fun _ => exists_blockedReply (Locale.formats_english _) _ _
  obtain ⟨-, htrue, -, hreply⟩ := gate_names_shortfall hheld hrequired htold Host.bare hl
  have hblocked := htrue.mpr ⟨by decide, 13, by decide, by decide⟩
  obtain ⟨bits, text, hbits, hsorted, hreplies, -, hname⟩ := hreply hblocked
  have hbit : shortfall 2048 10240 = [13] := by decide +kernel
  have hone : bits = [13] := by
    refine hsorted.eq_of_mem_iff (List.pairwise_singleton _ _) fun bit => ?_
    rw [← hbit, mem_shortfall, hbits, and_iff_right (show isAdministrator 2048 = false by decide)]
  rw [hreplies, hname _ rfl rfl (by decide), hone]
  refine ⟨hheld, hrequired, htold, hl, hblocked, ?_⟩
  decide +kernel

end ChatCommands.Permission
