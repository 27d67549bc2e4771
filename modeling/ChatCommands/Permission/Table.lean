import ChatCommands.Text.Case

/-!
# Named permissions

A permission is a bit of a field; the platform names the first forty-one bits.  A bit without a
name is kept and enforced all the same, and is shown by its decimal value.

## Main definitions

* `Permission.keys` : the keys of the named bits, in bit order.
* `Permission.bitKey` : the key of a bit, its decimal value when it has no name.
* `Permission.bitsOf` : the set bits of a field, in increasing order.
* `Permission.administrator` : the field that satisfies every requirement.
* `Permission.unnamed` : the part of a field without names.
* `Permission.display` : a field with the names of its bits.
-/

namespace ChatCommands.Permission

/-- The keys of the named permissions, bit `0` first. -/
def keys : List String :=
  ["create_instant_invite", "kick_members", "ban_members", "administrator", "manage_channels",
    "manage_guild", "add_reactions", "view_audit_log", "priority_speaker", "stream",
    "view_channel", "send_messages", "send_tts_messages", "manage_messages", "embed_links",
    "attach_files", "read_message_history", "mention_everyone", "use_external_emojis",
    "view_guild_insights", "connect", "speak", "mute_members", "deafen_members", "move_members",
    "use_vad", "change_nickname", "manage_nicknames", "manage_roles", "manage_webhooks",
    "manage_emojis", "use_application_commands", "request_to_speak", "manage_events",
    "manage_threads", "create_public_threads", "create_private_threads", "use_external_stickers",
    "send_messages_in_threads", "use_embedded_activities", "moderate_members"]

/-- The position of the administrator bit. -/
def administratorBit : Nat := 3

/-- The field of the administrator permission alone. -/
def administrator : Nat := Nat.pow 2 administratorBit

/-- The field of all named permissions. -/
def named : Nat := Nat.pow 2 keys.length - 1

/-- The key of a bit: its name, or the decimal value of the bit when it has none. -/
def bitKey (bit : Nat) : String :=
  match keys[bit]? with
  | some key => key
  | none => toString (Nat.pow 2 bit)

/-- The keys of the named permissions under the values of their bits. -/
def valueKeys : List (Nat × String) :=
  keys.zipIdx.map fun (key, bit) => (Nat.pow 2 bit, key)

/-- The positions of the set bits of a field, in increasing order. -/
def bitsOf (field : Nat) : List Nat :=
  (List.range (field.log2 + 1)).filter fun bit => field.testBit bit

/-- The written name of a key. -/
def writtenName (key : String) : String :=
  Text.upper key

/-- The English name of a key: its words capitalised. -/
def englishName (key : String) : String :=
  Text.title (String.ofList (key.toList.map fun c => if c = '_' then ' ' else c))

/-- The bit that a key names, in any letter case. -/
def bitOfKey? (key : String) : Option Nat :=
  keys.findIdx? fun k => writtenName k = Text.upper key

/-- The field of an integer.  A negative integer counts down from the first power of two above
both the named bits and its magnitude. -/
def ofInt (n : Int) : Nat :=
  if 0 ≤ n then n.toNat
  else if -(named + 1 : Int) ≤ n then (n + named + 1).toNat
  else (n + max (named + 1) (Nat.pow 2 (n.natAbs.log2 + 1)) : Int).toNat

/-- The bits of a field that have no name. -/
def unnamed (field : Nat) : Nat :=
  field - field % (named + 1)

/-- The names of the named bits of a field and, last, the decimal value of the others. -/
def nameList (field : Nat) : List String :=
  let written := ((bitsOf field).filter fun bit => bit < keys.length).map
    fun bit => writtenName (bitKey bit)
  if unnamed field = 0 then written else written ++ [toString (unnamed field)]

/-- A field with the names of its bits. -/
def display (field : Nat) : String :=
  let value := toString field
  if field % (named + 1) = 0 then "<Permissions: " ++ value ++ ">"
  else "<Permissions." ++ String.intercalate "|" (nameList field) ++ ": " ++ value ++ ">"

end ChatCommands.Permission
