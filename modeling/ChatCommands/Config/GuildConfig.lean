import ChatCommands.Error

/-!
# Configuration of a guild

A guild chooses whether shortcuts count, the text that every command message starts with, and the
tag of its locale.

## Main definitions

* `GuildConfig` : the configuration.
* `GuildConfig.make` : a configuration from given values.
-/

namespace ChatCommands

/-- The configuration of a guild.  Without a `lead` every message is read as a command. -/
structure GuildConfig where
  shortcuts : Bool
  lead : Option String
  locale : String
deriving DecidableEq

namespace GuildConfig

/-- The configuration of a guild that chooses nothing. -/
def standard : GuildConfig :=
  ⟨false, some "!", "en"⟩

/-- The lead that a value gives: an empty text is no lead. -/
def leadOf : Value → Except Error (Option String)
  | .null => .ok none
  | .text s => .ok (if s.isEmpty then none else some s)
  | _ => .error (.refusal .configLead)

def localeOf : Value → Except Error String
  | .text s => .ok s
  | _ => .error (.refusal .configLocale)

/-- A configuration from the values given for its fields. -/
def make (shortcuts lead locale : Option Value) : Except Error GuildConfig := do
  let lead ← leadOf (lead.getD (.text "!"))
  let locale ← localeOf (locale.getD (.text "en"))
  return ⟨(shortcuts.map Value.isTruthy).getD false, lead, locale⟩

/-- The fields of a configuration. -/
def display (c : GuildConfig) : List (String × Value) :=
  [("shortcuts", .bool c.shortcuts),
    ("prefix", match c.lead with
      | some s => .text s
      | none => .null),
    ("locale", .text c.locale)]

end GuildConfig

end ChatCommands
