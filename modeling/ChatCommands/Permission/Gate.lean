import ChatCommands.Fault.Trigger
import ChatCommands.Message
import ChatCommands.Permission.Requirement

/-!
# The permission gate

The gate lets a message pass when its author holds what is required, in the scope that is asked
for.  Otherwise it logs the block and answers with the permissions that are missing.

## Main definitions

* `Permission.describe` : localized names of permission keys.
* `Permission.gate` : checks a message; the answer says whether it is blocked.
-/

namespace ChatCommands.Permission

/-- The localized names of permission keys. -/
def describe (keys : Value) (l : Locale) : Run String :=
  l.listing keys "common.permissions"

/-- The fault of an author who lacks permissions. -/
def missingFault (keys : List String) : Fault :=
  Fault.make .missingPermissions (some ("member is missing " ++ String.intercalate ", " keys)) []

/-- Answers a message whose author lacks permissions. -/
def block (h : Host) (m : Message) (l : Locale) (keys : List String) (inChannel : Bool) :
    Run Unit := do
  Run.log .info .permissions
    ("blocked " ++ m.author.literal ++ ", missing " ++ String.intercalate ", " keys)
  let listed ← describe (keyTuple keys) l
  (missingFault keys).trigger h l
    [("missing", keyTuple keys), ("listing", .text listed),
      ("channel", if inChannel then m.channel else .null)]

/-- Checks the author of a message against a requirement.  The answer is true when the author is
blocked, and then a reply has been sent. -/
def gate (h : Host) (m : Message) (l : Locale) (required : Value) (inChannel : Bool) :
    Run Bool := do
  let keys ← Run.ofExcept ((missing (m.held inChannel) required).mapError .refusal)
  if keys.isEmpty then return false
  else
    block h m l keys inChannel
    return true

end ChatCommands.Permission
