import ChatCommands.Text.Blank
import ChatCommands.Text.Case
import ChatCommands.Value.Item

/-!
# Runtime flags

The environment of the host names its flags in one text, between semicolons and in any letter
case.  Unknown flags are left out; no text, or a blank one, stands for production.

## Main definitions

* `Flag` : the known flags.
* `Environment.flags` : the flags that a text names.
* `Environment.isDevelopment` : whether development is one of them.
* `Environment.given` : the text that a value gives.
-/

namespace ChatCommands

/-- The known runtime flags, in the order of their names. -/
inductive Flag
  | development
  | production
deriving DecidableEq

namespace Flag

def all : List Flag := [.development, .production]

def name : Flag → String
  | .development => "development"
  | .production => "production"

end Flag

namespace Environment

/-- The flags that a text names, each once. -/
def flags (raw : Option String) : List Flag :=
  match raw with
  | none => [.production]
  | some s =>
    if (Text.trim s).isEmpty then [.production]
    else
      let names := (Text.splitAt ';' (Text.lower s)).map Text.trim
      Flag.all.filter fun f => names.contains f.name

/-- Whether a text names development. -/
def isDevelopment (raw : Option String) : Bool :=
  (flags raw).contains .development

/-- The text that a value gives, the standing one when it is `unset`.  Blank bytes are as good as a
blank text, other bytes are not cut at a text, and other values have no ends to be trimmed. -/
def given (standing : Option String) (v : Value) : Except Misuse (Option String) :=
  match v with
  | .unset => .ok standing
  | .null => .ok none
  | .text s => .ok (some s)
  | .bytes bs =>
    let isBlank (b : UInt8) : Bool :=
      decide (b.toNat = 0x20) || (decide (0x09 ≤ b.toNat) && decide (b.toNat ≤ 0x0d))
    if bs.all isBlank then .ok none else .error .separatorForBytes
  | v => .error (.noAttribute v.typeName "strip")

end Environment

end ChatCommands
