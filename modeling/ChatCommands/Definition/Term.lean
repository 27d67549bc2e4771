import ChatCommands.Argument.Parse
import ChatCommands.Command.Basic
import ChatCommands.Definition.Written

/-!
# Written definitions

Definitions are written as terms.  Building a term makes its commands, arguments, scripts and
iterators, each with a serial number of its own, so that two of them written alike are still two;
only a term that refers to a variable gives the very value that the variable holds.  A float that
is not a number is one of its own, too.  Building fails where a value cannot be made: a text that
writes no number, an item of a set that cannot be a key, or permissions that cannot be resolved.

## Main definitions

* `Term` : written definitions.
* `Build` : computations that draw serial numbers.
* `Term.build` : the value of a term.
-/

namespace ChatCommands

/-- Written definitions.  The fields of commands and arguments are given by name. -/
inductive Term
  | const (v : Value)
  | integer (written : String)
  | float (written : String)
  | bytes (written : String)
  | permissions (written : String)
  | code (name : String)
  | list (items : List Term)
  | tuple (items : List Term)
  | set (isFrozen : Bool) (items : List Term)
  | stream (items : List Term)
  | map (entries : List (String × Term))
  | holder (content : Term)
  | argument (name : Term) (types : List Term) (fields : List (String × Term))
  | command (fields : List (String × Term))
  | script (label : String) (waits : Bool) (result : Term) (kind : Option FailureClass)
      (details : List Term) (replies formats : List String)
  | variable (moduleName name : String)

instance : Inhabited Term := ⟨.const .null⟩

/-- Computations that draw serial numbers. -/
abbrev Build (α : Type) := StateT Nat (Except Error) α

/-- The variables that terms may refer to, by module and name. -/
abbrev Scope := String → String → Option Value

/-- A scope without variables. -/
def Scope.empty : Scope := fun _ _ => none

namespace Build

/-- A new serial number. -/
def serial : Build Nat := do
  let n ← get
  set (n + 1)
  return n

/-- Lifts a result that draws no serial number. -/
def ofExcept {α : Type} (r : Except Error α) : Build α :=
  liftM r

end Build

namespace CommandFields

/-- The fields of a command from named values. -/
def ofEntries (entries : Entries) : CommandFields :=
  ⟨(entries.lookup "name").getD .null, entries.lookup "shortcut", entries.lookup "permissions",
    entries.lookup "channel", entries.lookup "guard", entries.lookup "subcommands",
    entries.lookup "arguments", entries.lookup "handler"⟩

end CommandFields

/-- Items in the order in which a set shows them: whole numbers ascend, all else stays in place. -/
def Value.inSetOrder (items : List Value) : List Value :=
  match items.mapM Value.integer? with
  | some _ => items.mergeSort fun v w => decide (v.integer?.getD 0 ≤ w.integer?.getD 0)
  | none => items

/-- A set of values, each once. -/
def Value.setOf (isFrozen : Bool) (items : List Value) : Except Misuse Value := do
  items.forM Value.hashable
  return .set isFrozen (Value.inSetOrder (Value.distinct items))

namespace Term

/-- A command from named values. -/
def makeCommand (entries : Entries) : Build Value := do
  let serial ← Build.serial
  let made := CommandOf.make serial (CommandFields.ofEntries entries)
  let c ← Build.ofExcept (made.mapError .refusal)
  return .command c

/-- A failure of a class with details, when there is a class. -/
def failureOf (kind : Option FailureClass) (details : List Value) : Option Failure :=
  kind.map fun k => ⟨k, details⟩

mutual

/-- The value of a term. -/
def build (scope : Scope) : Term → Build Value
  | .const v => return v
  | .integer written => do return .int (← Build.ofExcept (Written.integer written))
  | .float written => do
    let x ← Build.ofExcept (Written.float written)
    let serial ← Build.serial
    return .float (x.withSerial serial)
  | .bytes written => do return .bytes (← Build.ofExcept (Written.bytes written))
  | .permissions written => do
    let n ← Build.ofExcept (Written.integer written)
    let field := Permission.ofBits (Permission.ofInt n)
    return .permissions (← Build.ofExcept (field.mapError .refusal))
  | .code name =>
    match FaultCode.ofName? name with
    | some c => return .code c
    | none => throw (.misuse (.missingKey (Text.quote name)))
  | .list items => do return .list (← buildAll scope items)
  | .tuple items => do return .tuple (← buildAll scope items)
  | .set isFrozen items => do
    let values ← buildAll scope items
    Build.ofExcept (Value.checked (Value.setOf isFrozen values))
  | .stream items => do
    let values ← buildAll scope items
    let serial ← Build.serial
    return .stream serial values
  | .map entries => do return .map false (← buildEntries scope entries)
  | .holder content => do return .holder (← build scope content)
  | .argument name types fields => do
    let name ← build scope name
    let types ← buildAll scope types
    let entries ← buildEntries scope fields
    let serial ← Build.serial
    return .argument
      (ArgumentOf.make serial name types (entries.lookup "variadic") (entries.lookup "default"))
  | .command fields => do
    let entries ← buildEntries scope fields
    makeCommand entries
  | .script label waits result kind details replies formats => do
    let result ← build scope result
    let details ← buildAll scope details
    let serial ← Build.serial
    return .callable
      (.script ⟨serial, label, waits, result, failureOf kind details, replies, formats⟩)
  | .variable moduleName name =>
    match scope moduleName name with
    | some v => return v
    | none => throw (.misuse (.noAttribute "module" name))

/-- The values of some terms. -/
def buildAll (scope : Scope) : List Term → Build (List Value)
  | [] => return []
  | t :: rest => do
    let v ← build scope t
    let others ← buildAll scope rest
    return v :: others

/-- The values of named terms. -/
def buildEntries (scope : Scope) : List (String × Term) → Build Entries
  | [] => return []
  | (name, t) :: rest => do
    let v ← build scope t
    let others ← buildEntries scope rest
    return (name, v) :: others

end

end Term

end ChatCommands
