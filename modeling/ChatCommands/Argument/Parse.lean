import ChatCommands.Argument.Converters
import ChatCommands.Argument.Position

/-!
# Reading arguments

The tokens after the name of a command are read from left to right against its argument
definitions.  A fixed argument takes one token, or its default when the tokens have run out; a
variadic one takes tokens as long as they can be coerced.  Nothing is ever given back.

## Main definitions

* `coerce` : the value of one token for an argument.
* `collect` : the tokens that a variadic argument takes.
* `parse` : the values of all arguments.
-/

namespace ChatCommands

namespace ArgumentOf

/-- An argument definition from given values; the default is kept as a snapshot. -/
def make (serial : Nat) (name : Value) (types : List Value) (variadic default : Option Value) :
    Argument :=
  ⟨serial, name, types, variadic.getD (.bool false), (default.getD .unset).frozen⟩

end ArgumentOf

/-! ### The faults of arguments -/

/-- How messages name an argument. -/
def argumentLabel (a : Argument) : String :=
  "argument " ++ a.name.literal

def noTypesFault (a : Argument) : Fault :=
  Fault.make .invalidArgumentType (some (argumentLabel a ++ " declares no types"))
    [("argument", .argument a)]

def requiredFault (a : Argument) : Fault :=
  Fault.make .missingArgument (some (argumentLabel a ++ " is required"))
    [("argument", .argument a)]

def unknownTypeFault (a : Argument) (tag : Value) : Fault :=
  Fault.make .unknownArgumentType (some ("unknown argument type " ++ tag.literal))
    [("argument", .argument a), ("tag", tag)]

def invalidFault (a : Argument) (token : Value) : Fault :=
  Fault.make .invalidArgumentType (some (argumentLabel a ++ " cannot be " ++ token.literal))
    [("argument", .argument a), ("token", token)]

/-- A fault that names the position of its token. -/
def Fault.located (f : Fault) (cursor : Nat) : Fault :=
  Fault.make f.kind
    (some (f.messageValue.plain ++ " at " ++ ordinal (cursor + 1) ++ " position"))
    (f.options.union [("index", .int cursor)])

/-! ### Coercion -/

/-- The first value that the strategies of some tags give a token. -/
def firstAccepted (table : Converters) (a : Argument) (token : Value) :
    List Value → Except Error Value
  | [] => .error (.fault (invalidFault a token))
  | tag :: rest => do
    match ← Value.checked (table.find tag) with
    | none => .error (.fault (unknownTypeFault a tag))
    | some strategy =>
      let v ← strategy token
      if v.isUnset then firstAccepted table a token rest else return v

/-- The value of an absent token. -/
def absent (a : Argument) (required : Bool) : Except Error Value :=
  if !a.isVariadic && !a.default.isUnset then .ok a.default
  else if required then .error (.fault (requiredFault a))
  else .ok .unset

/-- The value of a token for an argument; `unset` stands for an absent token. -/
def coerce (table : Converters) (token : Value) (a : Argument) (required : Bool) :
    Except Error Value :=
  if a.types.isEmpty then .error (.fault (noTypesFault a))
  else if token.isUnset then absent a required
  else firstAccepted table a token a.types

/-! ### Whole argument lists -/

/-- Whether an error is a fault about a token of the wrong type. -/
def Error.isInvalidArgument : Error → Bool
  | .fault f => f.kind = .invalidArgumentType
  | _ => false

/-- The values of the tokens that a variadic argument takes, and the tokens after them. -/
def collect (table : Converters) (a : Argument) :
    List Value → Except Error (List Value × List Value)
  | [] => .ok ([], [])
  | token :: rest =>
    match coerce table token a false with
    | .ok v => do
      let (values, rest) ← collect table a rest
      return (v :: values, rest)
    | .error e => if e.isInvalidArgument then .ok ([], token :: rest) else .error e

/-- An error of a fixed argument; faults about the argument name the position of the token. -/
def atPosition (cursor : Nat) : Error → Error
  | .fault f =>
    match f.kind with
    | .missingArgument | .invalidArgumentType => .fault (f.located cursor)
    | _ => .fault f
  | e => e

/-- A definition among argument definitions. -/
def asArgument : Value → Except Misuse Argument
  | .argument a => .ok a
  | v => .error (.noAttribute v.typeName "variadic")

/-- The values of some arguments; `cursor` counts the tokens in front of the given ones. -/
def parseFrom (table : Converters) (cursor : Nat) (tokens : List Value) :
    List Value → Except Error (List Value)
  | [] => .ok []
  | definition :: rest => do
    let a ← Value.checked (asArgument definition)
    if a.isVariadic then
      let (values, after) ← collect table a tokens
      let others ← parseFrom table (cursor + values.length) after rest
      return .list values :: others
    else
      let v ← (coerce table (tokens.head?.getD .unset) a true).mapError (atPosition cursor)
      let others ← parseFrom table (cursor + 1) tokens.tail rest
      return v :: others

/-- The values of all arguments.  Without definitions the tokens are passed on as they are. -/
def parse (table : Converters) (tokens : List Value) (definitions : Value) :
    Except Error (List Value) :=
  if definitions.isNull then .ok tokens
  else do
    let definitions ← Value.checked definitions.items
    parseFrom table 0 tokens definitions

end ChatCommands
