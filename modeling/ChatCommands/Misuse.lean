import ChatCommands.FaultCode
import ChatCommands.Text.Cut

/-!
# Misuse of values

Fields hold whatever a host put into them, so an operation can meet a value that does not support
it.  Each such failure records the names of the types involved, and its text follows from them.

## Main definitions

* `Misuse` : an operation met a value that does not support it.
* `Misuse.message`, `Misuse.failureClass` : its text and its class.
-/

namespace ChatCommands

/-- An operation met a value that does not support it.  Types are given by name. -/
inductive Misuse
  | noAttribute (type part : String)
  | noTypeAttribute (type part : String)
  | noMember (name : String)
  | typeNotSubscriptable (type : String)
  | notSubscriptable (type : String)
  | outOfRange (sequence : String)
  | positionExpected (type key : String)
  | missingKey (written : String)
  | notIterable (type : String)
  | notUnpackable (type : String)
  | notCallable (type : String)
  | unhashable (type : String)
  | operands (operator left right : String)
  | comparison (operator left right : String)
  | noSetter (part type : String)
  | concatenation (type other : String)
  | bytesConcatenation (type : String)
  | itemAssignment (type : String)
  | textExpected (type : String)
  | patternOnBytes
  | separatorForBytes
  | textAmongBytes
  | startForBytes
  | itemNotText (position : Nat) (type : String)
  | foreignReceiver (part owner type : String)
  | noLength (type : String)
deriving DecidableEq

namespace Misuse

/-- The name of a type in single quotes. -/
def quoted (type : String) : String :=
  "'" ++ type ++ "'"

/-- How an out of range position is reported for a kind of sequence. -/
def rangeText (sequence : String) : String :=
  if sequence = "str" then "string index out of range"
  else if sequence = "bytes" then "index out of range"
  else sequence ++ " index out of range"

/-- How a key that is no position is reported for a kind of sequence. -/
def positionText (type key : String) : String :=
  if type = "str" then "string indices must be integers, not " ++ quoted key
  else if type = "bytes" then "byte indices must be integers or slices, not " ++ key
  else type ++ " indices must be integers or slices, not " ++ key

/-- The most octets of the name of a type that are shown where a part is missing. -/
def longestType : Nat := 50

def message : Misuse → String
  | .noAttribute type part =>
    quoted (Text.cut longestType type) ++ " object has no attribute " ++ quoted part
  | .noTypeAttribute type part =>
    "type object " ++ quoted (Text.cut longestType type) ++ " has no attribute " ++ quoted part
  | .noMember name => name
  | .typeNotSubscriptable type => "type " ++ quoted type ++ " is not subscriptable"
  | .notSubscriptable type => quoted type ++ " object is not subscriptable"
  | .outOfRange sequence => rangeText sequence
  | .positionExpected type key => positionText type key
  | .missingKey written => written
  | .notIterable type => quoted type ++ " object is not iterable"
  | .notUnpackable type => "cannot unpack non-iterable " ++ type ++ " object"
  | .notCallable type => quoted type ++ " object is not callable"
  | .unhashable type => "unhashable type: " ++ quoted type
  | .operands operator left right =>
    "unsupported operand type(s) for " ++ operator ++ ": " ++ quoted left ++ " and " ++ quoted right
  | .comparison operator left right =>
    quoted operator ++ " not supported between instances of " ++ quoted left ++ " and " ++
      quoted right
  | .noSetter part type =>
    "property " ++ quoted part ++ " of " ++ quoted type ++ " object has no setter"
  | .concatenation type other =>
    "can only concatenate " ++ type ++ " (not \"" ++ other ++ "\") to " ++ type
  | .bytesConcatenation type => "can't concat " ++ type ++ " to bytes"
  | .itemAssignment type => quoted type ++ " object does not support item assignment"
  | .textExpected type => "expected string or bytes-like object, got " ++ quoted type
  | .patternOnBytes => "cannot use a string pattern on a bytes-like object"
  | .separatorForBytes => "a bytes-like object is required, not 'str'"
  | .itemNotText position type =>
    "sequence item " ++ toString position ++ ": expected str instance, " ++ type ++ " found"
  | .startForBytes => "startswith first arg must be bytes or a tuple of bytes, not str"
  | .textAmongBytes => "sequence item 0: expected a bytes-like object, str found"
  | .foreignReceiver part owner type =>
    "descriptor " ++ quoted part ++ " for " ++ quoted owner ++ " objects doesn't apply to a " ++
      quoted type ++ " object"
  | .noLength type => "object of type " ++ quoted type ++ " has no len()"

def failureClass : Misuse → FailureClass
  | .noAttribute _ _ | .noTypeAttribute _ _ | .noMember _ | .noSetter _ _ => .attribute
  | .outOfRange _ => .index
  | .missingKey _ => .key
  | _ => .type

end Misuse

end ChatCommands
