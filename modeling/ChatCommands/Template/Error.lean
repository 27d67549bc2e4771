import ChatCommands.Misuse
import ChatCommands.Text.Quoted

/-!
# Failures of templates

A template can fail where it is written badly, where a field refers to something that the
arguments do not hold, and where a layout does not suit the value it is applied to.

## Main definitions

* `TemplateError` : the causes.
* `TemplateError.message`, `TemplateError.failureClass` : text and class of a cause.
-/

namespace ChatCommands

/-- Why a template cannot be filled in. -/
inductive TemplateError
  | loneOpening
  | loneClosing
  | openingInName
  | unclosedField
  | unclosedLayout
  | conversionMissing
  | layoutExpected
  | unknownConversion (c : Char)
  | automaticToManual
  | manualToAutomatic
  | textAfterItem
  | emptyPart
  | unclosedItem
  | tooManyDigits
  | tooDeep
  | noArgument (position : Nat)
  | noNamedArgument (name : String)
  | misuse (m : Misuse)
  | malformedLayout (layout type : String)
  | precisionMissing
  | bothSeparators
  | separatorRefused (separator kind : Char)
  | unknownKind (kind : Char) (type : String)
  | layoutRefused (type : String)
  | signInText
  | spaceInText
  | zeroCoercionInText
  | alternateInText
  | innerPaddingInText
  | precisionInInteger
  | zeroCoercionInInteger
  | signInCharacter
  | alternateInCharacter
  | characterRange
  | characterSize
  | integerSize
  | precisionSize
  | tooWide
deriving DecidableEq

namespace TemplateError

/-- A character in a message: itself within printable ASCII below `limit`, else its code. -/
def shown (limit : Nat) (c : Char) : String :=
  if 32 < c.toNat ∧ c.toNat < limit then String.singleton c
  else "\\x" ++ String.ofList (Nat.toDigits 16 (Text.codeOf c))

def message : TemplateError → String
  | .loneOpening => "Single '\x7b' encountered in format string"
  | .loneClosing => "Single '\x7d' encountered in format string"
  | .openingInName => "unexpected '\x7b' in field name"
  | .unclosedField => "expected '\x7d' before end of string"
  | .unclosedLayout => "unmatched '\x7b' in format spec"
  | .conversionMissing => "end of string while looking for conversion specifier"
  | .layoutExpected => "expected ':' after conversion specifier"
  | .unknownConversion c => "Unknown conversion specifier " ++ shown 127 c
  | .automaticToManual =>
    "cannot switch from automatic field numbering to manual field specification"
  | .manualToAutomatic =>
    "cannot switch from manual field specification to automatic field numbering"
  | .textAfterItem => "Only '.' or '[' may follow ']' in format field specifier"
  | .emptyPart => "Empty attribute in format string"
  | .unclosedItem => "Missing ']' in format string"
  | .tooManyDigits => "Too many decimal digits in format string"
  | .tooDeep => "Max string recursion exceeded"
  | .noArgument position =>
    "Replacement index " ++ toString position ++ " out of range for positional args tuple"
  | .noNamedArgument name => Text.quote name
  | .misuse m => m.message
  | .malformedLayout layout type =>
    "Invalid format specifier '" ++ layout ++ "' for object of type '" ++ type ++ "'"
  | .precisionMissing => "Format specifier missing precision"
  | .bothSeparators => "Cannot specify both ',' and '_'."
  | .separatorRefused separator kind =>
    "Cannot specify '" ++ String.singleton separator ++ "' with '" ++ shown 128 kind ++ "'."
  | .unknownKind kind type =>
    "Unknown format code '" ++ shown 128 kind ++ "' for object of type '" ++ type ++ "'"
  | .layoutRefused type => "unsupported format string passed to " ++ type ++ ".__format__"
  | .signInText => "Sign not allowed in string format specifier"
  | .spaceInText => "Space not allowed in string format specifier"
  | .zeroCoercionInText => "Negative zero coercion (z) not allowed in string format specifier"
  | .alternateInText => "Alternate form (#) not allowed in string format specifier"
  | .innerPaddingInText => "'=' alignment not allowed in string format specifier"
  | .precisionInInteger => "Precision not allowed in integer format specifier"
  | .zeroCoercionInInteger => "Negative zero coercion (z) not allowed in integer format specifier"
  | .signInCharacter => "Sign not allowed with integer format specifier 'c'"
  | .alternateInCharacter => "Alternate form (#) not allowed with integer format specifier 'c'"
  | .characterRange => "%c arg not in range(0x110000)"
  | .characterSize => "Python int too large to convert to C long"
  | .integerSize => "int too large to convert to float"
  | .precisionSize => "precision too big"
  | .tooWide => ""

def failureClass : TemplateError → FailureClass
  | .noArgument _ => .index
  | .noNamedArgument _ => .key
  | .misuse m => m.failureClass
  | .layoutRefused _ => .type
  | .characterRange | .characterSize | .integerSize => .overflow
  | .tooWide => .memory
  | _ => .value

end TemplateError

end ChatCommands
