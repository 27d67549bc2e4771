import ChatCommands.Decimal.Limit
import ChatCommands.FaultCode
import ChatCommands.Text.Quoted

/-!
# Failures of documents

A locale file can be absent, hold bytes that are no text, or hold text that is no document.  A
mistake in a text is reported with its line, its column and its offset, the first two counted
from one.  An integer with too many digits and containers nested too deep are beyond what is read,
and a text that holds half of a surrogate pair cannot be written to a file.

## Main definitions

* `SyntaxMistake` : the mistakes of a document.
* `DocumentError` : why a document cannot be had.
* `DocumentError.message`, `DocumentError.failureClass` : text and class of a cause.
-/

namespace ChatCommands

/-- The mistakes of a document. -/
inductive SyntaxMistake
  | valueExpected
  | nameExpected
  | colonExpected
  | commaExpected
  | unterminatedText
  | controlCharacter
  | badEscape
  | badCodeEscape
  | extraData
  | byteOrderMark
deriving DecidableEq

namespace SyntaxMistake

def message : SyntaxMistake → String
  | .valueExpected => "Expecting value"
  | .nameExpected => "Expecting property name enclosed in double quotes"
  | .colonExpected => "Expecting ':' delimiter"
  | .commaExpected => "Expecting ',' delimiter"
  | .unterminatedText => "Unterminated string starting at"
  | .controlCharacter => "Invalid control character at"
  | .badEscape => "Invalid \\escape"
  | .badCodeEscape => "Invalid \\uXXXX escape"
  | .extraData => "Extra data"
  | .byteOrderMark => "Unexpected UTF-8 BOM (decode using utf-8-sig)"

end SyntaxMistake

/-- Why bytes are no text. -/
inductive EncodingMistake
  | startByte
  | continuationByte
  | endOfData
deriving DecidableEq

namespace EncodingMistake

def message : EncodingMistake → String
  | .startByte => "invalid start byte"
  | .continuationByte => "invalid continuation byte"
  | .endOfData => "unexpected end of data"

end EncodingMistake

/-- The containers of a document. -/
inductive Container
  | array
  | object
deriving DecidableEq

namespace Container

def name : Container → String
  | .array => "array"
  | .object => "object"

end Container

/-- Why a document cannot be had.  Bytes that are no text are given with the offset of the first
of them, a mistake of the text with the line, the column and the offset, and a text that has no
bytes with its first halves of pairs and the offset of the first of them. -/
inductive DocumentError
  | absent (path : String)
  | directory (path : String)
  | nameTooLong (path : String)
  | nullInPath
  | tooManyDigits (count : Nat)
  | tooDeep (container : Container)
  | unencodable (offset : Nat) (halves : List Char)
  | encoding (mistake : EncodingMistake) (offset : Nat) (bytes : List UInt8)
  | syntaxAt (mistake : SyntaxMistake) (line column offset : Nat)
deriving DecidableEq

namespace DocumentError

def message : DocumentError → String
  | .absent path => "[Errno 2] No such file or directory: " ++ Text.quote path
  | .directory path => "[Errno 21] Is a directory: " ++ Text.quote path
  | .nameTooLong path => "[Errno 36] File name too long: " ++ Text.quote path
  | .nullInPath => "embedded null byte"
  | .tooManyDigits count =>
    Digits.limitText ++ ": value has " ++ toString count ++ " digits" ++ Digits.adviceText
  | .tooDeep container =>
    "maximum recursion depth exceeded while decoding a JSON " ++ container.name ++
      " from a unicode string"
  | .unencodable offset halves =>
    let place := match halves with
      | [c] =>
        "character '" ++ String.ofList (Text.escapeCode (Text.codeOf c)) ++ "' in position " ++
          toString offset
      | _ =>
        "characters in position " ++ toString offset ++ "-" ++
          toString (offset + halves.length - 1)
    "'utf-8' codec can't encode " ++ place ++ ": surrogates not allowed"
  | .encoding mistake offset bytes =>
    let place := match bytes with
      | [b] =>
        "byte 0x" ++ String.ofList (Text.hexDigits 2 b.toNat) ++ " in position " ++ toString offset
      | _ =>
        "bytes in position " ++ toString offset ++ "-" ++ toString (offset + bytes.length - 1)
    "'utf-8' codec can't decode " ++ place ++ ": " ++ mistake.message
  | .syntaxAt mistake line column offset =>
    mistake.message ++ ": line " ++ toString line ++ " column " ++ toString column ++ " (char " ++
      toString offset ++ ")"

def failureClass : DocumentError → FailureClass
  | .absent _ => .fileMissing
  | .directory _ => .directory
  | .nameTooLong _ => .system
  | .nullInPath | .tooManyDigits _ => .value
  | .tooDeep _ => .recursion
  | .unencodable _ _ => .encoding
  | .encoding _ _ _ => .decoding
  | .syntaxAt _ _ _ _ => .document

end DocumentError

end ChatCommands
