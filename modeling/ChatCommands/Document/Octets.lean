import ChatCommands.Document.Error

/-!
# Text from bytes

Bytes are read as UTF-8: a character is one byte, or a start byte with one to three continuation
bytes.  Overlong forms, surrogates and codes past the last plane are refused at the byte that
rules them out, and the refused bytes are those of the character up to that one.

## Main definitions

* `Document.Octets.character` : the character at the front of some bytes.
* `Document.Octets.text` : the characters of some bytes.
* `Document.Octets.ofText` : the bytes of a text.
* `Document.lines` : a text with every line break written as a line feed.
-/

namespace ChatCommands.Document

namespace Octets

/-- The number of continuation bytes that a start byte asks for, and the range of the first of
them. -/
def followers? (b : Nat) : Option (Nat × Nat × Nat) :=
  if b < 0x80 then some (0, 0, 0)
  else if b < 0xc2 then none
  else if b < 0xe0 then some (1, 0x80, 0xbf)
  else if b = 0xe0 then some (2, 0xa0, 0xbf)
  else if b = 0xed then some (2, 0x80, 0x9f)
  else if b < 0xf0 then some (2, 0x80, 0xbf)
  else if b = 0xf0 then some (3, 0x90, 0xbf)
  else if b < 0xf4 then some (3, 0x80, 0xbf)
  else if b = 0xf4 then some (3, 0x80, 0x8f)
  else none

/-- The payload of a start byte with a number of continuation bytes. -/
def payload (count b : Nat) : Nat :=
  match count with
  | 0 => b
  | 1 => b % 0x20
  | 2 => b % 0x10
  | _ => b % 0x08

/-- Reads `count` continuation bytes into a code, the first of them between `low` and `high`.  A
failure says how many bytes were good. -/
def continuation (code low high : Nat) : Nat → List UInt8 → Except (EncodingMistake × Nat) Nat
  | 0, _ => .ok code
  | _ + 1, [] => .error (.endOfData, 0)
  | count + 1, b :: rest =>
    if low ≤ b.toNat ∧ b.toNat ≤ high then
      match continuation (code * 0x40 + b.toNat % 0x40) 0x80 0xbf count rest with
      | .ok code => .ok code
      | .error (mistake, good) => .error (mistake, good + 1)
    else .error (.continuationByte, 0)

/-- The character at the front and the number of its continuation bytes, or the mistake with the
number of bytes that it takes in. -/
def character (b : UInt8) (rest : List UInt8) : Except (EncodingMistake × Nat) (Char × Nat) :=
  match followers? b.toNat with
  | none => .error (.startByte, 1)
  | some (count, low, high) =>
    match continuation (payload count b.toNat) low high count rest with
    | .ok code => .ok (Char.ofNat code, count)
    | .error (mistake, good) => .error (mistake, good + 1)

/-- The characters of some bytes; `offset` counts the bytes in front of them, and `skip` those of
the character read last. -/
def textFrom (offset skip : Nat) : List UInt8 → Except DocumentError (List Char)
  | [] => .ok []
  | b :: rest =>
    match skip with
    | skip + 1 => textFrom (offset + 1) skip rest
    | 0 =>
      match character b rest with
      | .ok (c, count) => do
        let chars ← textFrom (offset + 1) count rest
        return c :: chars
      | .error (mistake, taken) => .error (.encoding mistake offset ((b :: rest).take taken))

/-- The characters of some bytes. -/
def text (bytes : List UInt8) : Except DocumentError (List Char) :=
  textFrom 0 0 bytes

/-- The bytes of a text.  A half of a surrogate pair has none; the first of them is refused with
those that follow it at once. -/
def ofText (chars : List Char) : Except DocumentError (List UInt8) :=
  let front := chars.takeWhile fun c => !Text.holdsHalf c
  let halves := (chars.drop front.length).takeWhile Text.holdsHalf
  if halves.isEmpty then .ok (String.ofList chars).toUTF8.toList
  else .error (.unencodable front.length halves)

end Octets

/-- A text with every line break written as a line feed. -/
def lines : List Char → List Char
  | '\r' :: '\n' :: rest => '\n' :: lines rest
  | '\r' :: rest => '\n' :: lines rest
  | c :: rest => c :: lines rest
  | [] => []

end ChatCommands.Document
