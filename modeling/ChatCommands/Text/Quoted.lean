import ChatCommands.Text.Half
import ChatCommands.Text.Printable

/-!
# Quoted text

Texts and byte strings are shown in quotes in messages and logs.  Single quotes are used unless
the text holds a single quote and no double quote.  The quote in use and the backslash are
escaped, line breaks and tabs have their own escapes, and a character that is not printable is
written by its code in two, four or eight hexadecimal digits.

## Main definitions

* `Text.quote` : a text in quotes.
* `Text.escapeWide` : a text with ASCII characters only.
* `Text.quoteBytes` : a byte string in quotes.
-/

namespace ChatCommands.Text

/-- The hexadecimal digits of `n`, padded with zeros to `width`. -/
def hexDigits (width n : Nat) : List Char :=
  let digits := Nat.toDigits 16 n
  List.replicate (width - digits.length) '0' ++ digits

/-- A character written by its code. -/
def escapeCode (code : Nat) : List Char :=
  if code < 0x100 then '\\' :: 'x' :: hexDigits 2 code
  else if code < 0x10000 then '\\' :: 'u' :: hexDigits 4 code
  else '\\' :: 'U' :: hexDigits 8 code

/-- The quote for a content: single unless it holds a single quote and no double quote. -/
def quoteFor (content : List Char) : Char :=
  if content.contains '\'' && !content.contains '"' then '"' else '\''

/-- One character between quotes; `plain` says which characters stand for themselves. -/
def quoteChar (mark : Char) (plain : Char → Bool) (c : Char) : List Char :=
  if c = mark ∨ c = '\\' then ['\\', c]
  else if c = '\n' then ['\\', 'n']
  else if c = '\r' then ['\\', 'r']
  else if c = '\t' then ['\\', 't']
  else if plain c then [c]
  else escapeCode (codeOf c)

def quoteWith (plain : Char → Bool) (content : List Char) : List Char :=
  let mark := quoteFor content
  mark :: content.flatMap (quoteChar mark plain) ++ [mark]

/-- A text in quotes. -/
def quote (s : String) : String :=
  String.ofList (quoteWith isPrintable s.toList)

/-- A text with every character above ASCII written by its code. -/
def escapeWide (s : String) : String :=
  String.ofList (s.toList.flatMap fun c => if c.toNat < 0x80 then [c] else escapeCode (codeOf c))

/-- A byte string in quotes, marked by a leading `b`.  Bytes outside printable ASCII are written
by their code. -/
def quoteBytes (bytes : List UInt8) : String :=
  let content := bytes.map fun b => Char.ofNat b.toNat
  let plain (c : Char) : Bool := decide (0x20 ≤ c.toNat) && decide (c.toNat < 0x7f)
  String.ofList ('b' :: quoteWith plain content)

end ChatCommands.Text
