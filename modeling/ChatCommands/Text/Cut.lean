/-!
# Texts cut to a number of octets

Messages show a long name only up to a number of octets of its UTF-8 form.  A character that the
cut goes through is shown as the replacement character.

## Main definitions

* `Text.cut` : a text up to a number of octets.
-/

namespace ChatCommands.Text

/-- The characters within a number of octets, and the replacement character in place of one that
is only partly within. -/
def cutChars (limit : Nat) : List Char → List Char
  | [] => []
  | c :: rest =>
    if c.utf8Size ≤ limit then c :: cutChars (limit - c.utf8Size) rest
    else if limit = 0 then []
    else ['\ufffd']

/-- A text up to a number of octets. -/
def cut (limit : Nat) (s : String) : String :=
  String.ofList (cutChars limit s.toList)

end ChatCommands.Text
