/-!
# The limit on digits

An integer is neither read from nor written with more digits than a limit; either way fails.  The
limit is met where a document or a term is read, and where the engine itself writes a number that
it then uses: the key of a permission without a name.  What values are shown by, in logs, in
messages and in templates, is written with all its digits.

## Main definitions

* `Digits.most` : the most digits of an integer in a text.
* `Digits.isWritable` : whether a number has no more digits than that.
-/

namespace ChatCommands.Digits

/-- The most digits of an integer in a text. -/
def most : Nat := 4300

/-- Whether a number has no more digits than the limit. -/
def isWritable (n : Nat) : Bool :=
  n < Nat.pow 10 most

/-- What an integer with more digits is met with. -/
def limitText : String :=
  "Exceeds the limit (" ++ toString most ++ " digits) for integer string conversion"

/-- How the limit is raised. -/
def adviceText : String :=
  "; use sys.set_int_max_str_digits() to increase the limit"

end ChatCommands.Digits
