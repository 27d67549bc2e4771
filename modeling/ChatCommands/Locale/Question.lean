import ChatCommands.Locale.Listing

/-!
# Questions to a view

A view is asked by the name of a question and the values given with it.  A question takes a key of
any kind; those that may be missed also take whether a miss is an answer, by position or by name,
and templates take the values for their fields.

## Main definitions

* `Question` : the questions.
* `Answer` : a text or a view, if there is one.
* `Locale.ask` : the answer to a question with given values.
-/

namespace ChatCommands

/-- The questions to a view that can be missed. -/
inductive Lookup
  | get
  | common
  | sublocale
  | commandLocale
deriving DecidableEq

/-- The questions to a view. -/
inductive Question
  | lookup (q : Lookup)
  | format
  | formatCommon
  | path
  | display
deriving DecidableEq

/-- What a question is answered by. -/
inductive Answer
  | text (s : Option String)
  | view (l : Option Locale)

namespace Lookup

/-- How messages name a question. -/
def operation : Lookup → String
  | .get => "Locale.get"
  | .common => "Locale.common"
  | .sublocale => "Locale.sublocale"
  | .commandLocale => "Locale.commandlocale"

/-- How messages name the key of a question. -/
def parameter : Lookup → String
  | .get | .common => "key"
  | .sublocale => "path"
  | .commandLocale => "name"

/-- How messages name the value that says whether a miss is an answer. -/
def missParameter : String := "allow_missing"

/-- The key of a question and whether a miss is an answer, from the values given by position and
the one given by name. -/
def arguments (q : Lookup) (given : List Value) (named : Option Value) :
    Except Refusal (Value × Bool) :=
  match given, named with
  | [], _ => .error (.argumentMissing q.operation q.parameter)
  | [key], named => .ok (key, (named.getD (.bool false)).isTruthy)
  | _ :: _ :: _, some _ => .error (.argumentRepeated q.operation missParameter)
  | [key, miss], none => .ok (key, miss.isTruthy)
  | given, none => .error (.argumentCount q.operation 2 3 (given.length + 1))

end Lookup

namespace Locale

/-- The section of a command whose name may be of any kind, an empty view when there is none.  A
path with a name that is no text cannot be reported as missing. -/
def sectionOf (l : Locale) (name : Value) : Run Locale := do
  match ← Run.ofExcept (Value.checked (l.sectionOf? name)), name with
  | some v, _ => return v
  | none, .text s => l.commandLocale s
  | none, v =>
    Run.fail (.misuse (.itemNotText l.sectionsPath.length v.typeName))

/-- The answer to a question that can be missed. -/
def look (l : Locale) (q : Lookup) (key : Value) (mayMiss : Bool) : Run Answer := do
  match q with
  | .commandLocale =>
    if mayMiss then
      let found ← Run.ofExcept (Value.checked (l.sectionOf? key))
      return .view found
    else return .view (some (← l.sectionOf key))
  | .get =>
    let key ← Run.ofExcept (Value.checked (textKey key))
    if mayMiss then return .text (l.get? key) else return .text (some (← l.get key))
  | .common =>
    let key ← Run.ofExcept (Value.checked (textKey key))
    if mayMiss then return .text (l.common? key) else return .text (some (← l.common key))
  | .sublocale =>
    let path ← Run.ofExcept (Value.checked (textKey key))
    if mayMiss then return .view (l.sublocale? path)
    else return .view (some (← l.sublocale path))

/-- The template of a key of any kind, filled in with the values after the key. -/
def fillIn (operation : String) (given : List Value) (named : Option Value)
    (format : String → List Value → Run String) : Run Answer := do
  match given, named with
  | _, some _ => Run.fail (.refusal (.argumentUnexpected operation Lookup.missParameter))
  | [], none => Run.fail (.refusal (.argumentMissing operation Lookup.get.parameter))
  | key :: args, none =>
    let key ← Run.ofExcept (Value.checked (textKey key))
    return .text (some (← format key args))

/-- The answer to a question with values given by position and, if given, whether a miss is an
answer. -/
def ask (l : Locale) (q : Question) (given : List Value) (mayMiss : Option Value) : Run Answer :=
  match q with
  | .lookup q => do
    let (key, mayMiss) ← Run.ofExcept ((q.arguments given mayMiss).mapError .refusal)
    l.look q key mayMiss
  | .format => fillIn "Locale.format" given mayMiss l.format
  | .formatCommon => fillIn "Locale.formatcommon" given mayMiss l.formatCommon
  | .path => return .text (some l.pathText)
  | .display => return .text (some l.display)

end Locale

end ChatCommands
