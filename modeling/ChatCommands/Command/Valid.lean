import ChatCommands.Argument.Converters

/-!
# Well-formed command trees

Trees are checked once, when they are registered: every node has fields of the right kinds and
leads somewhere, and every argument has at least one type, all of them registered.

## Main definitions

* `isValidArgument` : the check of one argument definition.
* `isValid` : the check of a whole tree.
-/

namespace ChatCommands

/-- Whether a value is null or satisfies a condition. -/
def Value.isNullOr (condition : Value → Bool) (v : Value) : Bool :=
  v.isNull || condition v

/-- Whether a value is a field of permissions: an integer, but no truth value. -/
def Value.isField (v : Value) : Bool :=
  v.integer?.isSome && !v.isBool

/-- Whether a value is a registered type tag. -/
def isTag (table : Converters) : Value → Bool
  | .text s => table.has s
  | _ => false

/-- The check of one argument definition. -/
def isValidArgument (table : Converters) : Value → Bool
  | .argument a =>
    a.name.isText && a.variadic.isBool && !a.types.isEmpty && a.types.all (isTag table)
  | _ => false

/-- The check of the argument definitions of a node. -/
def areValidArguments (table : Converters) : Value → Bool
  | .null => true
  | .tuple items => items.all (isValidArgument table)
  | _ => false

mutual

/-- The check of a whole tree. -/
def isValid (table : Converters) : Value → Bool
  | .command ⟨_, name, shortcut, required, channel, guardian, children, definitions, handler⟩ =>
    name.isText && shortcut.isNullOr Value.isText && required.isNullOr Value.isField &&
      channel.isBool && guardian.isNullOr Value.isCallable && handler.isNullOr Value.isCallable &&
      areValidArguments table definitions &&
      (match children with
        | .null => !handler.isNull
        | .tuple items => areValid table items
        | _ => false)
  | _ => false

/-- The check of several trees. -/
def areValid (table : Converters) : List Value → Bool
  | [] => true
  | v :: rest => isValid table v && areValid table rest

end

end ChatCommands
