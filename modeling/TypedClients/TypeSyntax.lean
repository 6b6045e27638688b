/-!
# Types as a declaration writes them

The part of the type language that a client declaration may use: possibly qualified names with
type arguments, arrays and nullables. `TypeSyntax.render` is the one spelling of a type that
generated code uses; tuples, pointers and function types have no place here.

A name is kept with its qualification, as one text. Two types are the same when their trees are, and
their spellings may still differ in white space: the normal spelling is what a type is compared by
once it has been printed.
-/

namespace TypedClients

/-- A type. -/
inductive TypeSyntax where
  /-- A name, written `Name<A, B>` when there are arguments. -/
  | named (name : String) (arguments : List TypeSyntax)
  /-- An array, written `T[]`. -/
  | array (element : TypeSyntax)
  /-- A nullable, written `T?`. -/
  | nullable (inner : TypeSyntax)
deriving Repr, Inhabited

namespace TypeSyntax

mutual

/-- The normal spelling: one comma and one space between arguments, no other blanks. -/
def render : TypeSyntax → String
  | .named name [] => name
  | .named name (first :: others) =>
    name ++ "<" ++ first.render ++ renderFollowing others ++ ">"
  | .array element => element.render ++ "[]"
  | .nullable inner => inner.render ++ "?"

/-- The arguments after the first, each behind its comma. -/
def renderFollowing : List TypeSyntax → String
  | [] => ""
  | argument :: others => ", " ++ argument.render ++ renderFollowing others

end

/-- The element type, when the outermost node is an array. -/
def arrayElement? : TypeSyntax → Option TypeSyntax
  | .array element => some element
  | _ => none

/-- The type without one outer `?`. -/
def withoutNullable : TypeSyntax → TypeSyntax
  | .nullable inner => inner
  | type => type

end TypeSyntax

end TypedClients
