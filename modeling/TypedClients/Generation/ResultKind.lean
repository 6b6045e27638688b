import TypedClients.CSharp.Printer
import TypedClients.ReturnShape
import TypedClients.Text.Fold

/-!
# Results of a request

How the awaited value of a method comes about is decided by its type, apart from one outer `?`:
a truth value says that the request succeeded, a text and a byte array are the content as it
came, and every other type is deserialized from the content. Types are recognised by their
spelling, up to a leading `global::` and the case of letters.
-/

namespace TypedClients.Generation

open CSharp

/-- How an awaited value comes about. -/
inductive ResultKind where
  /-- Getting there means success. -/
  | truth
  /-- The content as text. -/
  | text
  /-- The content as bytes. -/
  | bytes
  /-- A value read from the content. The element type is there when the value is an array. -/
  | deserialized (element : Option String)
deriving Repr, DecidableEq

/-- The spelling by which a type is recognised. -/
def recognisedName (name : String) : String :=
  Text.folded (String.ofList (Text.withoutStart "global::".toList name.toList))

/-- An empty array of an element type. -/
def emptyArray (element : String) : Expr :=
  .call (.member (.name "System.Array") "Empty") [element] []

namespace ResultKind

/-- The kind of a value type. -/
def ofType (type : TypeSyntax) : ResultKind :=
  let name := recognisedName type.withoutNullable.render
  if name = "bool" ∨ name = "boolean" ∨ name = "system.boolean" then .truth
  else if name = "string" ∨ name = "system.string" then .text
  else if name = "byte[]" ∨ name = "system.byte[]" then .bytes
  else .deserialized (type.arrayElement?.map TypeSyntax.render)

/-- The value of a method that got none. -/
def fallback : ResultKind → Expr
  | .truth => .literal (.bool false)
  | .text => .name "string.Empty"
  | .bytes => emptyArray "byte"
  | .deserialized (some element) => emptyArray element
  | .deserialized none => .literal .defaultValue

/-- Whether a response may be handled without a value being given back. -/
def mayGiveNothing : ResultKind → Bool
  | .deserialized _ => true
  | _ => false

end ResultKind

/-- The kind of the value of a return type, if it has one. -/
def resultKind? (shape : ReturnShape) : Option ResultKind :=
  shape.value.map ResultKind.ofType

/-- The text of the value that is given back when there is none, for a return type with a value. -/
def fallbackText? (shape : ReturnShape) : Option String :=
  (resultKind? shape).map fun kind => kind.fallback.print

end TypedClients.Generation
