import TypedClients.CSharp.Word
import TypedClients.TypeSyntax.Parser

/-!
# Shapes of return types

A method that can be generated returns a wrapper that is awaited: a named type with at most one
type argument, which is the type of the awaited value. Keyword types wrap nothing.

A shape has two fields. Whether there is a value, whether it is an array and of what elements is
computed from the type of the value and not stored beside it, so that no shape can say one thing in
its type and another in a flag. In documents all five are shown, as `ReturnShape.toDocument` has it.
-/

namespace TypedClients

/-- An awaitable wrapper and the type of its value, if it has one. -/
structure ReturnShape where
  /-- The wrapper as written, such as `Task`. -/
  wrapper : String
  value : Option TypeSyntax
deriving Repr

namespace ReturnShape

/-- Whether awaiting gives a value. -/
def isParameterized (shape : ReturnShape) : Bool :=
  shape.value.isSome

/-- The element type, when the value is an array. -/
def arrayElement? (shape : ReturnShape) : Option TypeSyntax :=
  shape.value.bind TypeSyntax.arrayElement?

/-- Whether the value is an array. -/
def isArray (shape : ReturnShape) : Bool :=
  shape.arrayElement?.isSome

/-- The type of the value, in its normal spelling. -/
def valueType? (shape : ReturnShape) : Option String :=
  shape.value.map TypeSyntax.render

/-- The return type in its normal spelling. -/
def render (shape : ReturnShape) : String :=
  match shape.value with
  | some value => shape.wrapper ++ "<" ++ value.render ++ ">"
  | none => shape.wrapper

/-- Why a text is not the return type of a method that can be generated. -/
inductive Fault where
  | notType (fault : TypeSyntax.Fault)
  | predefined (name : String)
  | notAwaitable (type : TypeSyntax)
deriving Repr

/-- The wording of a fault. -/
def Fault.message : Fault → String
  | .notType fault => fault.message
  | .predefined name => "'" ++ name ++ "' is not an awaitable wrapper"
  | .notAwaitable type =>
    "'" ++ type.render ++ "' is not an awaitable wrapper with at most one type argument"

/-- The shape of a type. -/
def ofType : TypeSyntax → Except Fault ReturnShape
  | .named name arguments =>
    if CSharp.isPredefinedType name then .error (.predefined name)
    else match arguments with
      | [] => .ok { wrapper := name, value := none }
      | [value] => .ok { wrapper := name, value := some value }
      | _ => .error (.notAwaitable (.named name arguments))
  | type => .error (.notAwaitable type)

/-- The shape of the type that a text denotes. -/
def resolve (text : String) : Except Fault ReturnShape :=
  match TypeSyntax.parse text with
  | .error fault => .error (.notType fault)
  | .ok type => ofType type

end ReturnShape

end TypedClients
