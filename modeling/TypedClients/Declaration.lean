import TypedClients.Text.Blank
import TypedClients.Text.Fold
import TypedClients.Text.Pieces

/-!
# Client declarations

An annotated client class as it is handed over: names, raw type texts and attribute lists.
Nothing is interpreted here; what the attributes mean is decided when a client is extracted.

The order of attributes and arguments is kept, since the first one that fits is the one that counts,
and names keep their spelling, since it is shown in diagnostics. A class may have several methods of
one name.
-/

namespace TypedClients

/-- The value of an attribute argument. Only a literal can serve as a path template; a symbol
stands for any other expression. -/
inductive ArgumentValue where
  | bool (value : Bool)
  | int (value : Int64)
  | literal (text : String)
  | symbol (text : String)
deriving Repr, DecidableEq

/-- A positional argument, or one with a name. -/
structure Argument where
  name : Option String
  value : ArgumentValue
deriving Repr, DecidableEq

/-- An annotation of a class, a method or a parameter. -/
structure Attribute where
  /-- The name, perhaps qualified, perhaps with the suffix `Attribute`. -/
  name : String
  arguments : List Argument
deriving Repr, DecidableEq

/-- A parameter of a method. -/
structure ParameterDeclaration where
  /-- The identifier, perhaps behind an `@`. -/
  name : String
  typeText : String
  attributes : List Attribute
deriving Repr, DecidableEq

/-- A method of a client class. -/
structure MethodDeclaration where
  name : String
  returnType : String
  attributes : List Attribute
  parameters : List ParameterDeclaration
deriving Repr, DecidableEq

/-- A client class. -/
structure ClassDeclaration where
  /-- The enclosing namespace; empty for the global one. -/
  scope : String
  imports : List String
  name : String
  attributes : List Attribute
  methods : List MethodDeclaration
deriving Repr, DecidableEq

namespace ArgumentValue

/-- The text of a literal. -/
def literal? : ArgumentValue → Option String
  | .literal text => some text
  | _ => none

/-- The text that may name a setting: a literal serves as well as a symbol. -/
def symbolic? : ArgumentValue → Option String
  | .literal text => some text
  | .symbol text => some text
  | _ => none

/-- The truth value, if it is one. -/
def bool? : ArgumentValue → Option Bool
  | .bool value => some value
  | _ => none

/-- The integer, if it is one. -/
def int? : ArgumentValue → Option Int64
  | .int value => some value
  | _ => none

end ArgumentValue

namespace Attribute

/-- The value of the first positional argument. -/
def positional? (attr : Attribute) : Option ArgumentValue :=
  (attr.arguments.find? fun argument => argument.name.isNone).map Argument.value

/-- The value of the first argument with a name, compared up to the case of letters. -/
def named? (attr : Attribute) (key : String) : Option ArgumentValue :=
  (attr.arguments.find? fun argument =>
    argument.name.any fun name => Text.sameFolded name key).map Argument.value

end Attribute

/-- The part of an attribute name that identifies it: behind the last dot, without blanks, and
without the suffix `Attribute` unless that is all of it. -/
def attributeBaseName (name : String) : String :=
  let last := Text.trimBlanks (Text.afterLast '.' name.toList)
  match Text.inFrontOf? "Attribute".toList last with
  | some [] => String.ofList last
  | some short => String.ofList short
  | none => String.ofList last

/-- The first attribute with a base name, compared up to the case of letters. -/
def findAttribute? (attributes : List Attribute) (name : String) : Option Attribute :=
  attributes.find? fun attr => Text.sameFolded (attributeBaseName attr.name) name

end TypedClients
