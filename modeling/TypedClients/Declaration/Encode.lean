import TypedClients.Declaration
import TypedClients.Document

/-!
# Documents of declarations

Every field of a declaration is written under its name, defaults included; only the name of a
positional argument is left out.

Decoding gives the declaration back. The document is one spelling of the many in which a text may
spell a declaration: keys may come in another order there, and fields with a default may be missing.
-/

namespace TypedClients.Declaration

/-- The value of an argument. -/
def encodeArgumentValue : ArgumentValue → Document
  | .bool value => .bool value
  | .int value => .int value.toInt
  | .literal text => .text text
  | .symbol text => .record [("symbol", .text text)]

/-- An argument of an attribute. -/
def encodeArgument (argument : Argument) : Document :=
  match argument.name with
  | some name => .record [("name", .text name), ("value", encodeArgumentValue argument.value)]
  | none => .record [("value", encodeArgumentValue argument.value)]

/-- An attribute. -/
def encodeAttribute (attr : Attribute) : Document :=
  .record
    [("name", .text attr.name), ("args", .list (attr.arguments.map encodeArgument))]

/-- A parameter. -/
def encodeParameter (parameter : ParameterDeclaration) : Document :=
  .record
    [("name", .text parameter.name),
     ("type", .text parameter.typeText),
     ("attributes", .list (parameter.attributes.map encodeAttribute))]

/-- A method. -/
def encodeMethod (method : MethodDeclaration) : Document :=
  .record
    [("name", .text method.name),
     ("returnType", .text method.returnType),
     ("attributes", .list (method.attributes.map encodeAttribute)),
     ("parameters", .list (method.parameters.map encodeParameter))]

/-- A class. -/
def encodeClass (declared : ClassDeclaration) : Document :=
  .record
    [("namespace", .text declared.scope),
     ("imports", .list (declared.imports.map .text)),
     ("name", .text declared.name),
     ("attributes", .list (declared.attributes.map encodeAttribute)),
     ("methods", .list (declared.methods.map encodeMethod))]

/-- A document with a list of classes. -/
def encodeClients (classes : List ClassDeclaration) : Document :=
  .record [("clients", .list (classes.map encodeClass))]

end TypedClients.Declaration
