import TypedClients.Client
import TypedClients.Diagnostic
import TypedClients.Document

/-!
# Documents of clients

The form in which a client and its diagnostics are shown. A part that is not there has no entry.

A method that takes part is shown with its endpoint, and any other with the reason why it does not.
These documents are for the eye: they are printed by `inspect` and never read.
-/

namespace TypedClients

/-- An entry for a part that may be missing. -/
def optionalText (name : String) (value : Option String) : List (String × Document) :=
  (value.map fun text => (name, .text text)).toList

/-- A parameter. -/
def Parameter.toDocument (parameter : Parameter) : Document :=
  .record
    ([("name", .text parameter.name),
      ("typeName", .text parameter.typeText),
      ("binding", .text parameter.binding.name)]
     ++ optionalText "queryAlias" parameter.queryAlias
     ++ optionalText "formatSpecifier" parameter.formatSpecifier
     ++ optionalText "headerTemplate" parameter.binding.headerTemplate?)

/-- The shape of a return type. -/
def ReturnShape.toDocument (shape : ReturnShape) : Document :=
  .record
    ([("wrapperType", .text shape.wrapper), ("isParameterized", .bool shape.isParameterized)]
     ++ optionalText "innerType" shape.valueType?
     ++ [("isArray", .bool shape.isArray)]
     ++ optionalText "arrayElementType" (shape.arrayElement?.map TypeSyntax.render))

/-- An endpoint. -/
def Endpoint.toDocument (endpoint : Endpoint) : Document :=
  .record
    [("httpVerb", .text endpoint.verb.name),
     ("pathTemplate", .text endpoint.pathTemplate),
     ("returnShape", endpoint.returnShape.toDocument)]

/-- A role: the endpoint, or the reason for having none. -/
def roleEntry : Role → String × Document
  | .ok endpoint => ("endpoint", endpoint.toDocument)
  | .error reason => ("passthrough", .text reason.name)

/-- A method. -/
def Method.toDocument (method : Method) : Document :=
  .record
    [("name", .text method.name),
     ("parameters", .list (method.parameters.map Parameter.toDocument)),
     roleEntry method.role,
     ("throwsOnFailure", .bool method.throwsOnFailure),
     ("serializer", .text method.serializer.name),
     ("slowCallThresholdMs", .int method.slowCallThreshold),
     ("contentSuppressed", .bool method.contentSuppressed)]

/-- A client. -/
def Client.toDocument (client : Client) : Document :=
  .record
    [("namespace", .text client.scope),
     ("className", .text client.className),
     ("imports", .list (client.imports.map .text)),
     ("methods", .list (client.methods.map Method.toDocument)),
     ("serializer", .text client.serializer.name),
     ("slowCallThresholdMs", .int client.slowCallThreshold),
     ("targetsModernRuntime", .bool client.targetsModernRuntime)]

/-- A diagnostic. -/
def Diagnostic.toDocument (diagnostic : Diagnostic) : Document :=
  match diagnostic.kind with
  | .multipleContentParameters parameters =>
    .record
      [("className", .text diagnostic.className),
       ("methodName", .text diagnostic.methodName),
       ("kind", .text "multipleContentParameters"),
       ("parameters", .list (parameters.map .text))]

end TypedClients
