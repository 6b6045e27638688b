import TypedClients.CSharp.Syntax
import TypedClients.CSharp.Word
import TypedClients.Client
import TypedClients.PathTemplate

/-!
# The address of a request

The address is the path template with the values of the route parameters in place of their
placeholders, followed by the query string. A placeholder that no route parameter is named for
stays as it is written. A method without parameters has nothing to put in, and its address is the
path as a plain literal.
-/

namespace TypedClients.Generation

open CSharp

/-- A parameter as it is written in code. -/
def parameterExpr (parameter : Parameter) : Expr :=
  .name (escapedIdentifier parameter.name)

/-- A segment of the path. -/
def segmentPart (routeNames : List String) : PathTemplate.Segment → InterpolationPart
  | .literal text => .text text
  | .placeholder inner =>
    if routeNames.contains (PathTemplate.placeholderName inner) then
      .hole (escapedIdentifier (PathTemplate.placeholderName inner)) none
    else .text (PathTemplate.placeholderText inner)

/-- The pairs of the query string, the first behind a `?` and each other behind a `&`. -/
def queryParts (separator : String) : List Parameter → List InterpolationPart
  | [] => []
  | parameter :: others =>
    .text (separator ++ parameter.queryKey ++ "=")
      :: .hole (escapedIdentifier parameter.name) parameter.formatSpecifier
      :: queryParts "&" others

/-- The parts of an address. -/
def urlParts (method : Method) (path : String) : List InterpolationPart :=
  (PathTemplate.segments path).map (segmentPart method.routeNames)
    ++ queryParts "?" method.queryParameters

/-- The address of a request. -/
def urlExpr (method : Method) (path : String) : Expr :=
  if method.parameters.isEmpty then .text path else .interpolated (urlParts method path)

end TypedClients.Generation
