import TypedClients.ReturnShape
import TypedClients.Serialization

/-!
# Clients

A client class with every option resolved, the form from which code is generated. Whatever an
attribute could leave open has been decided: a serializer is a serializer, a threshold a number,
and every parameter has its part in the request.

What excludes each other is one field here. A method has an endpoint or a reason to be passed
through, never both and never neither, and a template belongs to the binding that it is the template
of. So some of what could be asked of a client holds of every value of these types, and is left to
be shown of the documents in which clients are printed, where the parts are fields of their own.
-/

namespace TypedClients

/-- The method of a request. -/
inductive HttpVerb where
  | get
  | post
  | put
  | delete
deriving Repr, DecidableEq

namespace HttpVerb

/-- The verbs, in the order in which attributes are tried for them. -/
def all : List HttpVerb :=
  [.get, .post, .put, .delete]

/-- The beginning of an attribute name that selects the verb, in small letters. -/
def attributeStart : HttpVerb → String
  | .get => "get"
  | .post => "post"
  | .put => "put"
  | .delete => "delete"

/-- The member of `System.Net.Http.HttpMethod`. -/
def member : HttpVerb → String
  | .get => "Get"
  | .post => "Post"
  | .put => "Put"
  | .delete => "Delete"

/-- The name of the verb in documents. -/
def name : HttpVerb → String
  | .get => "GET"
  | .post => "POST"
  | .put => "PUT"
  | .delete => "DELETE"

end HttpVerb

/-- The part of a parameter in the request. The template of a header is part of the binding, so that
no other binding can have one. -/
inductive Binding where
  /-- Put in place of a placeholder of the path. -/
  | route
  /-- Added to the query string. -/
  | query
  /-- Sent as a header, by a template `Name: fallback`. -/
  | header (template : String)
  /-- Sent as the serialized content. -/
  | body
  /-- Sent as form content. -/
  | form
  /-- No part: a cancellation token. -/
  | none
deriving Repr, DecidableEq

namespace Binding

/-- Whether the parameter becomes the content of the request. -/
def carriesContent : Binding → Bool
  | .body | .form => true
  | _ => false

/-- The name of a binding in documents. -/
def name : Binding → String
  | .route => "Route"
  | .query => "Query"
  | .header _ => "Header"
  | .body => "Body"
  | .form => "Form"
  | .none => "None"

/-- The template of a header. -/
def headerTemplate? : Binding → Option String
  | .header template => some template
  | _ => Option.none

end Binding

/-- A parameter with its part in the request. -/
structure Parameter where
  /-- The identifier, without an `@` before it. -/
  name : String
  typeText : String
  binding : Binding
  /-- A key for the query string instead of the name. -/
  queryAlias : Option String
  /-- A format for the value when it becomes text. -/
  formatSpecifier : Option String
deriving Repr, DecidableEq

/-- The key in the query string. -/
def Parameter.queryKey (parameter : Parameter) : String :=
  parameter.queryAlias.getD parameter.name

/-- What a generated method sends and gives back. -/
structure Endpoint where
  verb : HttpVerb
  /-- The path as written, with its placeholders. -/
  pathTemplate : String
  returnShape : ReturnShape
deriving Repr

/-- Why a method is left to the consumer. -/
inductive PassthroughReason where
  /-- No attribute names a verb. -/
  | noVerbAttribute
  /-- The verb attribute does not begin with a literal path. -/
  | missingPathLiteral
  /-- The return type has no shape. -/
  | unresolvedReturnType
deriving Repr, DecidableEq

/-- The name of a reason in documents. -/
def PassthroughReason.name : PassthroughReason → String
  | .noVerbAttribute => "noVerbAttribute"
  | .missingPathLiteral => "missingPathLiteral"
  | .unresolvedReturnType => "unresolvedReturnType"

/-- A method is generated for an endpoint, or passed through for a reason: exactly one of the two is
there. -/
abbrev Role := Except PassthroughReason Endpoint

/-- A method of a client. -/
structure Method where
  name : String
  parameters : List Parameter
  role : Role
  /-- Whether a failure is thrown again after it was logged. -/
  throwsOnFailure : Bool
  serializer : Serializer
  /-- The duration in milliseconds beyond which a call is reported; zero reports none. -/
  slowCallThreshold : Nat
  /-- Whether the content was rejected because several parameters carry it. -/
  contentSuppressed : Bool
deriving Repr

namespace Method

/-- The endpoint of a method that is generated. -/
def endpoint? (method : Method) : Option Endpoint :=
  method.role.toOption

/-- Whether the method is generated. -/
def isEligible (method : Method) : Bool :=
  method.endpoint?.isSome

/-- The parameters that carry content, in order. -/
def contentParameters (method : Method) : List Parameter :=
  method.parameters.filter fun parameter => parameter.binding.carriesContent

/-- The parameter that becomes the content, unless the content was rejected. -/
def contentParameter? (method : Method) : Option Parameter :=
  if method.contentSuppressed then none else method.contentParameters.head?

/-- The parameters of the query string, in order. -/
def queryParameters (method : Method) : List Parameter :=
  method.parameters.filter fun parameter => parameter.binding = .query

/-- The names that are put into the path. -/
def routeNames (method : Method) : List String :=
  (method.parameters.filter fun parameter => parameter.binding = .route).map Parameter.name

/-- The cancellation token that goes with the request. -/
def cancellationParameter? (method : Method) : Option Parameter :=
  method.parameters.find? fun parameter => parameter.binding = .none

end Method

/-- A client class. -/
structure Client where
  /-- The enclosing namespace; empty for the global one. -/
  scope : String
  className : String
  imports : List String
  methods : List Method
  serializer : Serializer
  slowCallThreshold : Nat
  /-- Whether cancellation tokens are handed to the reads of a response. -/
  targetsModernRuntime : Bool
deriving Repr

namespace Client

/-- The methods that are generated. -/
def eligibleMethods (client : Client) : List Method :=
  client.methods.filter Method.isEligible

/-- Whether some slow call may be reported. -/
def reportsSlowCalls (client : Client) : Bool :=
  client.slowCallThreshold > 0 ||
    client.eligibleMethods.any fun method => method.slowCallThreshold > 0

/-- The name under which a method is reported. -/
def qualifiedName (client : Client) (method : Method) : String :=
  client.className ++ "." ++ method.name

/-- The name of the generated file. -/
def fileName (client : Client) : String :=
  client.className ++ "_Generated.g.cs"

end Client

end TypedClients
