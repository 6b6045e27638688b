import TypedClients.Generation.Content

/-!
# Handling a response

A response that reports a failure is either answered by the fallback value, or becomes an
exception: always when the method throws on failure, and also when it has no value to give back.
After that the value is produced by its kind.

There are four kinds of values. A truth value says only that the response did not fail, a text and
an array of bytes are read as they are, and all others are deserialized from the text that is read,
unless it is empty.
-/

namespace TypedClients.Generation

open CSharp

/-- The cancellation token as an argument, if the method has one. -/
def cancellationArgument (method : Method) : List Expr :=
  (method.cancellationParameter?.map parameterExpr).toList

/-- The arguments of a read of the content: the token, where the runtime can take it. -/
def readArguments (client : Client) (method : Method) : List Expr :=
  if client.targetsModernRuntime then cancellationArgument method else []

/-- A read of the content of the response. -/
def readContent (client : Client) (method : Method) (reader : String) : Expr :=
  .await (.callMember (.member (.name "response") "Content") reader (readArguments client method))

/-- The call that deserializes the content. -/
def deserializeCall (serializer : Serializer) (names : StubNames) (type : String) : Expr :=
  match serializer with
  | .newtonsoft =>
    .call (.member (.name "Newtonsoft.Json.JsonConvert") "DeserializeObject") [type]
      [.name "content"]
  | .systemTextJson =>
    .call (.member (.name "System.Text.Json.JsonSerializer") "Deserialize") [type]
      [.name "content"]
  | .custom => .callName (names.deserialize.getD "") [.name "content"]

/-- What is done about a status that reports a failure. -/
def statusCheck (method : Method) (kind : Option ResultKind) : Stmt :=
  match kind, method.throwsOnFailure with
  | some kind, false =>
    .whenTrue (.not (.member (.name "response") "IsSuccessStatusCode"))
      [.giveBack kind.fallback]
  | _, _ => .evaluate (.callMember (.name "response") "EnsureSuccessStatusCode" [])

/-- The response has content worth reading. -/
def hasContent : Expr :=
  .binary
    (.binary (.member (.name "response") "StatusCode") .equal
      (.name "System.Net.HttpStatusCode.OK"))
    .and (.isNotNull (.member (.name "response") "Content"))

/-- The statement that gives the value back. A deserialized value is given back only when there
is content to read it from. -/
def giveResult (client : Client) (method : Method) (names : StubNames) (type : TypeSyntax) :
    Stmt :=
  match ResultKind.ofType type with
  | .truth => .giveBack (.literal (.bool true))
  | .text => .giveBack (readContent client method "ReadAsStringAsync")
  | .bytes => .giveBack (readContent client method "ReadAsByteArrayAsync")
  | .deserialized _ =>
    .whenTrue hasContent
      [.declare "content" (readContent client method "ReadAsStringAsync"),
       .whenTrue (.not (.callMember (.name "string") "IsNullOrEmpty" [.name "content"]))
         [.giveBack (deserializeCall method.serializer names type.render)]]

/-- The statements that handle the response. -/
def responseStmts (client : Client) (method : Method) (shape : ReturnShape) (names : StubNames) :
    List Stmt :=
  statusCheck method (resultKind? shape)
    :: match shape.value with
      | none => []
      | some type => [.blank, giveResult client method names type]

end TypedClients.Generation
