import TypedClients.Generation.Header
import TypedClients.Generation.Response

/-!
# Methods of a generated client

A generated method builds its address, sends the request inside a `try`, and hands every
exception to the error hook. With a threshold it times itself, and reports a slow call when it
leaves the `try`, however it leaves it. A method that can come to its end without a value gives
the fallback back there.
-/

namespace TypedClients.Generation

open CSharp

/-- The field that holds the transport. -/
def transportField : String := "_httpClient"

/-- The hook that is told of exceptions. -/
def errorHook : String := "LogError"

/-- The hook that is told of slow calls. -/
def slowCallHook : String := "LogConnectionTooLongWarning"

/-- The name under which a method reports itself. -/
def reportedName (client : Client) (method : Method) : Expr :=
  .text (client.qualifiedName method)

/-- The time that a call has taken. -/
def elapsed : Expr :=
  .member (.name "stopwatch") "ElapsedMilliseconds"

/-- The statements at the end of a timed call. -/
def slowCallCheck (client : Client) (method : Method) : List Stmt :=
  [.evaluate (.callMember (.name "stopwatch") "Stop" []),
   .whenTrue (.binary elapsed .greater (.literal (.int method.slowCallThreshold)))
     [.evaluate (.callName slowCallHook [reportedName client method, .name "url", elapsed])]]

/-- What is done however the `try` of a method is left. Only a timed method has it. -/
def slowCallCleanup (client : Client) (method : Method) : Option (List Stmt) :=
  if method.slowCallThreshold > 0 then some (slowCallCheck client method) else none

/-- A method with a threshold has the check for slow calls as its cleanup, and one without has
none. -/
theorem slowCallCleanup_cases (client : Client) (method : Method) :
    (method.slowCallThreshold = 0 ∧ slowCallCleanup client method = none) ∨
      (0 < method.slowCallThreshold ∧
        slowCallCleanup client method = some (slowCallCheck client method)) := by
  rcases Nat.eq_zero_or_pos method.slowCallThreshold with untimed | timed
  · exact Or.inl ⟨untimed, by simp [slowCallCleanup, untimed]⟩
  · exact Or.inr ⟨timed, by simp [slowCallCleanup, timed]⟩

/-- The statements that handle an exception. -/
def exceptionHandler (client : Client) (method : Method) : List Stmt :=
  .evaluate (.callName errorHook [reportedName client method, .name "url", .name "e"])
    :: if method.throwsOnFailure then [.rethrow] else []

/-- The statement that sends the request and handles the response. -/
def sendStmt (client : Client) (method : Method) (shape : ReturnShape) (names : StubNames) :
    Stmt :=
  .withResource "response"
    (.await (.callMember (.name transportField) "SendAsync"
      (.name "request" :: cancellationArgument method)))
    (responseStmts client method shape names)

/-- The statement that makes the request, from its parts in order. -/
def requestStmt (client : Client) (method : Method) (endpoint : Endpoint) (names : StubNames) :
    Stmt :=
  .withResource "request" (.create "System.Net.Http.HttpRequestMessage" [])
    ([.assign (.member (.name "request") "Method")
        (.member (.name "System.Net.Http.HttpMethod") endpoint.verb.member),
      .assign (.member (.name "request") "RequestUri")
        (.create "System.Uri" [.name "url", .name "System.UriKind.RelativeOrAbsolute"])]
     ++ headerBlocks method
     ++ contentStmts method names
     ++ [sendStmt client method endpoint.returnShape names])

/-- The start of the watch of a timed call. -/
def startWatch (method : Method) : List Stmt :=
  if method.slowCallThreshold > 0 then
    [.declare "stopwatch" (.callMember (.name "System.Diagnostics.Stopwatch") "StartNew" [])]
  else []

/-- What a method gives back when it comes to its end. A method that throws and always produces
its value never gets there. -/
def finalReturn (method : Method) (shape : ReturnShape) : List Stmt :=
  match resultKind? shape with
  | none => []
  | some kind =>
    if !method.throwsOnFailure || kind.mayGiveNothing then [.blank, .giveBack kind.fallback]
    else []

/-- The body of a method. -/
def methodBody (client : Client) (method : Method) (endpoint : Endpoint) (names : StubNames) :
    List Stmt :=
  .declare "url" (urlExpr method endpoint.pathTemplate)
    :: startWatch method
    ++ [.guarded [requestStmt client method endpoint names]
         (some ⟨"System.Exception", "e", exceptionHandler client method⟩)
         (slowCallCleanup client method)]
    ++ finalReturn method endpoint.returnShape

/-- The head of a method. -/
def methodSignature (method : Method) (endpoint : Endpoint) : Signature where
  returnType := endpoint.returnShape.render
  name := method.name
  params := method.parameters.map fun parameter =>
    ⟨parameter.typeText, escapedIdentifier parameter.name⟩

/-- A generated method. -/
def methodDef (client : Client) (method : Method) (endpoint : Endpoint) (names : StubNames) :
    MethodDef where
  modifiers := "public partial async"
  signature := methodSignature method endpoint
  body := methodBody client method endpoint names

end TypedClients.Generation
