import TypedClients.Generation.MethodBody
import TypedClients.Proofs.CSharp.Expressions
import TypedClients.Proofs.Generation.Stub

/-!
# Calls in generated methods

By a simple name a generated method calls the stubs of its serializer, the error hook, and with a
threshold the hook for slow calls, and nothing else. The content of the request is where the stub
that serializes is called, and the handling of the response where the one that deserializes is.

The calls of a method are listed part by part, in the order in which the parts stand. For every stub
that was declared for a method there is a call in the method, and no other simple name is called.
-/

namespace TypedClients.Generation

open CSharp

/-- The call of the error hook in a method. -/
def errorCall (client : Client) (method : Method) : Call :=
  ⟨errorHook, [reportedName client method, .name "url", .name "e"]⟩

/-- The call of the hook for slow calls in a method. -/
def slowCall (client : Client) (method : Method) : Call :=
  ⟨slowCallHook, [reportedName client method, .name "url", elapsed]⟩

/-- The call of a stub that serializes a parameter. -/
def serializeStubCall (names : StubNames) (content : Parameter) : Call :=
  ⟨names.serialize.getD "", [parameterExpr content]⟩

/-- The call of a stub that deserializes the content of the response. -/
def deserializeStubCall (names : StubNames) : Call :=
  ⟨names.deserialize.getD "", [.name "content"]⟩

/-- No name is chosen for a stub that is the name of a hook. -/
theorem StubRequest.chosenName_not_hook {request : StubRequest} {name : String}
    (base : request.baseName = "Serialize" ++ name ∨ request.baseName = "Deserialize" ++ name)
    (stubs : List Prototype) : request.chosenName stubs ∉ [errorHook, slowCallHook] := by
  obtain ⟨ordinal, chosen⟩ := request.chosenName_begins stubs
  rcases base with base | base <;>
    simp [chosen, base, errorHook, slowCallHook, ← String.toList_inj]

/-- A stub that serializes is not called like a hook. -/
theorem serializeName_not_hook {stubs : List Prototype} {method : Method} {shape : ReturnShape}
    {request : StubRequest} (asked : serializeRequest? method = some request) :
    (stubNames stubs method shape).serialize.getD "" ∉ [errorHook, slowCallHook] := by
  obtain ⟨_, content, _, _, form⟩ := serializeRequest_eq_some.mp asked
  rw [stubNames_serialize asked]
  exact request.chosenName_not_hook (Or.inl (congrArg StubRequest.baseName form)) stubs

/-- A stub that deserializes is not called like a hook. -/
theorem deserializeName_not_hook {stubs : List Prototype} {method : Method}
    {shape : ReturnShape} {request : StubRequest}
    (asked : deserializeRequest? method shape = some request) :
    (stubNames stubs method shape).deserialize.getD "" ∉ [errorHook, slowCallHook] := by
  obtain ⟨_, value, _, _, form⟩ := deserializeRequest_eq_some.mp asked
  rw [stubNames_deserialize asked]
  exact request.chosenName_not_hook (Or.inr (congrArg StubRequest.baseName form)) _

/-- A parameter is used without a call by name. -/
@[simp] theorem calls_parameterExpr (parameter : Parameter) :
    (parameterExpr parameter).calls = [] := by
  simp [parameterExpr]

/-- The value returned on a failure is written without a call by name. -/
@[simp] theorem calls_fallback (kind : ResultKind) : kind.fallback.calls = [] := by
  rcases kind with _ | _ | _ | (_ | element) <;> simp [ResultKind.fallback, emptyArray]

/-- The response is read by a member of its content, which is no call by name. -/
@[simp] theorem calls_readContent (client : Client) (method : Method) (reader : String) :
    (readContent client method reader).calls = [] := by
  unfold readContent readArguments cancellationArgument
  cases method.cancellationParameter? <;> split <;> simp [Expr.callMember]

/-- The content of a request is one of the parameters of its method, bound to the body or to the
form. -/
theorem contentParameter_carries {method : Method} {content : Parameter}
    (chosen : method.contentParameter? = some content) :
    content ∈ method.parameters ∧ (content.binding = .body ∨ content.binding = .form) := by
  unfold Method.contentParameter? at chosen
  split at chosen
  · cases chosen
  · have member := List.mem_of_mem_head? chosen
    have ⟨declared, carries⟩ := List.mem_filter.mp member
    refine ⟨declared, ?_⟩
    cases bound : content.binding <;> simp_all [Binding.carriesContent]

/-- The statements for headers are blocks that each send one. -/
theorem mem_headerBlocks {method : Method} {stmt : Stmt} (member : stmt ∈ headerBlocks method) :
    ∃ parameter template, stmt = headerBlock parameter template := by
  obtain ⟨parameter, _, made⟩ := List.mem_filterMap.mp member
  obtain ⟨template, _, rfl⟩ := Option.map_eq_some_iff.mp made
  exact ⟨parameter, template, rfl⟩

/-- What holds of the expressions for each header holds of those for all headers. -/
theorem forall_expressionsOf_headerBlocks {method : Method} {property : Expr → Prop}
    (each : ∀ parameter template, ∀ expr ∈ (headerBlock parameter template).expressions,
      property expr) : ∀ expr ∈ expressionsOf (headerBlocks method), property expr := by
  intro expr member
  obtain ⟨stmt, header, inside⟩ := mem_expressionsOf.mp member
  obtain ⟨parameter, template, rfl⟩ := mem_headerBlocks header
  exact each parameter template expr inside

/-- The headers are added by members of the request, not by calls by name. -/
@[simp] theorem callsIn_headerBlocks (method : Method) : callsIn (headerBlocks method) = [] := by
  refine List.flatMap_eq_nil_iff.mpr (forall_expressionsOf_headerBlocks ?_)
  simp [headerBlock, Expr.callMember, headerPair, headerValue, Expr.text]

/-- Where a request sets its content, it calls at most the stub that serializes it, and it calls
that one just when the method asks for such a stub. The argument is the content that was chosen. -/
theorem mem_callsIn_contentStmts {method : Method} {names : StubNames} {call : Call} :
    call ∈ callsIn (contentStmts method names) ↔
      ∃ request content, serializeRequest? method = some request ∧
        method.contentParameter? = some content ∧ call = serializeStubCall names content := by
  simp only [serializeRequest_eq_some, contentStmts]
  cases chosen : method.contentParameter? with
  | none => simp
  | some content =>
    rcases (contentParameter_carries chosen).2 with bound | bound
    · cases serializer : method.serializer <;>
        simp [bound, jsonContent, serializeCall, Expr.callMember, Expr.callName, Expr.text,
          requestContent, serializeStubCall]
    · simp [bound, formContent, Expr.callMember, requestContent, publicProperties,
        isPlainProperty, addFormField]

/-- The status is examined without a call by name. -/
@[simp] theorem calls_statusCheck (method : Method) (kind : Option ResultKind) :
    (statusCheck method kind).expressions.flatMap Expr.calls = [] := by
  unfold statusCheck
  split <;> simp [Expr.callMember]

/-- A call that deserializes is a call by a simple name for a custom serializer alone. -/
theorem mem_calls_deserializeCall {serializer : Serializer} {names : StubNames} {type : String}
    {call : Call} :
    call ∈ (deserializeCall serializer names type).calls ↔
      serializer = .custom ∧ call = deserializeStubCall names := by
  cases serializer <;> simp [deserializeCall, Expr.callName, deserializeStubCall]

/-- Where the value of a response is given back, the stub that deserializes is called by a custom
serializer and for a value that has to be deserialized. Texts, bytes and the response itself are
given back without a call. -/
theorem mem_calls_giveResult {client : Client} {method : Method} {names : StubNames}
    {type : TypeSyntax} {call : Call} :
    call ∈ (giveResult client method names type).expressions.flatMap Expr.calls ↔
      method.serializer = .custom ∧ (ResultKind.ofType type).mayGiveNothing = true ∧
        call = deserializeStubCall names := by
  unfold giveResult
  -- By which spelling a kind is recognised plays no part.
  generalize ResultKind.ofType type = kind
  cases kind with
  | deserialized element =>
    simp [hasContent, Expr.callMember, mem_calls_deserializeCall, ResultKind.mayGiveNothing]
  | _ => simp [ResultKind.mayGiveNothing]

/-- Where a response is handled, the method calls at most the stub that deserializes, and it calls
that one just when the method asks for such a stub. -/
theorem mem_callsIn_responseStmts {client : Client} {method : Method} {shape : ReturnShape}
    {names : StubNames} {call : Call} :
    call ∈ callsIn (responseStmts client method shape names) ↔
      ∃ request, deserializeRequest? method shape = some request ∧
        call = deserializeStubCall names := by
  simp only [deserializeRequest_eq_some, responseStmts]
  cases value : shape.value with
  | none => simp
  | some type =>
    rw [callsIn_cons, callsIn_cons, callsIn_cons, calls_statusCheck, callsIn_nil,
      List.append_nil, List.nil_append, Stmt.expressions, List.flatMap_nil, List.nil_append,
      mem_calls_giveResult]
    simp [and_assoc]

/-- The calls where a request is made: those for its content and those for its response. The
address, the headers and the sending call no stub. -/
theorem mem_calls_requestStmt {client : Client} {method : Method} {endpoint : Endpoint}
    {names : StubNames} {call : Call} :
    call ∈ (requestStmt client method endpoint names).expressions.flatMap Expr.calls ↔
      call ∈ callsIn (contentStmts method names) ∨
        call ∈ callsIn (responseStmts client method endpoint.returnShape names) := by
  have argument : callsOfAll (cancellationArgument method) = [] := by
    unfold cancellationArgument
    cases method.cancellationParameter? <;> simp
  have headers := callsIn_headerBlocks method
  simp only [callsIn] at headers ⊢
  simp [requestStmt, sendStmt, Expr.callMember, argument, headers]

/-- The calls of a generated method: of the stubs for its content and its response, of the error
hook, and with a threshold of the hook for slow calls. -/
theorem mem_callsIn_methodBody {client : Client} {method : Method} {endpoint : Endpoint}
    {names : StubNames} {call : Call} :
    call ∈ callsIn (methodBody client method endpoint names) ↔
      call ∈ callsIn (contentStmts method names) ∨
        call ∈ callsIn (responseStmts client method endpoint.returnShape names) ∨
        call = errorCall client method ∨
        (0 < method.slowCallThreshold ∧ call = slowCall client method) := by
  have address : (urlExpr method endpoint.pathTemplate).calls = [] := by
    unfold urlExpr
    split <;> simp [Expr.text]
  have watch : callsIn (startWatch method) = [] := by
    unfold startWatch
    split <;> simp [Expr.callMember]
  have handler : callsIn (exceptionHandler client method) = [errorCall client method] := by
    unfold exceptionHandler
    split <;> simp [Expr.callName, errorCall, reportedName, Expr.text]
  have ending : callsIn (finalReturn method endpoint.returnShape) = [] := by
    unfold finalReturn
    split
    · rfl
    · split <;> simp
  have cleanup : call ∈ (cleanupExpressions (slowCallCleanup client method)).flatMap Expr.calls ↔
      0 < method.slowCallThreshold ∧ call = slowCall client method := by
    unfold slowCallCleanup
    split <;> rename_i timed <;> simp [slowCallCheck, timed, Expr.callMember, Expr.callName,
      slowCall, reportedName, Expr.text, elapsed]
  have guarded : callsIn [Stmt.guarded [requestStmt client method endpoint names]
      (some ⟨"System.Exception", "e", exceptionHandler client method⟩)
      (slowCallCleanup client method)] =
      (requestStmt client method endpoint names).expressions.flatMap Expr.calls ++
        callsIn (exceptionHandler client method) ++
          (cleanupExpressions (slowCallCleanup client method)).flatMap Expr.calls := by
    simp [callsIn]
  simp only [methodBody, callsIn_append, callsIn_cons, guarded, watch, handler, ending,
    Stmt.expressions, List.flatMap_singleton, address, List.mem_append, List.mem_singleton,
    mem_calls_requestStmt, cleanup, List.not_mem_nil, or_false, false_or, or_assoc]

end TypedClients.Generation
