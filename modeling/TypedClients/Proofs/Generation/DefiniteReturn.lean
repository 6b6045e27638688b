import TypedClients.Proofs.CSharp.Reachability
import TypedClients.Proofs.Generation.Calls
import TypedClients.Proofs.Generation.ClientUnit

/-!
# Definite return

A generated method that has a value to give back never comes to its end without one, a method
that has none gives nothing back, and no statement of either is dead. Whether the end of the
`try` can be reached is decided by the handler, which may throw again, and by the kind of the
value, which may be there only sometimes; the fallback stands behind the `try` in exactly the
cases in which that end can be reached. The same holds of the runs of a method: one with a value
gives a value back in each of them, unless an exception leaves it.
-/

namespace TypedClients.Generation

open CSharp

/-- The value that a response gives for a type, when it gives one. -/
def responseValue (client : Client) (method : Method) (names : StubNames) (type : TypeSyntax) :
    Expr :=
  match ResultKind.ofType type with
  | .truth => .literal (.bool true)
  | .text => readContent client method "ReadAsStringAsync"
  | .bytes => readContent client method "ReadAsByteArrayAsync"
  | .deserialized _ => deserializeCall method.serializer names type.render

/-- What the rules of C# and the absence of dead code ask of the body of a method. -/
structure FlowsInto (client : Client) (method : Method) (shape : ReturnShape) (names : StubNames)
    (body : List Stmt) : Prop where
  /-- A method with a value does not come to its end. -/
  ends : shape.isParameterized = true → bodyEndReachable body = false
  /-- A value that is given back is that of the response, or the fallback of the kind. -/
  carries : ∀ type, shape.value = some type → ∀ value ∈ returnValuesOf body,
    value = responseValue client method names type ∨ value = (ResultKind.ofType type).fallback
  /-- A method without a value gives nothing back. -/
  returnless : shape.isParameterized = false → returnValuesOf body = []
  reachable : allReachable body = true
  /-- A cleanup gives nothing back, and its end is reached. -/
  cleans : ∀ cleanup ∈ cleanupsOf body,
    returnValuesOf cleanup = [] ∧ bodyEndReachable cleanup = true

section Pieces

variable {client : Client} {method : Method} {shape : ReturnShape} {names : StubNames}

/-- Statements that add headers come to their end, and none of them returns. -/
theorem plain_headerBlocks (method : Method) : PlainBody (headerBlocks method) := by
  refine .of_forall fun stmt member => ?_
  obtain ⟨parameter, template, rfl⟩ := mem_headerBlocks member
  exact ⟨rfl, rfl, rfl, rfl, rfl⟩

/-- Statements that make the content come to their end, and none of them returns. -/
theorem plain_contentStmts (method : Method) (names : StubNames) :
    PlainBody (contentStmts method names) := by
  unfold contentStmts
  split
  · exact ⟨rfl, rfl, rfl, rfl, rfl⟩
  · split <;> exact ⟨rfl, rfl, rfl, rfl, rfl⟩

/-- The statement that starts the watch comes to its end and does not return. -/
theorem plain_startWatch (method : Method) : PlainBody (startWatch method) := by
  unfold startWatch
  split <;> exact ⟨rfl, rfl, rfl, rfl, rfl⟩

/-- The check for a slow call comes to its end and does not return. -/
theorem plain_slowCallCheck (client : Client) (method : Method) :
    PlainBody (slowCallCheck client method) :=
  ⟨rfl, rfl, rfl, rfl, rfl⟩

/-- What is done however the `try` is left is passed, with no dead statement inside, gives nothing
back and throws nothing. It is the check for slow calls, or nothing. -/
theorem slowCallCleanup_passed (client : Client) (method : Method) :
    cleanupReachable (slowCallCleanup client method) = true ∧
      cleanupEndReachable (slowCallCleanup client method) = true ∧
      cleanupReturns (slowCallCleanup client method) = [] ∧
      cleanupCleanups (slowCallCleanup client method) = [] ∧
      cleanupRethrowsHandled (slowCallCleanup client method) = true := by
  unfold slowCallCleanup
  split <;> exact ⟨rfl, rfl, rfl, rfl, rfl⟩

/-- The check of the status is passed in either form, with no dead statement inside. -/
theorem statusCheck_passed (method : Method) (kind : Option ResultKind) :
    (statusCheck method kind).insideReachable = true ∧
      (statusCheck method kind).endReachable = true ∧
      (statusCheck method kind).cleanups = [] ∧
      (statusCheck method kind).rethrowsHandled = true := by
  unfold statusCheck
  split <;> exact ⟨rfl, rfl, rfl, rfl⟩

/-- The check of the status gives back the fallback at most. -/
theorem statusCheck_returnValues {kind : Option ResultKind} {value : Expr}
    (given : value ∈ (statusCheck method kind).returnValues) :
    ∃ expected, kind = some expected ∧ value = expected.fallback := by
  unfold statusCheck at given
  split at given
  · rename_i expected _
    exact ⟨expected, rfl, by simpa [eq_comm] using given⟩
  · cases given

/-- The value of the response is given back, and the end behind it is reached when there may be
none. -/
theorem giveResult_flows (client : Client) (method : Method) (names : StubNames)
    (type : TypeSyntax) :
    (giveResult client method names type).insideReachable = true ∧
      (giveResult client method names type).endReachable =
        (ResultKind.ofType type).mayGiveNothing ∧
      (giveResult client method names type).returnValues =
        [responseValue client method names type] ∧
      (giveResult client method names type).cleanups = [] ∧
      (giveResult client method names type).rethrowsHandled = true := by
  unfold giveResult responseValue
  generalize ResultKind.ofType type = kind
  cases kind <;> exact ⟨rfl, rfl, rfl, rfl, rfl⟩

/-- The handling of a response comes to its end when there is no value, or not always one. No
statement of it is dead, none cleans up, and none throws again. -/
theorem responseStmts_flows (client : Client) (method : Method) (shape : ReturnShape)
    (names : StubNames) :
    bodyEndReachable (responseStmts client method shape names) =
        (resultKind? shape).all ResultKind.mayGiveNothing ∧
      allReachable (responseStmts client method shape names) = true ∧
      cleanupsOf (responseStmts client method shape names) = [] ∧
      bodyRethrowsHandled (responseStmts client method shape names) = true := by
  have passed := statusCheck_passed method
  unfold responseStmts
  cases typed : shape.value with
  | none => simp [passed, resultKind?, typed]
  | some type =>
    obtain ⟨resultInside, resultEnd, _, resultGuardless, resultRethrows⟩ :=
      giveResult_flows client method names type
    have kind : resultKind? shape = some (ResultKind.ofType type) := by simp [resultKind?, typed]
    simp [passed, resultInside, resultEnd, resultGuardless, resultRethrows, kind]

/-- The handling of a response gives the fallback back, or the value of the response, and it gives
something back only in a method whose shape has a value. -/
theorem responseStmts_returnValues {value : Expr}
    (given : value ∈ returnValuesOf (responseStmts client method shape names)) :
    ∃ type, shape.value = some type ∧ (value = responseValue client method names type ∨
      value = (ResultKind.ofType type).fallback) := by
  rw [responseStmts, returnValuesOf] at given
  rcases List.mem_append.mp given with early | late
  · obtain ⟨kind, found, same⟩ := statusCheck_returnValues early
    obtain ⟨type, typed, rfl⟩ := Option.map_eq_some_iff.mp found
    exact ⟨type, typed, Or.inr same⟩
  · cases typed : shape.value with
    | none => simp [typed] at late
    | some type =>
      obtain ⟨_, _, values, _⟩ := giveResult_flows client method names type
      exact ⟨type, rfl, Or.inl (by simpa [typed, values] using late)⟩

end Pieces

section Body

/-- The statements that make a request reach what the handling of the response reaches, and no
other of them leaves the method. -/
theorem requestStmt_flows (client : Client) (method : Method) (endpoint : Endpoint)
    (names : StubNames) :
    (requestStmt client method endpoint names).endReachable =
        (resultKind? endpoint.returnShape).all ResultKind.mayGiveNothing ∧
      (requestStmt client method endpoint names).insideReachable = true ∧
      (requestStmt client method endpoint names).cleanups = [] ∧
      (requestStmt client method endpoint names).rethrowsHandled = true := by
  have headers := plain_headerBlocks method
  have content := plain_contentStmts method names
  obtain ⟨responseEnd, responseReached, responseClean, responseRethrows⟩ :=
    responseStmts_flows client method endpoint.returnShape names
  refine ⟨?_, ?_, ?_, ?_⟩
  · simp [requestStmt, sendStmt, headers.ends, content.ends, responseEnd]
  · simp [requestStmt, sendStmt, headers.reachable, headers.ends, content.reachable,
      content.ends, responseReached]
  · simp [requestStmt, sendStmt, headers.cleanupless, content.cleanupless, responseClean]
  · simp [requestStmt, sendStmt, headers.rethrowless, content.rethrowless, responseRethrows]

/-- The handler comes to its end unless it throws again. -/
theorem exceptionHandler_flows (client : Client) (method : Method) :
    bodyEndReachable (exceptionHandler client method) = !method.throwsOnFailure ∧
      allReachable (exceptionHandler client method) = true ∧
      returnValuesOf (exceptionHandler client method) = [] ∧
      cleanupsOf (exceptionHandler client method) = [] := by
  cases throws : method.throwsOnFailure <;> simp [exceptionHandler, throws]

/-- The fallback stands behind the `try` exactly when a method with a value can come to the end
of the `try`, and nothing stands behind the fallback. -/
theorem finalReturn_flows (method : Method) (shape : ReturnShape) :
    (finalReturn method shape = [] ∧ (shape.value = none ∨
        ((resultKind? shape).all ResultKind.mayGiveNothing || !method.throwsOnFailure) = false)) ∨
      ∃ type, shape.value = some type ∧
        finalReturn method shape = [.blank, .giveBack (ResultKind.ofType type).fallback] ∧
        ((resultKind? shape).all ResultKind.mayGiveNothing || !method.throwsOnFailure) = true := by
  cases typed : shape.value with
  | none => simp [finalReturn, resultKind?, typed]
  | some type =>
    cases throws : method.throwsOnFailure <;>
      cases falls : (ResultKind.ofType type).mayGiveNothing <;>
      simp [finalReturn, resultKind?, typed, throws, falls]

/-- The returns of a method are those of the handling of the response and the one at its end.
Neither the content nor the reports give anything back. -/
theorem returnsOf_methodBody_eq_append (client : Client) (method : Method) (endpoint : Endpoint)
    (names : StubNames) : returnsOf (methodBody client method endpoint names) =
      returnsOf (responseStmts client method endpoint.returnShape names) ++
        returnsOf (finalReturn method endpoint.returnShape) := by
  have watch := returnsOf_eq_nil.mpr (plain_startWatch method).returnless
  have headers := returnsOf_eq_nil.mpr (plain_headerBlocks method).returnless
  have content := returnsOf_eq_nil.mpr (plain_contentStmts method names).returnless
  obtain ⟨_, _, cleanup, _⟩ := slowCallCleanup_passed client method
  obtain ⟨_, _, handlerValues, _⟩ := exceptionHandler_flows client method
  have handler := returnsOf_eq_nil.mpr handlerValues
  simp [methodBody, requestStmt, sendStmt, watch, headers, content, cleanup, handler]

/-- A generated method gives the value of the response back, or the fallback of its kind, and both
are of the type that its shape names. -/
theorem methodBody_returnValues {client : Client} {method : Method} {endpoint : Endpoint}
    {names : StubNames} {value : Expr}
    (given : value ∈ returnValuesOf (methodBody client method endpoint names)) :
    ∃ type, endpoint.returnShape.value = some type ∧
      (value = responseValue client method names type ∨
        value = (ResultKind.ofType type).fallback) := by
  rw [← returnsOf_values, returnsOf_methodBody_eq_append, List.map_append, returnsOf_values,
    returnsOf_values] at given
  rcases List.mem_append.mp given with early | late
  · exact responseStmts_returnValues early
  · rcases finalReturn_flows method endpoint.returnShape with
      ⟨absent, _⟩ | ⟨type, typed, present, _⟩
    · simp [absent] at late
    · exact ⟨type, typed, Or.inr (by simpa [present] using late)⟩

/-- The body of a generated method returns definitely and has no dead statement. The end of the
`try` is decided by the request and the handler together. -/
theorem methodBody_flows (client : Client) (method : Method) (endpoint : Endpoint)
    (names : StubNames) : FlowsInto client method endpoint.returnShape names
      (methodBody client method endpoint names) := by
  have watch := plain_startWatch method
  obtain ⟨cleanupReached, cleanupEnd, _, cleanupClean, _⟩ := slowCallCleanup_passed client method
  obtain ⟨requestEnd, requestReached, requestClean, _⟩ :=
    requestStmt_flows client method endpoint names
  obtain ⟨handlerEnd, handlerReached, _, handlerClean⟩ := exceptionHandler_flows client method
  -- A method with a value has a return behind its `try` exactly when the end of that is reached.
  have final := finalReturn_flows method endpoint.returnShape
  constructor
  case ends =>
    intro parameterized
    rcases final with ⟨absent, valueless | stuck⟩ | ⟨type, _, present, _⟩
    · simp [ReturnShape.isParameterized, valueless] at parameterized
    · simp [methodBody, absent, requestEnd, handlerEnd, cleanupEnd, stuck]
    · simp [methodBody, present]
  case carries =>
    intro type typed value given
    obtain ⟨found, same, known⟩ := methodBody_returnValues given
    obtain rfl := Option.some.inj (same.symm.trans typed)
    exact known
  case returnless =>
    intro plain
    have valueless : endpoint.returnShape.value = none := by
      simpa [ReturnShape.isParameterized] using plain
    refine List.eq_nil_iff_forall_not_mem.mpr fun value given => ?_
    obtain ⟨type, typed, _⟩ := methodBody_returnValues given
    cases valueless.symm.trans typed
  case reachable =>
    rcases final with ⟨absent, _⟩ | ⟨type, _, present, falls⟩
    · simp [methodBody, absent, watch.reachable, watch.ends, requestReached, handlerReached,
        cleanupReached]
    · simp [methodBody, present, watch.reachable, watch.ends, requestReached, handlerReached,
        cleanupReached, cleanupEnd, requestEnd, handlerEnd, falls]
  case cleans =>
    have only : cleanupsOf (methodBody client method endpoint names) =
        (slowCallCleanup client method).toList := by
      rcases final with ⟨absent, _⟩ | ⟨type, _, present, _⟩
      · simp [methodBody, absent, watch.cleanupless, requestClean, handlerClean, cleanupClean]
      · simp [methodBody, present, watch.cleanupless, requestClean, handlerClean, cleanupClean]
    intro body member
    rw [only] at member
    rcases slowCallCleanup_cases client method with ⟨_, absent⟩ | ⟨_, present⟩
    · simp [absent] at member
    · obtain rfl : body = slowCallCheck client method := by simpa [present] using member
      have check := plain_slowCallCheck client method
      exact ⟨check.returnless, check.ends⟩

end Body

/-- Each generated method of a client returns definitely and has no dead statement. A method with a
value does not come to its end, and each value that it gives back is that of the response or the
fallback; a method without one gives nothing back. No cleanup returns or is left before its end. -/
theorem methods_return_definitely (client : Client) :
    List.Forall₂ (fun method definition => ∃ endpoint names,
        method.endpoint? = some endpoint ∧
          FlowsInto client method endpoint.returnShape names definition.body)
      client.eligibleMethods (clientUnit client).body.methods := by
  refine (forall₂_generated client [] client.methods).imp fun method definition generated => ?_
  obtain ⟨endpoint, declared, found, _⟩ := generated
  exact ⟨endpoint, _, found, methodBody_flows client method endpoint _⟩

end TypedClients.Generation
