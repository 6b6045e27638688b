import TypedClients.Proofs.CSharp.Trace
import TypedClients.Proofs.Generation.DefiniteReturn

/-!
# Runs of a request

While a request is made and its response is handled, the watch of the method is left alone, and
neither hook is called. Unless an exception ends it, the request is sent and answered, and the
first thing that is done with a response is to look at its status. A method that does not throw
and has a value to give back asks whether the status reports a failure, and answers one that does
with the fallback, and does nothing else any more; any other method lets the status raise the
exception.

Each statement here is about the run of a whole `using` block, and is proved from the response
outwards: what is evaluated before the request is sent is only known not to send it and not to ask
for the status, which is what `Apart` says about an expression.
-/

namespace TypedClients.Generation

open CSharp

/-- The condition that the status of a response reports a failure. -/
def refusedStatus : Expr :=
  .not (.member (.name "response") "IsSuccessStatusCode")

/-- An expression that sends the request. -/
def Sends (expr : Expr) : Prop :=
  ∃ arguments, expr = .await (.callMember (.name transportField) "SendAsync" arguments)

/-- What a method asks of a response first: whether its status reports a failure, when it can
answer one with a value and does not throw, and else that a failure is raised as an exception. -/
def statusQuestion (method : Method) (shape : ReturnShape) : Expr :=
  if method.throwsOnFailure = false ∧ shape.value ≠ none then refusedStatus
  else .callMember (.name "response") "EnsureSuccessStatusCode" []

/-- The end of the time that is taken. -/
def watchStop : Expr :=
  .callMember (.name "stopwatch") "Stop" []

/-- The check whether a call took longer than a limit. -/
def isSlow (limit : Nat) : Expr :=
  .binary elapsed .greater (.literal (.int limit))

/-- An expression that leaves the watch alone. -/
def Untimed (expr : Expr) : Prop :=
  expr ≠ watchStop ∧ ∀ limit, expr ≠ isSlow limit

/-- An expression that leaves the watch alone, does not check the status and does not send the
request. -/
structure Apart (expr : Expr) : Prop where
  unasked : expr ≠ refusedStatus
  untimed : Untimed expr
  unsent : ¬ Sends expr

/-- An expression with none of four forms is apart. The forms are spelled out, so that it is decided
by its own form whether an expression has one of them. -/
@[simp] theorem apart_iff {expr : Expr} :
    Apart expr ↔ expr ≠ .not (.member (.name "response") "IsSuccessStatusCode") ∧
      (expr ≠ .call (.member (.name "stopwatch") "Stop") [] [] ∧
        ∀ limit, expr ≠ .binary (.member (.name "stopwatch") "ElapsedMilliseconds") .greater
          (.literal (.int limit))) ∧
      ∀ arguments, expr ≠
        .await (.call (.member (.name "_httpClient") "SendAsync") [] arguments) := by
  constructor
  · intro apart
    exact ⟨apart.unasked, apart.untimed, fun arguments same => apart.unsent ⟨arguments, same⟩⟩
  · rintro ⟨unasked, untimed, unsent⟩
    exact ⟨unasked, untimed, fun ⟨arguments, same⟩ => unsent arguments same⟩

section Frame

variable {client : Client} {method : Method} {names : StubNames} {expr : Expr}

/-- The headers are added apart from the request being sent and timed. -/
theorem headerBlocks_apart : ∀ expr ∈ expressionsOf (headerBlocks method), Apart expr := by
  refine forall_expressionsOf_headerBlocks ?_
  simp [headerBlock, Expr.callMember]

/-- A value is written as text apart from the request being sent and timed. -/
theorem serializeCall_apart (serializer : Serializer) (value : Expr) :
    Apart (serializeCall serializer names value) := by
  cases serializer <;> simp [serializeCall, Expr.callMember, Expr.callName]

/-- A value is read from text apart from the request being sent and timed. -/
theorem deserializeCall_apart (serializer : Serializer) (type : String) :
    Apart (deserializeCall serializer names type) := by
  cases serializer <;> simp [deserializeCall, Expr.callName]

/-- The content is made apart from the request being sent and timed. -/
theorem contentStmts_apart (member : expr ∈ expressionsOf (contentStmts method names)) :
    Apart expr := by
  unfold contentStmts at member
  split at member
  · cases member
  · split at member
    · simp only [formContent, addFormField, Stmt.expressions, expressionsOf, List.append_nil,
        List.cons_append, List.nil_append, List.mem_cons, List.not_mem_nil, or_false] at member
      rcases member with rfl | rfl | rfl | rfl | rfl | rfl | rfl | rfl | rfl <;>
        simp [Expr.callMember, publicProperties, isPlainProperty, requestContent]
    · simp only [jsonContent, Stmt.expressions, expressionsOf, List.append_nil,
        List.cons_append, List.nil_append, List.mem_cons, List.not_mem_nil, or_false] at member
      rcases member with rfl | rfl | rfl
      · exact serializeCall_apart method.serializer _
      · simp
      · simp [requestContent]

/-- The value returned on a failure is written apart from the request being sent and timed. -/
theorem fallback_apart (kind : ResultKind) : Apart kind.fallback := by
  rcases kind with _ | _ | _ | (_ | element) <;> simp [ResultKind.fallback, emptyArray]

/-- Where the value of a response is given back, the status is not checked again. -/
theorem giveResult_apart {type : TypeSyntax}
    (member : expr ∈ (giveResult client method names type).expressions) : Apart expr := by
  unfold giveResult at member
  generalize ResultKind.ofType type = kind at member
  cases kind with
  | deserialized element =>
    simp only [Stmt.expressions, expressionsOf, List.append_nil, List.cons_append,
      List.nil_append, List.mem_cons, List.not_mem_nil, or_false] at member
    rcases member with rfl | rfl | rfl | rfl
    · simp [hasContent]
    · simp [readContent, Expr.callMember]
    · simp [Expr.callMember]
    · exact deserializeCall_apart method.serializer _
  | _ =>
    obtain rfl := List.mem_singleton.mp member
    simp [readContent, Expr.callMember]

/-- The handling of a response leaves the watch alone and sends nothing. It does look at the
status, so that it is not apart as a whole. -/
theorem responseStmts_quiet {shape : ReturnShape}
    (member : expr ∈ expressionsOf (responseStmts client method shape names)) :
    Untimed expr ∧ ¬ Sends expr := by
  have check {kind : Option ResultKind} (checked : expr ∈ (statusCheck method kind).expressions) :
      Untimed expr ∧ ¬ Sends expr := by
    unfold statusCheck at checked
    split at checked
    · rename_i expected _
      simp only [Stmt.expressions, expressionsOf, List.append_nil, List.mem_cons,
        List.not_mem_nil, or_false] at checked
      rcases checked with rfl | rfl
      · simp [Untimed, watchStop, isSlow, Sends, Expr.callMember]
      · exact ⟨(fallback_apart expected).untimed, (fallback_apart expected).unsent⟩
    · obtain rfl := List.mem_singleton.mp checked
      simp [Untimed, watchStop, isSlow, Sends, Expr.callMember]
  rcases List.mem_append.mp member with checked | given
  · exact check checked
  · split at given
    · cases given
    · have apart := giveResult_apart (by simpa using given)
      exact ⟨apart.untimed, apart.unsent⟩

/-- The statements that come before the request is sent. -/
def requestOpening (method : Method) (endpoint : Endpoint) (names : StubNames) : List Stmt :=
  [.assign (.member (.name "request") "Method")
      (.member (.name "System.Net.Http.HttpMethod") endpoint.verb.member),
    .assign (.member (.name "request") "RequestUri")
      (.create "System.Uri" [.name "url", .name "System.UriKind.RelativeOrAbsolute"])]
    ++ headerBlocks method ++ contentStmts method names

/-- The statement around the request holds it as a resource, and in it come the statements of the
opening and the one that sends the request. -/
theorem requestStmt_eq (client : Client) (method : Method) (endpoint : Endpoint)
    (names : StubNames) : requestStmt client method endpoint names =
      .withResource "request" (.create "System.Net.Http.HttpRequestMessage" [])
        (requestOpening method endpoint names ++
          [sendStmt client method endpoint.returnShape names]) :=
  rfl

variable {endpoint : Endpoint}

/-- Up to the sending, the request is put together apart from being sent and timed. -/
theorem requestOpening_apart
    (member : expr ∈ expressionsOf (requestOpening method endpoint names)) :
    Apart expr := by
  simp only [requestOpening, Stmt.expressions, expressionsOf, expressionsOf_append,
    List.append_nil, List.mem_append, List.mem_cons, List.not_mem_nil, or_false] at member
  rcases member with (((rfl | rfl) | rfl | rfl) | header) | content
  · simp
  · simp
  · simp
  · simp
  · exact headerBlocks_apart expr header
  · exact contentStmts_apart content

/-- While a request is made and its response is handled, the watch is left alone. -/
theorem requestStmt_untimed
    (member : expr ∈ (requestStmt client method endpoint names).expressions) : Untimed expr := by
  simp only [requestStmt_eq, sendStmt, Stmt.expressions, expressionsOf, expressionsOf_append,
    List.append_nil, List.mem_cons, List.mem_append] at member
  rcases member with rfl | opening | rfl | response
  · simp [Untimed, watchStop, isSlow, Expr.callMember]
  · exact (requestOpening_apart opening).untimed
  · simp [Untimed, watchStop, isSlow, Expr.callMember]
  · exact (responseStmts_quiet response).1

/-- While a request is made and its response is handled, no hook is called. -/
theorem requestStmt_hookless {stubs : List Prototype}
    (member : expr ∈ (requestStmt client method endpoint
      (stubNames stubs method endpoint.returnShape)).expressions) :
    ∀ call ∈ expr.calls, call.callee ∉ [errorHook, slowCallHook] := by
  intro call called
  rcases mem_calls_requestStmt.mp (List.mem_flatMap.mpr ⟨expr, member, called⟩) with
    content | response
  · obtain ⟨request, parameter, asked, _, rfl⟩ := mem_callsIn_contentStmts.mp content
    exact serializeName_not_hook asked
  · obtain ⟨request, asked, rfl⟩ := mem_callsIn_responseStmts.mp response
    exact deserializeName_not_hook asked

end Frame

section Runs

variable {Value Failure : Type} (env : Environment Value Failure) (handling : Option Failure)
variable (client : Client) {method : Method} (endpoint : Endpoint) (names : StubNames)
variable (history : List (Event Value Failure))

/-- A method that does not throw and has a value gives the fallback back when the status of the
response reports a failure. -/
theorem requestStmt_givesBackWhen {type : TypeSyntax} (lenient : method.throwsOnFailure = false)
    (typed : endpoint.returnShape.value = some type) :
    ((requestStmt client method endpoint names).run env handling history).GivesBackWhen env
      refusedStatus (ResultKind.ofType type).fallback := by
  have response (after : List (Event Value Failure)) :
      (runBody env handling (responseStmts client method endpoint.returnShape names)
        after).GivesBackWhen env refusedStatus (ResultKind.ofType type).fallback := by
    have first : responseStmts client method endpoint.returnShape names =
        .whenTrue refusedStatus [.giveBack (ResultKind.ofType type).fallback] ::
          [.blank, giveResult client method names type] := by
      simp [responseStmts, statusCheck, resultKind?, typed, lenient, refusedStatus]
    rw [first]
    refine givesBackWhen_check env handling after (fallback_apart _).unasked fun expr member => ?_
    exact (giveResult_apart (by simpa using member)).unasked
  have send (after : List (Event Value Failure)) :
      (runBody env handling [sendStmt client method endpoint.returnShape names]
        after).GivesBackWhen env refusedStatus (ResultKind.ofType type).fallback := by
    rw [runBody_singleton]
    exact .evaluate (by simp [refusedStatus]) fun _ => response
  rw [requestStmt_eq]
  refine .evaluate (by simp [refusedStatus]) fun _ after => ?_
  rw [runBody_append]
  exact .andThen (runBody_evaluates env handling _ after fun expr member =>
    (requestOpening_apart member).unasked) send

/-- The check of the status evaluates the question about it first, whatever it does with the
answer. -/
theorem statusCheck_asks (shape : ReturnShape) : ∃ answer rest,
    ((statusCheck method (resultKind? shape)).run env handling history).trace =
      ⟨statusQuestion method shape, answer⟩ :: rest := by
  have asked (expr : Expr) (next : Value → List (Event Value Failure) → Run Value Failure) :
      ∃ answer rest, (env.evaluate history expr next).trace = ⟨expr, answer⟩ :: rest := by
    unfold Environment.evaluate
    split
    · exact ⟨_, _, rfl⟩
    · exact ⟨_, _, rfl⟩
  by_cases lenient : method.throwsOnFailure = false
  · cases typed : shape.value with
    | none =>
      simp only [statusQuestion, statusCheck, resultKind?, lenient, typed, Option.map_none,
        ne_eq, not_true_eq_false, and_false, if_false]
      exact asked _ _
    | some type =>
      simp only [statusQuestion, statusCheck, resultKind?, lenient, typed, Option.map_some,
        ne_eq, reduceCtorEq, not_false_eq_true, and_true, if_true]
      exact asked _ _
  · have throws : method.throwsOnFailure = true := by simpa using lenient
    have check : statusCheck method (resultKind? shape) =
        .evaluate (.callMember (.name "response") "EnsureSuccessStatusCode" []) := by
      cases kind : resultKind? shape <;> simp [statusCheck, throws]
    rw [check, statusQuestion, if_neg fun both => lenient both.1]
    exact asked _ _

/-- Right behind each request that is sent and answered, the status of the response is looked at,
before anything else is evaluated. No other expression around the request sends it. -/
theorem requestStmt_followedBy :
    ((requestStmt client method endpoint names).run env handling history).FollowedBy Sends
      (statusQuestion method endpoint.returnShape) := by
  have begins (after : List (Event Value Failure)) : ∃ answer rest,
      (runBody env handling (responseStmts client method endpoint.returnShape names) after).trace =
        ⟨statusQuestion method endpoint.returnShape, answer⟩ :: rest := by
    obtain ⟨later, trace, _⟩ := exists_trace_cons env handling
      (statusCheck method (resultKind? endpoint.returnShape)) _ after
    obtain ⟨answer, rest, asked⟩ := statusCheck_asks env handling after endpoint.returnShape
    exact ⟨answer, rest ++ later, by rw [responseStmts, trace, asked, List.cons_append]⟩
  have absent (after : List (Event Value Failure)) :
      (runBody env handling (responseStmts client method endpoint.returnShape names)
        after).Evaluates fun expr => ¬ Sends expr :=
    runBody_evaluates env handling _ after fun expr member => (responseStmts_quiet member).2
  rw [requestStmt_eq]
  refine .evaluate (by simp [Sends]) fun _ after => ?_
  rw [runBody_append]
  refine .andThen (runBody_evaluates env handling _ after fun expr member =>
    (requestOpening_apart member).unsent) fun later => ?_
  rw [runBody_singleton]
  exact .asked (fun _ => begins) fun _ => absent

/-- A request that no exception ends is sent, and there is a response. Nothing that comes before the
sending can leave the method with a value, so that it is either reached or kept from being reached
by an exception. -/
theorem requestStmt_obtains :
    ((requestStmt client method endpoint names).run env handling history).Obtains Sends := by
  have plain : PlainBody (requestOpening method endpoint names) :=
    .append (.append ⟨rfl, rfl, rfl, rfl, rfl⟩ (plain_headerBlocks method))
      (plain_contentStmts method names)
  rw [requestStmt_eq]
  refine .evaluate fun _ after => ?_
  rw [runBody_append]
  refine .andThen (fun source value returned => ?_) fun later => ?_
  · have given := mem_returnValuesOf_of_returned env handling _ after returned
    rw [plain.returnless] at given
    cases given
  · rw [runBody_singleton]
    exact .asked _ ⟨_, rfl⟩

end Runs

end TypedClients.Generation
