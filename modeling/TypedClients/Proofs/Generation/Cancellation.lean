import TypedClients.Proofs.CSharp.Mapping
import TypedClients.Proofs.CSharp.MemberCalls
import TypedClients.Proofs.Declaration
import TypedClients.Proofs.Generation.ClientUnit
import TypedClients.Proofs.Generation.Request

/-!
# Cancellation tokens

A generated method sends its request once and hands its token over there, behind the request. The
reads of the response take the token as well where the runtime can, and nothing else does: methods
that differ in their tokens alone are generated alike, but for these arguments and for the
parameters in their heads.

Every statement but two is `Tokenless`, which says that nothing in it sends or reads. The two others
are looked at by themselves, so the calls that take the token are listed completely.
-/

namespace TypedClients.Generation

open CSharp

/-! ## Sending and reading -/

/-- The arguments by which a method hands its token on: the first of its parameters without a part
in the request, or nothing where there is none. -/
inductive HandsOn (method : Method) : List Expr → Prop where
  | token {parameter : Parameter}
      (first : IsFirst (fun parameter => parameter.binding = .none) method.parameters parameter) :
      HandsOn method [.name (escapedIdentifier parameter.name)]
  | nothing (absent : ∀ parameter ∈ method.parameters, parameter.binding ≠ .none) :
      HandsOn method []

/-- Whether an expression is the content of the response. -/
def isResponseContent : Expr → Bool
  | .member (.name object) name => object == "response" && name == "Content"
  | _ => false

/-- The test for the content of the response holds of the one expression for it. -/
@[simp] theorem isResponseContent_iff {expr : Expr} :
    isResponseContent expr = true ↔ expr = .member (.name "response") "Content" := by
  unfold isResponseContent
  split
  · simp
  · rename_i other
    simpa using other "response" "Content"

/-- The test for the content of the response fails for every other expression. -/
@[simp] theorem isResponseContent_eq_false_iff {expr : Expr} :
    isResponseContent expr = false ↔ expr ≠ .member (.name "response") "Content" := by
  rw [← Bool.not_eq_true, isResponseContent_iff]

/-- The calls in statements that send a request. -/
def sendsIn (body : List Stmt) : List MemberCall :=
  (memberCallsIn body).filter fun call => call.name == "SendAsync"

/-- The calls in statements that read the content of the response. -/
def readsIn (body : List Stmt) : List MemberCall :=
  (memberCallsIn body).filter fun call => isResponseContent call.object

/-- The members by which a value of a kind is read from the response. -/
def readersOf : Option ResultKind → List String
  | some .text | some (.deserialized _) => ["ReadAsStringAsync"]
  | some .bytes => ["ReadAsByteArrayAsync"]
  | some .truth | none => []

/-- A generated method sends its request once, with its token as the last argument. It reads the
response with the token alone where the runtime can take it, and else without an argument. -/
def PassesToken (client : Client) (method : Method) (definition : MethodDef) : Prop :=
  ∃ endpoint token, method.endpoint? = some endpoint ∧ HandsOn method token ∧
    sendsIn definition.body = [⟨.name transportField, "SendAsync", .name "request" :: token⟩] ∧
    readsIn definition.body = (readersOf (resultKind? endpoint.returnShape)).map fun reader =>
      ⟨.member (.name "response") "Content", reader,
        if client.targetsModernRuntime then token else []⟩

/-- Methods that differ in their tokens at most: in how many there are, in their places, names and
types. If one of the methods has parameters, both have. -/
structure SameButTokens (first second : Method) : Prop where
  fields : second = { first with parameters := second.parameters }
  others : first.parameters.filter (·.binding ≠ .none) =
    second.parameters.filter (·.binding ≠ .none)
  present : first.parameters = [] ↔ second.parameters = []

/-- Clients whose methods differ in their tokens at most. -/
structure AlikeButTokens (first second : Client) : Prop where
  fields : second = { first with methods := second.methods }
  methods : List.Forall₂ SameButTokens first.methods second.methods

/-- An expression without the token: the awaited call that sends the request has the request
alone, and one that reads the response has no argument. Any other expression stays as it is. -/
def withoutToken : Expr → Expr
  | .await (.call (.member object name) types arguments) =>
    if name = "SendAsync" then .await (.call (.member object name) types (arguments.take 1))
    else if isResponseContent object then .await (.call (.member object name) types [])
    else .await (.call (.member object name) types arguments)
  | expr => expr

/-- Definitions that are the same but for their parameters and the tokens in their bodies. -/
structure DefinedAlike (first second : MethodDef) : Prop where
  modifiers : first.modifiers = second.modifiers
  returnType : first.signature.returnType = second.signature.returnType
  name : first.signature.name = second.signature.name
  body : mapExpressionsIn withoutToken first.body = mapExpressionsIn withoutToken second.body

/-! ## Where tokens go -/

/-- An expression that neither sends the request nor reads the response. -/
def Tokenless (expr : Expr) : Prop :=
  ∀ call ∈ expr.memberCalls, call.name ≠ "SendAsync" ∧ isResponseContent call.object = false

/-- The argument that is handed on is the first parameter without a binding, or there is none. -/
theorem handsOn_cancellationArgument (method : Method) :
    HandsOn method (cancellationArgument method) := by
  have decides (parameter : Parameter) :
      decide (parameter.binding = .none) = true ↔ parameter.binding = .none := decide_eq_true_iff
  cases found : method.cancellationParameter? with
  | none =>
    have absent : ∀ parameter ∈ method.parameters, parameter.binding ≠ .none := by
      simpa [Method.cancellationParameter?] using found
    simpa [cancellationArgument, found] using HandsOn.nothing absent
  | some parameter =>
    have first := (find?_eq_some_iff_isFirst decides).mp found
    simpa [cancellationArgument, found, parameterExpr] using HandsOn.token first

/-- The token itself is a name. -/
@[simp] theorem memberCallsOfAll_cancellationArgument (method : Method) :
    memberCallsOfAll (cancellationArgument method) = [] := by
  unfold cancellationArgument
  cases method.cancellationParameter? <;> simp [parameterExpr]

/-- Reading the response is one call of a member, with the arguments that the runtime can take. -/
@[simp] theorem memberCalls_readContent (client : Client) (method : Method) (reader : String) :
    (readContent client method reader).memberCalls =
      [⟨.member (.name "response") "Content", reader, readArguments client method⟩] := by
  have arguments : memberCallsOfAll (readArguments client method) = [] := by
    unfold readArguments
    split <;> simp
  simp [readContent, Expr.callMember, arguments]

/-- The value returned on a failure neither sends nor reads anything. -/
theorem fallback_tokenless (kind : ResultKind) : Tokenless kind.fallback := by
  rcases kind with _ | _ | _ | (_ | element) <;>
    simp [Tokenless, ResultKind.fallback, emptyArray]

/-- The address is built without sending or reading anything. -/
theorem urlExpr_tokenless (method : Method) (path : String) : Tokenless (urlExpr method path) := by
  unfold urlExpr
  split <;> simp [Tokenless, Expr.text]

/-- The watch is started without sending or reading anything. -/
theorem startWatch_tokenless (method : Method) :
    ∀ expr ∈ expressionsOf (startWatch method), Tokenless expr := by
  unfold startWatch
  split <;> simp [Tokenless, Expr.callMember]

/-- The headers are added without sending or reading anything. -/
theorem headerBlocks_tokenless (method : Method) :
    ∀ expr ∈ expressionsOf (headerBlocks method), Tokenless expr := by
  refine forall_expressionsOf_headerBlocks ?_
  simp [Tokenless, headerBlock, Expr.callMember, headerPair, headerValue, Expr.text]

/-- The content is made without sending or reading anything: it is the content of the request. -/
theorem contentStmts_tokenless (method : Method) (names : StubNames) :
    ∀ expr ∈ expressionsOf (contentStmts method names), Tokenless expr := by
  have serialize (serializer : Serializer) (parameter : Parameter) :
      Tokenless (serializeCall serializer names (parameterExpr parameter)) := by
    cases serializer <;>
      simp [Tokenless, serializeCall, Expr.callMember, Expr.callName, parameterExpr]
  unfold contentStmts
  split
  · simp
  · split
    · simp [Tokenless, formContent, Expr.callMember, publicProperties, isPlainProperty,
        addFormField, requestContent, parameterExpr]
    · simp only [jsonContent, Stmt.expressions, expressionsOf, List.append_nil,
        List.forall_mem_append, List.forall_mem_singleton, List.forall_mem_cons]
      refine ⟨serialize _ _, ?_, ?_⟩ <;> simp [Tokenless, Expr.text, requestContent]

/-- Up to the request itself nothing is sent and nothing is read. -/
theorem requestOpening_tokenless (method : Method) (endpoint : Endpoint) (names : StubNames) :
    ∀ expr ∈ expressionsOf (requestOpening method endpoint names), Tokenless expr := by
  simp only [requestOpening, expressionsOf_append, List.forall_mem_append]
  refine ⟨⟨?_, headerBlocks_tokenless method⟩, contentStmts_tokenless method names⟩
  simp [Tokenless]

/-- The status is examined without sending or reading anything. -/
theorem statusCheck_tokenless (method : Method) (kind : Option ResultKind) :
    ∀ expr ∈ (statusCheck method kind).expressions, Tokenless expr := by
  unfold statusCheck
  split
  · rename_i expected _
    have fallback := fallback_tokenless expected
    simp [Tokenless] at fallback ⊢
    exact fallback
  · simp [Tokenless, Expr.callMember]

/-- What happens after an exception neither sends nor reads anything. -/
theorem exceptionHandler_tokenless (client : Client) (method : Method) :
    ∀ expr ∈ expressionsOf (exceptionHandler client method), Tokenless expr := by
  unfold exceptionHandler
  split <;> simp [Tokenless, Expr.callName, reportedName, Expr.text]

/-- What happens in the end, in any case, neither sends nor reads anything. -/
theorem slowCallCleanup_tokenless (client : Client) (method : Method) :
    ∀ expr ∈ cleanupExpressions (slowCallCleanup client method), Tokenless expr := by
  unfold slowCallCleanup
  split <;>
    simp [slowCallCheck, Tokenless, Expr.callMember, Expr.callName, elapsed, reportedName,
      Expr.text]

/-- The return at the end neither sends nor reads anything. -/
theorem finalReturn_tokenless (method : Method) (shape : ReturnShape) :
    ∀ expr ∈ expressionsOf (finalReturn method shape), Tokenless expr := by
  unfold finalReturn
  split
  · simp
  · split
    · simpa using fallback_tokenless _
    · simp

/-- Where no expression sends or reads, no call does: there is neither a call of `SendAsync` nor one
on the content of the response. -/
theorem calls_of_tokenless {exprs : List Expr} (tokenless : ∀ expr ∈ exprs, Tokenless expr) :
    (exprs.flatMap Expr.memberCalls).filter (fun call => call.name == "SendAsync") = [] ∧
      (exprs.flatMap Expr.memberCalls).filter (fun call => isResponseContent call.object) = [] := by
  have each (call : MemberCall) (member : call ∈ exprs.flatMap Expr.memberCalls) :
      call.name ≠ "SendAsync" ∧ isResponseContent call.object = false := by
    obtain ⟨expr, among, inside⟩ := List.mem_flatMap.mp member
    exact tokenless expr among call inside
  constructor <;> refine List.filter_eq_nil_iff.mpr fun call member => ?_
  · simpa using (each call member).1
  · simpa using (each call member).2

/-- A response is read as its kind asks for, and handling it sends nothing. The calls on its content
are one for each reader of the kind, and each has the arguments of the method, which is where the
token would be. -/
theorem calls_responseStmts (client : Client) (method : Method) (shape : ReturnShape)
    (names : StubNames) :
    sendsIn (responseStmts client method shape names) = [] ∧
      readsIn (responseStmts client method shape names) =
        (readersOf (resultKind? shape)).map fun reader =>
          ⟨.member (.name "response") "Content", reader, readArguments client method⟩ := by
  have check := calls_of_tokenless (statusCheck_tokenless method (resultKind? shape))
  have deserialize (type : String) :
      Tokenless (deserializeCall method.serializer names type) := by
    cases method.serializer <;>
      simp [Tokenless, deserializeCall, Expr.callName]
  have result (type : TypeSyntax) :
      sendsIn [giveResult client method names type] = [] ∧
        readsIn [giveResult client method names type] =
          (readersOf (some (ResultKind.ofType type))).map fun reader =>
            ⟨.member (.name "response") "Content", reader, readArguments client method⟩ := by
    unfold giveResult
    -- By which spelling a kind is recognised plays no part.
    generalize ResultKind.ofType type = kind
    cases kind with
    | deserialized element =>
      have given := calls_of_tokenless (List.forall_mem_singleton.mpr (deserialize type.render))
      simp only [List.flatMap_singleton] at given
      simp [sendsIn, readsIn, readersOf, hasContent, Expr.callMember, given]
    | _ => simp [sendsIn, readsIn, readersOf]
  unfold responseStmts
  cases typed : shape.value with
  | none => simpa [sendsIn, readsIn, resultKind?, typed, readersOf] using check
  | some type =>
    have both := result type
    simp only [sendsIn, readsIn, memberCallsIn_cons, List.filter_append, memberCallsIn_nil,
      List.append_nil, resultKind?, typed, Option.map_some] at check both ⊢
    simp [check, both]

/-- A generated method sends its request once, and reads the response where it handles it. Its other
statements are tokenless and add nothing to either list. -/
theorem calls_methodBody (client : Client) (method : Method) (endpoint : Endpoint)
    (names : StubNames) :
    sendsIn (methodBody client method endpoint names) =
        [⟨.name transportField, "SendAsync", .name "request" :: cancellationArgument method⟩] ∧
      readsIn (methodBody client method endpoint names) =
        (readersOf (resultKind? endpoint.returnShape)).map fun reader =>
          ⟨.member (.name "response") "Content", reader, readArguments client method⟩ := by
  have address := calls_of_tokenless (List.forall_mem_singleton.mpr
    (urlExpr_tokenless method endpoint.pathTemplate))
  have watch := calls_of_tokenless (startWatch_tokenless method)
  have opening := calls_of_tokenless (requestOpening_tokenless method endpoint names)
  have response := calls_responseStmts client method endpoint.returnShape names
  have handler := calls_of_tokenless (exceptionHandler_tokenless client method)
  have cleanup := calls_of_tokenless (slowCallCleanup_tokenless client method)
  have final := calls_of_tokenless (finalReturn_tokenless method endpoint.returnShape)
  simp only [List.flatMap_singleton] at address
  simp only [sendsIn, readsIn, memberCallsIn] at response ⊢
  simp [methodBody, requestStmt_eq, sendStmt, Expr.callMember, transportField,
    address, watch, opening, response, handler, cleanup, final]

/-- A generated method sends its request once and passes its token on. All other statements are
tokenless, so the one that sends and the ones that read are all there is. -/
theorem Generated.passesToken {client : Client} {stubs : List Prototype} {method : Method}
    {definition : MethodDef} (generated : Generated client stubs method definition) :
    PassesToken client method definition := by
  obtain ⟨endpoint, declared, found, _⟩ := generated
  obtain ⟨sends, reads⟩ := calls_methodBody client method endpoint
    (stubNames declared method endpoint.returnShape)
  exact ⟨endpoint, _, found, handsOn_cancellationArgument method, sends, reads⟩

/-! ## Methods that differ in their tokens -/

section Alike

variable {first second : Method}

/-- What is selected from the parameters by their parts in the request is the same. -/
theorem SameButTokens.filter_eq (same : SameButTokens first second) {test : Parameter → Bool}
    (part : ∀ parameter, test parameter = true → parameter.binding ≠ .none) :
    first.parameters.filter test = second.parameters.filter test := by
  have through (parameters : List Parameter) : parameters.filter test =
      (parameters.filter (·.binding ≠ .none)).filter test := by
    rw [List.filter_filter]
    refine List.filter_congr fun parameter _ => ?_
    cases chosen : test parameter <;> simp [part parameter, chosen]
  rw [through first.parameters, same.others, ← through]

/-- A token is in no address, neither as a placeholder nor in the query string, so methods that
differ in their tokens have one address. -/
theorem SameButTokens.urlExpr_eq (same : SameButTokens first second) (path : String) :
    urlExpr first path = urlExpr second path := by
  have empty : first.parameters.isEmpty = second.parameters.isEmpty := by
    rw [Bool.eq_iff_iff]
    simpa using same.present
  have names : first.routeNames = second.routeNames := by
    rw [Method.routeNames, Method.routeNames, same.filter_eq (by simp +contextual)]
  have query : first.queryParameters = second.queryParameters :=
    same.filter_eq (by simp +contextual)
  simp only [urlExpr, urlParts, empty, names, query]

/-- A token is no header. -/
theorem SameButTokens.headerBlocks_eq (same : SameButTokens first second) :
    headerBlocks first = headerBlocks second := by
  have through (method : Method) : headerBlocks method =
      (method.parameters.filter (·.binding ≠ .none)).filterMap fun parameter =>
        parameter.binding.headerTemplate?.map (headerBlock parameter) := by
    rw [headerBlocks, List.filterMap_filter]
    refine List.filterMap_congr fun parameter _ => ?_
    cases bound : parameter.binding <;> simp [Binding.headerTemplate?]
  rw [through, through, same.others]

/-- A token is not the content. -/
theorem SameButTokens.contentParameter?_eq (same : SameButTokens first second) :
    first.contentParameter? = second.contentParameter? := by
  have carried : first.contentParameters = second.contentParameters := by
    refine same.filter_eq fun parameter carries bound => ?_
    simp [bound, Binding.carriesContent] at carries
  have suppressed : first.contentSuppressed = second.contentSuppressed := by
    rw [same.fields]
  rw [Method.contentParameter?, Method.contentParameter?, carried, suppressed]

variable {client other : Client} {endpoint : Endpoint} {names : StubNames}

/-- Such methods ask for the same stubs. -/
theorem SameButTokens.requests_eq (same : SameButTokens first second) (shape : ReturnShape) :
    serializeRequest? first = serializeRequest? second ∧
      deserializeRequest? first shape = deserializeRequest? second shape := by
  have name : first.name = second.name := by rw [same.fields]
  have serializer : first.serializer = second.serializer := by rw [same.fields]
  rw [serializeRequest?, serializeRequest?, deserializeRequest?, deserializeRequest?,
    same.contentParameter?_eq, name, serializer]
  exact ⟨rfl, rfl⟩

/-- Without the token a read is the same whatever the token is. -/
theorem withoutToken_readContent (client : Client) (method : Method) {reader : String}
    (reads : reader ≠ "SendAsync") : withoutToken (readContent client method reader) =
      .await (.call (.member (.member (.name "response") "Content") reader) [] []) := by
  simp [readContent, Expr.callMember, withoutToken, reads]

/-- Without the token a response is handled in the same way. The token stands only in the arguments
of the calls that read the content, which `withoutToken` takes out. -/
theorem SameButTokens.responseStmts_eq (same : SameButTokens first second) (client : Client)
    (shape : ReturnShape) (names : StubNames) :
    mapExpressionsIn withoutToken (responseStmts client first shape names) =
      mapExpressionsIn withoutToken (responseStmts client second shape names) := by
  have throws : first.throwsOnFailure = second.throwsOnFailure := by rw [same.fields]
  have serializer : first.serializer = second.serializer := by rw [same.fields]
  have result (type : TypeSyntax) :
      (giveResult client first names type).mapExpressions withoutToken =
        (giveResult client second names type).mapExpressions withoutToken := by
    unfold giveResult
    split <;> simp [withoutToken_readContent, serializer]
  have check (kind : Option ResultKind) : statusCheck first kind = statusCheck second kind := by
    simp only [statusCheck, throws]
  rw [responseStmts, responseStmts, check]
  cases shape.value with
  | none => rfl
  | some type => simp [result]

/-- Without the token the bodies of such methods are the same, statement by statement: the address,
the content, the headers and the reports are equal as they stand, and the sending and the reading
after the token is taken out. -/
theorem SameButTokens.methodBody_eq (same : SameButTokens first second) (client : Client)
    (endpoint : Endpoint) (names : StubNames) :
    mapExpressionsIn withoutToken (methodBody client first endpoint names) =
      mapExpressionsIn withoutToken (methodBody client second endpoint names) := by
  have throws : first.throwsOnFailure = second.throwsOnFailure := by rw [same.fields]
  have serializer : first.serializer = second.serializer := by rw [same.fields]
  have threshold : first.slowCallThreshold = second.slowCallThreshold := by rw [same.fields]
  have reported : reportedName client first = reportedName client second := by
    rw [reportedName, reportedName, Client.qualifiedName, Client.qualifiedName, same.fields]
  have content : contentStmts first names = contentStmts second names := by
    rw [contentStmts, contentStmts, same.contentParameter?_eq, serializer]
  have opening : requestOpening first endpoint names = requestOpening second endpoint names := by
    rw [requestOpening, requestOpening, same.headerBlocks_eq, content]
  have sent (method : Method) : withoutToken (.await (.callMember (.name transportField) "SendAsync"
      (.name "request" :: cancellationArgument method))) =
        .await (.callMember (.name transportField) "SendAsync" [.name "request"]) := by
    simp [withoutToken, Expr.callMember]
  have request : (requestStmt client first endpoint names).mapExpressions withoutToken =
      (requestStmt client second endpoint names).mapExpressions withoutToken := by
    simp [requestStmt_eq, sendStmt, opening, sent, same.responseStmts_eq]
  have watch : startWatch first = startWatch second := by
    rw [startWatch, startWatch, threshold]
  have handler : exceptionHandler client first = exceptionHandler client second := by
    rw [exceptionHandler, exceptionHandler, reported, throws]
  have cleanup : slowCallCleanup client first = slowCallCleanup client second := by
    rw [slowCallCleanup, slowCallCleanup, slowCallCheck, slowCallCheck, reported, threshold]
  have final : finalReturn first endpoint.returnShape =
      finalReturn second endpoint.returnShape := by
    rw [finalReturn, finalReturn, throws]
  simp [methodBody, same.urlExpr_eq, watch, request, handler, cleanup, final]

/-- Methods that differ in their tokens are defined alike, also in two clients, as a definition
depends on the fields of the client and not on its other methods. -/
theorem SameButTokens.definedAlike (same : SameButTokens first second)
    (fields : other = { client with methods := other.methods }) (endpoint : Endpoint)
    (names : StubNames) :
    DefinedAlike (methodDef client first endpoint names)
      (methodDef other second endpoint names) := by
  have className : client.className = other.className := by rw [fields]
  have runtime : client.targetsModernRuntime = other.targetsModernRuntime := by rw [fields]
  rw [← methodDef_congr className runtime]
  have name : first.name = second.name := by rw [same.fields]
  exact ⟨rfl, rfl, name, same.methodBody_eq client endpoint names⟩

/-- Methods that differ in their tokens are generated one like the other, with the same stubs. The
induction is on the methods, with the stubs that were declared so far. -/
theorem forall₂_definedAlike (fields : other = { client with methods := other.methods })
    {methods others : List Method} (same : List.Forall₂ SameButTokens methods others)
    (stubs : List Prototype) :
    List.Forall₂ DefinedAlike (methodsAndStubs client stubs methods).1
        (methodsAndStubs other stubs others).1 ∧
      (methodsAndStubs client stubs methods).2 = (methodsAndStubs other stubs others).2 := by
  induction same generalizing stubs with
  | nil => exact ⟨.nil, rfl⟩
  | @cons first second methods others head _ inductionHypothesis =>
    have role : first.endpoint? = second.endpoint? := by
      rw [Method.endpoint?, Method.endpoint?, head.fields]
    cases found : second.endpoint? with
    | none => simpa only [methodsAndStubs, role, found] using inductionHypothesis stubs
    | some endpoint =>
      obtain ⟨serialize, deserialize⟩ := head.requests_eq endpoint.returnShape
      have declared : declareStubs stubs first endpoint.returnShape =
          declareStubs stubs second endpoint.returnShape := by
        rw [declareStubs, declareStubs, serialize, deserialize]
      have named : stubNames stubs first endpoint.returnShape =
          stubNames stubs second endpoint.returnShape := by
        rw [stubNames, stubNames, serialize, deserialize]
      obtain ⟨definitions, stubsAfter⟩ :=
        inductionHypothesis (declareStubs stubs second endpoint.returnShape)
      simp only [methodsAndStubs, role, found, declared, named]
      exact ⟨.cons (head.definedAlike fields endpoint _) definitions, stubsAfter⟩

/-- Clients that differ in the tokens of their methods have the same hooks, as the hooks depend on
thresholds and on which methods have an endpoint, and a token has no part in either. -/
theorem AlikeButTokens.hooks_eq (same : AlikeButTokens client other) :
    hooks client = hooks other := by
  have threshold : client.slowCallThreshold = other.slowCallThreshold := by rw [same.fields]
  have any_timed {methods others : List Method}
      (alike : List.Forall₂ SameButTokens methods others) :
      ((methods.filter Method.isEligible).any fun method => method.slowCallThreshold > 0) =
        (others.filter Method.isEligible).any fun method => method.slowCallThreshold > 0 := by
    induction alike with
    | nil => rfl
    | cons head _ inductionHypothesis =>
      rw [List.any_filter, List.any_filter] at inductionHypothesis ⊢
      rw [List.any_cons, List.any_cons, inductionHypothesis, head.fields]
      rfl
  have timed : (client.eligibleMethods.any fun method => method.slowCallThreshold > 0) =
      other.eligibleMethods.any fun method => method.slowCallThreshold > 0 :=
    any_timed same.methods
  rw [hooks, hooks, Client.reportsSlowCalls, Client.reportsSlowCalls, threshold, timed]

end Alike

/-- In a generated method the token is the last argument of the one call that sends the request,
and the only argument of the reads of the response where the runtime takes it there. Other tokens
change the method in no other place than its head: its address, its headers, its content, the hooks
that it calls and the values that it gives back stay as they are, and so do the partial methods. -/
theorem tokens_are_passed_on {client other : Client} (same : AlikeButTokens client other) :
    List.Forall₂ (PassesToken client) client.eligibleMethods (clientUnit client).body.methods ∧
      List.Forall₂ DefinedAlike (clientUnit client).body.methods
        (clientUnit other).body.methods ∧
      (clientUnit client).body.partialMethods = (clientUnit other).body.partialMethods := by
  obtain ⟨definitions, stubs⟩ := forall₂_definedAlike same.fields same.methods []
  refine ⟨?_, definitions, ?_⟩
  · exact (forall₂_generated client [] client.methods).imp fun _ _ generated =>
      generated.passesToken
  · exact congrArg₂ List.append same.hooks_eq stubs

/-- A client with one method, which reads a text by a part of the path. -/
def newsClient (parameters : List Parameter) : Client where
  scope := ""
  className := "News"
  imports := []
  methods := [
    { name := "ReadAsync"
      parameters
      role := .ok ⟨.get, "/news/\x7btopic\x7d", ⟨"Task", some (.named "string" [])⟩⟩
      throwsOnFailure := false
      serializer := .newtonsoft
      slowCallThreshold := 50
      contentSuppressed := false }]
  serializer := .newtonsoft
  slowCallThreshold := 0
  targetsModernRuntime := true

/-- The method with a token behind the topic, and with two tokens of other names around it. -/
theorem news_pass_tokens_on :
    let topic : Parameter := ⟨"topic", "string", .route, none, none⟩
    let token (name : String) : Parameter := ⟨name, "CancellationToken", .none, none, none⟩
    let client := newsClient [topic, token "stop"]
    let other := newsClient [token "event", topic, token "late"]
    AlikeButTokens client other ∧
      List.Forall₂ (PassesToken client) client.eligibleMethods (clientUnit client).body.methods ∧
      List.Forall₂ DefinedAlike (clientUnit client).body.methods
        (clientUnit other).body.methods ∧
      (clientUnit client).body.partialMethods = (clientUnit other).body.partialMethods := by
  intro topic token client other
  have same : AlikeButTokens client other :=
    ⟨rfl, .cons ⟨rfl, by decide, by decide⟩ .nil⟩
  exact ⟨same, tokens_are_passed_on same⟩

end TypedClients.Generation
