import TypedClients.Proofs.Generation.Interpolation
import TypedClients.Proofs.Generation.References
import TypedClients.Proofs.Generation.RequestContent

/-!
# What becomes of parameters

A parameter of a generated method is used in the part of the request to which it is bound: in the
address, in a header, in the content, or as the token that is handed on with the request. When
several parameters carry content none of them does, and all of them are reported. Several tokens
are not reported: the first one is handed on, and a further one is used nowhere.

Each way of being used is stated about the statements themselves: the hole, the block, the
assignment or the argument in which the parameter is named.
-/

namespace TypedClients.Generation

open CSharp Extraction

/-- The statements of the request of a method. -/
def RequestBlock (body block : List Stmt) : Prop :=
  ∃ created handler cleanup,
    .guarded [.withResource "request" created block] handler cleanup ∈ body

/-- A parameter is used in the body of a method, by its identifier and as its binding asks for. -/
inductive UsedAsBound (stubs : List Prototype) (serializer : Serializer) (body : List Stmt)
    (parameter : Parameter) : Prop where
  /-- The address has a hole for it. -/
  | address {parts : List InterpolationPart} {format : Option String}
      (bound : parameter.binding = .route ∧ format = none ∨
        parameter.binding = .query ∧ format = parameter.formatSpecifier)
      (declared : .declare "url" (.interpolated parts) ∈ body)
      (hole : .hole (escapedIdentifier parameter.name) format ∈ parts)
  /-- A block of the request splits a header with its value. -/
  | header {template name : String} {block rest : List Stmt} {arguments : List Expr}
      (bound : parameter.binding = .header template) (request : RequestBlock body block)
      (split : .block (.declare "header" (.callMember (.interpolated [.text name,
        .hole (escapedIdentifier parameter.name) parameter.formatSpecifier]) "Split" arguments)
          :: rest) ∈ block)
  /-- The request is given a content that is made from it. -/
  | content {block opening : List Stmt} {content : Expr} (request : RequestBlock body block)
      (makes : MakesContent stubs serializer parameter opening content)
      (assigned : opening ++ [.assign requestContent content] <:+: block)
  /-- The request is sent with it. -/
  | token {block handling : List Stmt} {arguments : List Expr} (bound : parameter.binding = .none)
      (request : RequestBlock body block)
      (sent : .withResource "response" (.await (.callMember (.name transportField) "SendAsync"
        (.name "request" :: arguments))) handling ∈ block)
      (handed : .name (escapedIdentifier parameter.name) ∈ arguments)

/-- A diagnostic of a client is about a method and names a parameter. -/
def NamedInDiagnostic (client : Client) (method : Method) (parameter : Parameter) : Prop :=
  ∃ names, ⟨client.className, method.name, .multipleContentParameters names⟩ ∈
    diagnostics client ∧ parameter.name ∈ names

/-- What becomes of the parameters of a generated method. -/
structure AccountsFor (client : Client) (stubs : List Prototype) (method : Method)
    (definition : MethodDef) : Prop where
  /-- A parameter that is not a token is used or reported. -/
  part : ∀ parameter ∈ method.parameters, parameter.binding ≠ .none →
    UsedAsBound stubs method.serializer definition.body parameter ∨
      NamedInDiagnostic client method parameter
  /-- A token is used exactly when it has the name of the first one. -/
  token : ∀ parameter ∈ method.parameters, parameter.binding = .none →
    (UsedAsBound stubs method.serializer definition.body parameter ↔
      method.cancellationParameter?.map Parameter.name = some parameter.name)

/-! ## The address -/

/-- A name among the placeholders of a path is that of a segment. -/
theorem exists_placeholder {path name : String} (placed : name ∈ PathTemplate.placeholders path) :
    ∃ inner, .placeholder inner ∈ PathTemplate.segments path ∧
      PathTemplate.placeholderName inner = name := by
  obtain ⟨segment, member, named⟩ := List.mem_filterMap.mp placed
  cases segment with
  | literal text => cases named
  | placeholder inner => exact ⟨inner, member, Option.some.inj named⟩

/-- A placeholder of the name of a route parameter becomes a hole. -/
theorem hole_of_route {method : Method} {path : String} {parameter : Parameter}
    (among : parameter ∈ method.parameters) (bound : parameter.binding = .route)
    (placed : parameter.name ∈ PathTemplate.placeholders path) :
    .hole (escapedIdentifier parameter.name) none ∈ urlParts method path := by
  obtain ⟨inner, member, named⟩ := exists_placeholder placed
  have listed : parameter.name ∈ method.routeNames :=
    List.mem_map_of_mem (List.mem_filter.mpr ⟨among, by simpa using bound⟩)
  refine List.mem_append_left _ (List.mem_map.mpr ⟨_, member, ?_⟩)
  simp [segmentPart, named, listed]

/-- A query parameter becomes a hole, with its format, behind the key that it has in the query
string. -/
theorem hole_of_query {parameter : Parameter} {parameters : List Parameter} {mark : String}
    (among : parameter ∈ parameters) :
    .hole (escapedIdentifier parameter.name) parameter.formatSpecifier ∈
      queryParts mark parameters := by
  induction parameters generalizing mark with
  | nil => cases among
  | cons first others inductionHypothesis =>
    rw [queryParts]
    rcases List.mem_cons.mp among with rfl | later
    · exact List.mem_cons_of_mem _ List.mem_cons_self
    · exact List.mem_cons_of_mem _ (List.mem_cons_of_mem _ (inductionHypothesis later))

section Method

variable {client : Client} {method : Method} {endpoint : Endpoint} {names : StubNames}
variable {stubs : List Prototype} {parameter : Parameter}

/-- A method with a parameter declares its address as an interpolated string. -/
theorem address_declared (among : parameter ∈ method.parameters) :
    .declare "url" (.interpolated (urlParts method endpoint.pathTemplate)) ∈
      methodBody client method endpoint names := by
  have given : method.parameters ≠ [] := List.ne_nil_of_mem among
  simp [methodBody, urlExpr, given]

/-! ## The request -/

/-- The request of a method is what comes before it is sent, and the statement that sends it, so
that each use of a parameter is found in one of the two. -/
theorem requestBlock_iff {block : List Stmt} :
    RequestBlock (methodBody client method endpoint names) block ↔
      block = requestOpening method endpoint names ++
        [sendStmt client method endpoint.returnShape names] := by
  have watch (stmt : Stmt) (member : stmt ∈ startWatch method) : ∃ init,
      stmt = .declare "stopwatch" init := by
    unfold startWatch at member
    split at member
    · exact ⟨_, List.mem_singleton.mp member⟩
    · cases member
  have final (stmt : Stmt) (member : stmt ∈ finalReturn method endpoint.returnShape) :
      stmt = .blank ∨ ∃ value, stmt = .giveBack value := by
    unfold finalReturn at member
    split at member
    · cases member
    · split at member
      · simp only [List.mem_cons, List.not_mem_nil, or_false] at member
        exact member.imp_right fun same => ⟨_, same⟩
      · cases member
  constructor
  · rintro ⟨created, handler, cleanup, member⟩
    simp only [methodBody, requestStmt_eq, List.mem_append, List.mem_cons, List.not_mem_nil,
      or_false, reduceCtorEq, false_or] at member
    rcases member with (started | same) | ended
    · obtain ⟨_, impossible⟩ := watch _ started
      cases impossible
    · simp only [Stmt.guarded.injEq, List.cons.injEq, Stmt.withResource.injEq] at same
      exact same.1.1.2.2
    · rcases final _ ended with impossible | ⟨_, impossible⟩ <;> cases impossible
  · rintro rfl
    have placed : .guarded [requestStmt client method endpoint names]
        (some ⟨"System.Exception", "e", exceptionHandler client method⟩)
        (slowCallCleanup client method) ∈ methodBody client method endpoint names := by
      simp [methodBody]
    exact ⟨_, _, _, placed⟩

/-- A header parameter has its block in the request. -/
theorem UsedAsBound.of_header {template : String} (among : parameter ∈ method.parameters)
    (bound : parameter.binding = .header template) :
    UsedAsBound stubs method.serializer (methodBody client method endpoint names) parameter := by
  have sent : headerBlock parameter template ∈ headerBlocks method :=
    List.mem_filterMap.mpr ⟨parameter, among, by simp [bound, Binding.headerTemplate?]⟩
  have placed : headerBlock parameter template ∈ requestOpening method endpoint names ++
      [sendStmt client method endpoint.returnShape names] := by
    simp [requestOpening, sent]
  exact .header bound (requestBlock_iff.mpr rfl) placed

/-- The single parameter that carries content is made into the content. -/
theorem UsedAsBound.of_content {declared : List Prototype}
    (chosen : method.contentParameter? = some parameter)
    (kept : declareStubs declared method endpoint.returnShape ⊆ stubs) :
    UsedAsBound stubs method.serializer (methodBody client method endpoint
      (stubNames declared method endpoint.returnShape)) parameter := by
  obtain ⟨opening, content, makes, made⟩ := exists_content chosen kept
  refine .content (requestBlock_iff.mpr rfl) makes ?_
  rw [← made]
  exact ⟨_, _, rfl⟩

/-- The statement that sends the request is the only one with a response, which is how it is told
apart from the statements before it. -/
theorem sent_iff {init : Expr} {handling : List Stmt} :
    .withResource "response" init handling ∈ requestOpening method endpoint names ++
        [sendStmt client method endpoint.returnShape names] ↔
      .withResource "response" init handling =
        sendStmt client method endpoint.returnShape names := by
  have content : ∀ stmt ∈ contentStmts method names,
      stmt ≠ .withResource "response" init handling := by
    unfold contentStmts
    split
    · simp
    · split <;> simp [formContent, jsonContent]
  have before : .withResource "response" init handling ∉ requestOpening method endpoint names := by
    intro member
    simp only [requestOpening, List.mem_append, List.mem_cons, List.not_mem_nil, or_false,
      reduceCtorEq, false_or] at member
    rcases member with header | inContent
    · obtain ⟨_, _, impossible⟩ := mem_headerBlocks header
      cases impossible
    · exact content _ inContent rfl
  simp [before]

/-- A token is used exactly when it has the name of the one that is handed on. Two tokens of one
name cannot be told apart by what is generated. -/
theorem usedAsBound_token_iff (bound : parameter.binding = .none)
    (plain : ∀ other ∈ method.parameters, other.name.toList.head? ≠ some '@')
    (among : parameter ∈ method.parameters) :
    UsedAsBound stubs method.serializer (methodBody client method endpoint names) parameter ↔
      method.cancellationParameter?.map Parameter.name = some parameter.name := by
  constructor
  · intro used
    cases used with
    | address carried _ _ => simp [bound] at carried
    | header carried _ _ => simp [bound] at carried
    | content _ makes _ => cases makes <;> simp_all
    | token _ request sent handed =>
      rw [requestBlock_iff.mp request, sent_iff, sendStmt] at sent
      simp only [Stmt.withResource.injEq, Expr.await.injEq, Expr.callMember, Expr.call.injEq,
        List.cons.injEq, true_and] at sent
      rw [sent.1] at handed
      cases chosen : method.cancellationParameter? with
      | none => simp [cancellationArgument, chosen] at handed
      | some first =>
        have same : escapedIdentifier parameter.name = escapedIdentifier first.name := by
          simpa [cancellationArgument, chosen, parameterExpr] using handed
        have declared := List.mem_of_find?_eq_some chosen
        have names := congrArg denotedName same
        rw [denotedName_escapedIdentifier _ (plain parameter among),
          denotedName_escapedIdentifier _ (plain first declared)] at names
        simp [names]
  · intro named
    obtain ⟨first, chosen, same⟩ := Option.map_eq_some_iff.mp named
    refine .token bound (requestBlock_iff.mpr rfl) (sent_iff.mpr rfl) ?_
    simp [cancellationArgument, chosen, parameterExpr, same]

/-! ## Generated methods -/

/-- A parameter that is not a token is used, unless it is one of several that carry content. A route
parameter is one that has a placeholder. -/
theorem used_or_suppressed {declared : List Prototype} (found : method.endpoint? = some endpoint)
    (route : parameter.binding = .route → ∃ target, method.endpoint? = some target ∧
      parameter.name ∈ PathTemplate.placeholders target.pathTemplate)
    (suppressed : method.contentSuppressed = true ↔
      2 ≤ method.parameters.countP Parameter.IsContent)
    (kept : declareStubs declared method endpoint.returnShape ⊆ stubs)
    (among : parameter ∈ method.parameters) (part : parameter.binding ≠ .none) :
    UsedAsBound stubs method.serializer (methodBody client method endpoint
        (stubNames declared method endpoint.returnShape)) parameter ∨
      parameter.IsContent ∧ method.contentSuppressed = true := by
  have content (carries : parameter.IsContent) : UsedAsBound stubs method.serializer
      (methodBody client method endpoint (stubNames declared method endpoint.returnShape))
        parameter ∨ parameter.IsContent ∧ method.contentSuppressed = true := by
    by_cases rejected : method.contentSuppressed = true
    · exact Or.inr ⟨carries, rejected⟩
    · rw [suppressed, List.countP_eq_length_filter] at rejected
      have listed : parameter ∈ method.parameters.filter Parameter.IsContent :=
        List.mem_filter.mpr ⟨among, by simpa using carries⟩
      obtain ⟨only, single⟩ := List.length_eq_one_iff.mp
        (Nat.le_antisymm (by omega) (List.length_pos_of_mem listed))
      rw [single, List.mem_singleton] at listed
      subst listed
      exact Or.inl (.of_content ((contentParameter?_iff suppressed parameter).mpr single) kept)
  cases bound : parameter.binding with
  | none => exact absurd bound part
  | route =>
    obtain ⟨target, same, placed⟩ := route bound
    obtain rfl := Option.some.inj (found.symm.trans same)
    have hole := hole_of_route among bound placed
    exact Or.inl (.address (Or.inl ⟨bound, rfl⟩) (address_declared among) hole)
  | query =>
    have listed : parameter ∈ method.queryParameters :=
      List.mem_filter.mpr ⟨among, by simpa using bound⟩
    have hole : .hole (escapedIdentifier parameter.name) parameter.formatSpecifier ∈
        urlParts method endpoint.pathTemplate :=
      List.mem_append_right _ (hole_of_query listed)
    exact Or.inl (.address (Or.inr ⟨bound, rfl⟩) (address_declared among) hole)
  | header template => exact Or.inl (.of_header among bound)
  | body => exact content (Or.inl bound)
  | form => exact content (Or.inr bound)

end Method

/-- Each parameter of a method that is generated for a class is used in its part of the request,
or a diagnostic names it, except for tokens: one that does not have the name of the first is used
nowhere. -/
theorem parameters_accounted_for (declared : ClassDeclaration) (defaults : Defaults) :
    List.Forall₂ (AccountsFor (extractClient declared defaults)
        (clientUnit (extractClient declared defaults)).body.partialMethods)
      (extractClient declared defaults).eligibleMethods
      (clientUnit (extractClient declared defaults)).body.methods := by
  have each := (List.forall₂_and_left _ _).mpr ⟨fun _ eligible => eligible,
    forall₂_generated (extractClient declared defaults) []
      (extractClient declared defaults).methods⟩
  refine each.imp ?_
  rintro method definition ⟨eligible, endpoint, stubs, found, kept⟩
  have member := List.mem_of_mem_filter eligible
  have suppressed := contentSuppressed_of_eligible eligible
  constructor
  case part =>
    intro parameter among part
    obtain ⟨_, described⟩ := exists_described member among
    have kept' : declareStubs stubs method endpoint.returnShape ⊆
        (clientUnit (extractClient declared defaults)).body.partialMethods :=
      fun stub inside => List.mem_append_right _ (kept.subset inside)
    refine (used_or_suppressed found described.route.mp suppressed kept' among part).imp_right ?_
    rintro ⟨carries, rejected⟩
    have reported : contentDiagnostic declared.name method ∈
        diagnostics (extractClient declared defaults) := by
      rw [diagnostics_eq]
      exact List.mem_map_of_mem (List.mem_filter.mpr ⟨member, rejected⟩)
    refine ⟨_, reported, List.mem_map_of_mem (List.mem_filter.mpr ⟨among, ?_⟩)⟩
    simpa using carries
  case token =>
    intro parameter among bound
    refine usedAsBound_token_iff bound (fun other declares => ?_) among
    obtain ⟨_, described⟩ := exists_described member declares
    obtain ⟨_, _, _, plain⟩ := described.name
    exact plain

/-- A class with a method that takes two tokens. -/
def journeys : ClassDeclaration :=
  singleMethodClass "/list"
    [⟨"shutdown", "CancellationToken", []⟩, ⟨"timeout", "CancellationToken", []⟩]

/-- The second token of the method is mentioned nowhere in its body, and no diagnostic tells. -/
theorem journeys_drop_timeout :
    diagnostics (extractClient journeys .standard) = [] ∧
      ∃ definition ∈ (clientUnit (extractClient journeys .standard)).body.methods,
        "timeout" ∈ definition.parameterNames ∧
          ∀ mention ∈ definition.mentions, mention.name ≠ "timeout" := by
  decide +kernel

end TypedClients.Generation
