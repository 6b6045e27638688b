import TypedClients.Proofs.CSharp.Reference
import TypedClients.Proofs.Generation.Locals

/-!
# References in generated methods

A generated method looks up the names of its parameters, of two namespaces, of the field for the
transport and of partial methods, and it looks up its locals, each only behind its declaration.

A reference is bound when it is known from outside, or when a declaration stands before it in its
scope. The lemmas give what each group of statements needs to be declared around it, which the
statement around provides.
-/

namespace TypedClients.Generation

open CSharp Extraction

section References

variable {client : Client} {method : Method} {shape : ReturnShape} {names : StubNames}
variable {declared : List String} {known : String → Prop}

/-- The names that a method takes from outside: those of its parameters, the two namespaces, the
field for the transport, and the hooks and stubs that it calls. -/
structure Knows (method : Method) (shape : ReturnShape) (names : StubNames)
    (known : String → Prop) : Prop where
  parameter : ∀ parameter ∈ method.parameters,
    ∀ name ∈ pathNames (escapedIdentifier parameter.name), known name
  system : known "System"
  newtonsoft : known "Newtonsoft"
  transport : known transportField
  errorHook : known errorHook
  slowCallHook : 0 < method.slowCallThreshold → known slowCallHook
  serialize : ∀ request, serializeRequest? method = some request →
    ∀ name ∈ pathNames (names.serialize.getD ""), known name
  deserialize : ∀ request, deserializeRequest? method shape = some request →
    ∀ name ∈ pathNames (names.deserialize.getD ""), known name

/-- What is looked up for the paths of the one namespace. -/
@[simp] theorem pathNames_system :
    pathNames "System.Array" = ["System"] ∧
    pathNames "System.Convert" = ["System"] ∧
    pathNames "System.Diagnostics.Stopwatch" = ["System"] ∧
    pathNames "System.Globalization.CultureInfo.InvariantCulture" = ["System"] ∧
    pathNames "System.Net.Http.HttpMethod" = ["System"] ∧
    pathNames "System.Net.HttpStatusCode.OK" = ["System"] ∧
    pathNames "System.Reflection.BindingFlags.Instance" = ["System"] ∧
    pathNames "System.Reflection.BindingFlags.Public" = ["System"] ∧
    pathNames "System.Text.Encoding.UTF8" = ["System"] ∧
    pathNames "System.Text.Json.JsonSerializer" = ["System"] ∧
    pathNames "System.UriKind.RelativeOrAbsolute" = ["System"] := by
  decide +kernel

/-- A local, the field and the hooks stand for themselves. -/
@[simp] theorem pathNames_simple :
    pathNames "url" = ["url"] ∧
    pathNames "e" = ["e"] ∧
    pathNames "request" = ["request"] ∧
    pathNames "response" = ["response"] ∧
    pathNames "stopwatch" = ["stopwatch"] ∧
    pathNames "header" = ["header"] ∧
    pathNames "headerText" = ["headerText"] ∧
    pathNames "json" = ["json"] ∧
    pathNames "form" = ["form"] ∧
    pathNames "property" = ["property"] ∧
    pathNames "propertyValue" = ["propertyValue"] ∧
    pathNames "content" = ["content"] ∧
    pathNames transportField = [transportField] ∧
    pathNames errorHook = [errorHook] ∧
    pathNames slowCallHook = [slowCallHook] := by
  decide +kernel

/-- The serializer is referred to by the first name of its path. -/
@[simp] theorem pathNames_newtonsoft :
    pathNames "Newtonsoft.Json.JsonConvert" = ["Newtonsoft"] := by
  decide +kernel

/-- The keyword in front of a dot is no name, nor is it alone. -/
@[simp] theorem pathNames_keyword : pathNames "string" = [] ∧ pathNames "string.Empty" = [] := by
  decide +kernel

/-- The statements that add headers refer to the request, to the locals of their blocks and to
parameters. -/
theorem headerBlocks_bound (scope : List String) (knows : Knows method shape names known)
    (request : "request" ∈ declared) :
    ∀ reference ∈ referencesIn scope declared (headerBlocks method), reference.Bound known := by
  have localless : ∀ stmt ∈ headerBlocks method, blockLocals [stmt] = [] := by
    intro stmt member
    obtain ⟨parameter, template, rfl⟩ := mem_headerBlocks member
    rfl
  intro reference member
  obtain ⟨stmt, header, inside⟩ := (mem_referencesIn localless).mp member
  obtain ⟨parameter, among, made⟩ := List.mem_filterMap.mp header
  obtain ⟨template, _, rfl⟩ := Option.map_eq_some_iff.mp made
  have own := knows.parameter parameter among
  have block : ∀ reference ∈ (headerBlock parameter template).references scope declared,
      reference.Bound known := by
    simp +contextual [headerBlock, headerPair, headerValue, InterpolationPart.names,
      Reference.Bound, request, or_imp, forall_and, own]
  exact block reference inside

/-- The statements that make the content refer to the request, to their locals, to the parameter
with the content and to what writes it. -/
theorem contentStmts_bound (scope : List String) (knows : Knows method shape names known)
    (request : "request" ∈ declared) :
    ∀ reference ∈ referencesIn scope declared (contentStmts method names),
      reference.Bound known := by
  cases chosen : method.contentParameter? with
  | none => simp [contentStmts, chosen]
  | some parameter =>
    obtain ⟨among, carries⟩ := contentParameter_carries chosen
    have own := knows.parameter parameter among
    rcases carries with bound | bound
    · have serializes : ∀ name ∈ (serializeCall method.serializer names
          (parameterExpr parameter)).names, known name := by
        cases serializer : method.serializer with
        | newtonsoft => simpa [serializeCall, parameterExpr, knows.newtonsoft] using own
        | systemTextJson => simpa [serializeCall, parameterExpr, knows.system] using own
        | custom =>
          have asked := serializeRequest_eq_some.mpr ⟨serializer, parameter, chosen, bound, rfl⟩
          have stub := knows.serialize _ asked
          simpa [serializeCall, parameterExpr, or_imp, forall_and] using ⟨stub, own⟩
      simp +contextual [contentStmts, chosen, bound, jsonContent, requestContent, Reference.Bound,
        request, knows.system, or_imp, forall_and, serializes]
    · simp +contextual [contentStmts, chosen, bound, formContent, addFormField, publicProperties,
        isPlainProperty, requestContent, parameterExpr, Reference.Bound, request, knows.system,
        or_imp, forall_and, own]

/-- The value returned on a failure refers to nothing but a namespace. -/
theorem fallback_names (kind : ResultKind) : ∀ name ∈ kind.fallback.names, name = "System" := by
  rcases kind with _ | _ | _ | (_ | element) <;> simp [ResultKind.fallback, emptyArray]

/-- The token goes by the name of its parameter. -/
theorem cancellationArgument_known (knows : Knows method shape names known) :
    ∀ name ∈ namesOfAll (cancellationArgument method), known name := by
  cases chosen : method.cancellationParameter? with
  | none => simp [cancellationArgument, chosen]
  | some parameter =>
    have own := knows.parameter parameter (List.mem_of_find?_eq_some chosen)
    simpa [cancellationArgument, chosen, parameterExpr] using own

/-- A read of the content mentions the response and the token at most. -/
theorem readContent_known (client : Client) (knows : Knows method shape names known)
    (reader : String) :
    ∀ name ∈ (readContent client method reader).names, name = "response" ∨ known name := by
  have token : ∀ name ∈ namesOfAll (readArguments client method), known name := by
    unfold readArguments
    split
    · exact cancellationArgument_known knows
    · simp
  simp +contextual [readContent, or_imp, token]

/-- The statement that gives the result refers to the response, to the content it has read and to
what reads a value from it. -/
theorem giveResult_bound (client : Client) (scope : List String)
    (knows : Knows method shape names known) {type : TypeSyntax}
    (typed : shape.value = some type) (response : "response" ∈ declared) :
    ∀ reference ∈ (giveResult client method names type).references scope declared,
      reference.Bound known := by
  have read (reader : String) := readContent_known client knows reader
  unfold giveResult
  cases kind : ResultKind.ofType type with
  | truth => simp
  | text | bytes =>
    intro reference member
    obtain ⟨name, looked, rfl⟩ := List.mem_map.mp member
    rcases read _ name looked with rfl | outside
    · exact Or.inl response
    · exact Or.inr outside
  | deserialized element =>
    have deserializes : ∀ name ∈ (deserializeCall method.serializer names type.render).names,
        name = "content" ∨ known name := by
      cases serializer : method.serializer with
      | newtonsoft => simp [deserializeCall, knows.newtonsoft]
      | systemTextJson => simp [deserializeCall, knows.system]
      | custom =>
        have asked := deserializeRequest_eq_some.mpr
          ⟨serializer, type, typed, by rw [kind]; rfl, rfl⟩
        have stub := knows.deserialize _ asked
        simp +contextual [deserializeCall, or_imp, stub]
    have readBound : ∀ name ∈ (readContent client method "ReadAsStringAsync").names,
        name ∈ declared ∨ known name := by
      intro name looked
      rcases read _ name looked with rfl | outside
      · exact Or.inl response
      · exact Or.inr outside
    have resultBound : ∀ name ∈ (deserializeCall method.serializer names type.render).names,
        (name ∈ declared ∨ name = "content") ∨ known name :=
      fun name looked => (deserializes name looked).imp_left Or.inr
    simpa [hasContent, Reference.Bound, response, knows.system, or_imp, forall_and]
      using ⟨readBound, resultBound⟩

/-- All that the statements dealing with the response refer to is known or declared where it is
used. -/
theorem responseStmts_bound (client : Client) (scope : List String)
    (knows : Knows method shape names known) (response : "response" ∈ declared) :
    ∀ reference ∈ referencesIn scope declared (responseStmts client method shape names),
      reference.Bound known := by
  have check (kind : Option ResultKind) :
      ∀ reference ∈ (statusCheck method kind).references scope declared,
        reference.Bound known := by
    unfold statusCheck
    split
    · rename_i expected _
      have fallback : ∀ name ∈ expected.fallback.names, known name :=
        fun name looked => fallback_names expected name looked ▸ knows.system
      simp +contextual [Reference.Bound, response, or_imp, forall_and, fallback]
    · simp [Reference.Bound, response]
  cases typed : shape.value with
  | none => simpa [responseStmts, typed] using check _
  | some type =>
    have result := giveResult_bound client scope knows typed response
    rw [responseStmts, typed, referencesIn, blockLocals_statusCheck, List.append_nil]
    simpa [or_imp, forall_and] using And.intro (check (resultKind? shape)) result

/-- All that is referred to around the request is known or declared where it is used. Address and
response are declared by the statements around. -/
theorem requestStmt_bound (client : Client) {endpoint : Endpoint} (scope : List String)
    (knows : Knows method endpoint.returnShape names known) (url : "url" ∈ declared) :
    ∀ reference ∈ (requestStmt client method endpoint names).references scope declared,
      reference.Bound known := by
  have token := cancellationArgument_known knows
  have opened : "request" ∈ "request" :: declared := List.mem_cons_self
  have received : "response" ∈
      "response" :: "request" :: (declared ++ blockLocals (contentStmts method names)) :=
    List.mem_cons_self
  have headers := headerBlocks_bound
    (blockLocals (contentStmts method names) ++ "request" :: scope) knows opened
  have content := contentStmts_bound
    (blockLocals (contentStmts method names) ++ "request" :: scope) knows opened
  have response := responseStmts_bound client
    ("response" :: (blockLocals (contentStmts method names) ++ "request" :: scope)) knows received
  have parts := And.intro headers (And.intro content response)
  simpa +contextual [requestStmt, sendStmt, Reference.Bound, url, knows.system, knows.transport,
    token, or_imp, forall_and] using parts

/-- The holes of the query string are those of its parameters. -/
theorem hole_of_queryParts {mark name : String} {parameters : List Parameter}
    {format : Option String} (member : .hole name format ∈ queryParts mark parameters) :
    ∃ parameter ∈ parameters, name = escapedIdentifier parameter.name := by
  induction parameters generalizing mark with
  | nil => cases member
  | cons parameter others inductionHypothesis =>
    simp only [queryParts, List.mem_cons, reduceCtorEq, false_or,
      InterpolationPart.hole.injEq] at member
    rcases member with ⟨same, _⟩ | later
    · exact ⟨parameter, List.mem_cons_self, same⟩
    · obtain ⟨other, among, same⟩ := inductionHypothesis later
      exact ⟨other, List.mem_cons_of_mem _ among, same⟩

/-- The holes of an address are those of parameters, in its path as in its query string. -/
theorem hole_of_urlParts {path name : String} {format : Option String}
    (member : .hole name format ∈ urlParts method path) :
    ∃ parameter ∈ method.parameters, name = escapedIdentifier parameter.name := by
  rcases List.mem_append.mp member with inPath | inQuery
  · obtain ⟨segment, _, made⟩ := List.mem_map.mp inPath
    cases segment with
    | literal text => cases made
    | placeholder inner =>
      rw [segmentPart] at made
      split at made
      · rename_i listed
        have routed : PathTemplate.placeholderName inner ∈ method.routeNames := by
          simpa using listed
        obtain ⟨parameter, selected, same⟩ := List.mem_map.mp routed
        obtain ⟨rfl, _⟩ := InterpolationPart.hole.inj made
        exact ⟨parameter, (List.mem_filter.mp selected).1, by rw [same]⟩
      · cases made
  · obtain ⟨parameter, selected, same⟩ := hole_of_queryParts inQuery
    exact ⟨parameter, (List.mem_filter.mp selected).1, same⟩

/-- The address of a method mentions parameters alone. -/
theorem urlExpr_known (knows : Knows method shape names known) (path : String) :
    ∀ name ∈ (urlExpr method path).names, known name := by
  unfold urlExpr
  split
  · simp
  · intro name looked
    obtain ⟨part, member, inPart⟩ := List.mem_flatMap.mp looked
    cases part with
    | text value => cases inPart
    | hole identifier format =>
      obtain ⟨parameter, declared, rfl⟩ := hole_of_urlParts member
      exact knows.parameter parameter declared name inPart

/-- Every name in a method is that of a local declared before, or is known outside. -/
theorem methodBody_references {endpoint : Endpoint} {scope : List String}
    (knows : Knows method endpoint.returnShape names known) :
    ∀ reference ∈ referencesIn scope [] (methodBody client method endpoint names),
      reference.Bound known := by
  have address := urlExpr_known knows endpoint.pathTemplate
  have requestless : blockLocals [requestStmt client method endpoint names] = [] := rfl
  have request (scope declared : List String) (url : "url" ∈ declared) :=
    requestStmt_bound client scope knows url
  have handler (scope declared : List String) (url : "url" ∈ declared) :
      ∀ reference ∈ referencesIn scope ("e" :: declared) (exceptionHandler client method),
        reference.Bound known := by
    unfold exceptionHandler
    split <;> simp +contextual [Reference.Bound, reportedName, knows.errorHook, url, or_imp]
  have final (scope declared : List String) :
      ∀ reference ∈ referencesIn scope declared (finalReturn method endpoint.returnShape),
        reference.Bound known := by
    unfold finalReturn
    split
    · simp
    · rename_i kind _
      have fallback : ∀ name ∈ kind.fallback.names, known name :=
        fun name looked => fallback_names kind name looked ▸ knows.system
      split <;> simp +contextual [Reference.Bound, fallback]
  have parts (tried handled declared : List String) (url : "url" ∈ declared) :=
    And.intro (request tried declared url)
      (And.intro (handler handled declared url) (final scope declared))
  -- With a threshold the watch is declared as well.
  by_cases timed : 0 < method.slowCallThreshold
  · have others := parts scope (blockLocals (exceptionHandler client method) ++ "e" :: scope)
      ["url", "stopwatch"] (by simp)
    simpa +contextual [methodBody, startWatch, slowCallCleanup, slowCallCheck, timed, requestless,
      reportedName, elapsed, Reference.Bound, address, knows.system,
      knows.slowCallHook timed, or_imp, forall_and] using others
  · have others := parts scope (blockLocals (exceptionHandler client method) ++ "e" :: scope)
      ["url"] (by simp)
    simpa +contextual [methodBody, startWatch, slowCallCleanup, timed, requestless,
      Reference.Bound, address, or_imp, forall_and] using others

end References

end TypedClients.Generation
