import TypedClients.Proofs.CSharp.Assignment
import TypedClients.Proofs.Extraction
import TypedClients.Proofs.Generation.DefiniteReturn
import TypedClients.Proofs.Generation.Request

/-!
# The content of requests

A generated method assigns the content of its request when exactly one parameter carries content,
and then once, before it sends the request. What it assigns is made from that parameter: JSON by
the serializer of the method, or a form with a field for each of its properties. A method in which
several parameters carry content is generated with all of them and sends none; it is the one that
is reported.

All other statements are `Silent`, so that one assignment and one sending are all there is to order.
-/

namespace TypedClients.Generation

open CSharp Extraction

/-! ## Content -/

/-- The call by which a serializer turns a value into a text. That of a custom serializer is a
call of a declared stub that takes the type of the value. -/
inductive Serializes (stubs : List Prototype) (type : String) (value : Expr) :
    Serializer → Expr → Prop where
  | newtonsoft : Serializes stubs type value .newtonsoft
      (.callMember (.name "Newtonsoft.Json.JsonConvert") "SerializeObject" [value])
  | systemTextJson : Serializes stubs type value .systemTextJson
      (.callMember (.name "System.Text.Json.JsonSerializer") "Serialize" [value])
  | custom {stub : Prototype} (declared : stub ∈ stubs)
      (takes : stub.signature.params.map Param.type = [type])
      (gives : stub.signature.returnType = "string") :
      Serializes stubs type value .custom (.callName stub.signature.name [value])

/-- How a parameter becomes the content of a request: the statements that prepare the content, and
the content. A parameter is known by its identifier in both forms. -/
inductive MakesContent (stubs : List Prototype) (serializer : Serializer)
    (parameter : Parameter) : List Stmt → Expr → Prop where
  | json {call : Expr} (bound : parameter.binding = .body)
      (serializes : Serializes stubs parameter.typeText
        (.name (escapedIdentifier parameter.name)) serializer call) :
      MakesContent stubs serializer parameter [.declare "json" call]
        (.create "System.Net.Http.StringContent"
          [.name "json", .name "System.Text.Encoding.UTF8", .text "application/json"])
  /-- Each public property of the parameter that can be read without an index and has a value is
  added to a list of fields, by its name and its text in the invariant culture. -/
  | form (bound : parameter.binding = .form) :
      MakesContent stubs serializer parameter
        [.declare "form" (.create ("System.Collections.Generic.List<" ++
            "System.Collections.Generic.KeyValuePair<string, string>" ++ ">") []),
         .whenTrue (.isNotNull (.name (escapedIdentifier parameter.name)))
           [.forEach "property"
             (.callMember (.callMember (.name (escapedIdentifier parameter.name)) "GetType" [])
               "GetProperties"
               [.binary (.name "System.Reflection.BindingFlags.Public") .bitOr
                 (.name "System.Reflection.BindingFlags.Instance")])
             [.whenTrue
               (.binary (.member (.name "property") "CanRead") .and
                 (.binary
                   (.member (.callMember (.name "property") "GetIndexParameters" []) "Length")
                   .equal (.literal (.int 0))))
               [.declare "propertyValue" (.callMember (.name "property") "GetValue"
                  [.name (escapedIdentifier parameter.name)]),
                .whenTrue (.isNotNull (.name "propertyValue"))
                  [.evaluate (.callMember (.name "form") "Add"
                    [.create "System.Collections.Generic.KeyValuePair<string, string>"
                      [.member (.name "property") "Name",
                       .callMember (.name "System.Convert") "ToString"
                         [.name "propertyValue",
                          .name "System.Globalization.CultureInfo.InvariantCulture"]]])]]]]]
        (.create "System.Net.Http.FormUrlEncodedContent" [.name "form"])

/-- How a generated method treats the content of its request. -/
structure HandlesContent (stubs : List Prototype) (method : Method) (definition : MethodDef) :
    Prop where
  /-- The head of the method has all parameters, those that carry content included. -/
  signature : ∃ endpoint, method.endpoint? = some endpoint ∧ definition.signature =
    { returnType := endpoint.returnShape.render
      name := method.name
      params := method.parameters.map fun parameter =>
        ⟨parameter.typeText, escapedIdentifier parameter.name⟩ }
  /-- Without a parameter that carries content, or with several, nothing is assigned. -/
  absent : method.parameters.countP Parameter.IsContent ≠ 1 →
    assignedIn "request" "Content" definition.body = []
  /-- A single one is made into content, which is assigned once, and in every run before the
  request is sent. -/
  single : ∀ parameter, method.parameters.filter Parameter.IsContent = [parameter] →
    ∃ opening content, MakesContent stubs method.serializer parameter opening content ∧
      assignedIn "request" "Content" definition.body = [content] ∧
      ∀ {Value Failure : Type} (env : Environment Value Failure),
        (runBody env none definition.body []).AssignsBefore env [] opening
          (.member (.name "request") "Content") content Sends
  /-- The request is sent when nothing fails. -/
  sent : ∀ {Value Failure : Type} (env : Environment Value Failure), Unfailing env →
    ∃ event ∈ (runBody env none definition.body []).trace, Sends event.expr

/-! ## What does not concern the content -/

/-- An expression that neither sends the request nor is its content. -/
def Silent (expr : Expr) : Prop :=
  ¬ Sends expr ∧ expr ≠ requestContent

/-- To be silent means to be no awaited call that sends the request and not the content of the
request, spelled out. -/
@[simp] theorem silent_iff {expr : Expr} :
    Silent expr ↔ (∀ arguments, expr ≠
        .await (.call (.member (.name "_httpClient") "SendAsync") [] arguments)) ∧
      expr ≠ .member (.name "request") "Content" := by
  simp [Silent, Sends, requestContent, transportField, Expr.callMember]

section Pieces

variable {client : Client} {method : Method} {endpoint : Endpoint} {names : StubNames}
variable {stubs : List Prototype} {expr : Expr}

/-- The statements that add headers do not concern the content. -/
theorem headerBlocks_silent : ∀ expr ∈ expressionsOf (headerBlocks method), Silent expr := by
  refine forall_expressionsOf_headerBlocks ?_
  simp [headerBlock, Expr.callMember]

/-- The value returned on a failure does not concern the content. -/
theorem fallback_silent (kind : ResultKind) : Silent kind.fallback := by
  rcases kind with _ | _ | _ | (_ | element) <;> simp [ResultKind.fallback, emptyArray]

/-- The statement that gives the result concerns the content of the response, not that of the
request. -/
theorem giveResult_silent {type : TypeSyntax}
    (member : expr ∈ (giveResult client method names type).expressions) : Silent expr := by
  have deserialize (serializer : Serializer) (type : String) :
      Silent (deserializeCall serializer names type) := by
    cases serializer <;> simp [deserializeCall, Expr.callName]
  unfold giveResult at member
  generalize ResultKind.ofType type = kind at member
  cases kind with
  | deserialized element =>
    simp only [Stmt.expressions, expressionsOf, List.append_nil, List.cons_append,
      List.nil_append, List.mem_cons, List.not_mem_nil, or_false] at member
    rcases member with rfl | rfl | rfl | rfl
    · simp [hasContent]
    · simp [readContent, Expr.callMember]
    · simp [Expr.callMember]
    · exact deserialize method.serializer _
  | truth =>
    obtain rfl := List.mem_singleton.mp member
    simp
  | text | bytes =>
    obtain rfl := List.mem_singleton.mp member
    simp [readContent, Expr.callMember]

/-- The statements that deal with the response do not concern the content of the request. -/
theorem responseStmts_silent {shape : ReturnShape}
    (member : expr ∈ expressionsOf (responseStmts client method shape names)) : Silent expr := by
  rcases List.mem_append.mp member with checked | given
  · unfold statusCheck at checked
    split at checked
    · simp only [Stmt.expressions, expressionsOf, List.append_nil, List.mem_cons,
        List.not_mem_nil, or_false] at checked
      rcases checked with rfl | rfl
      · simp
      · exact fallback_silent _
    · obtain rfl := List.mem_singleton.mp checked
      simp [Expr.callMember]
  · split at given
    · cases given
    · exact giveResult_silent (by simpa using given)

/-- What a method does before the `try` neither sends the request nor sets its content. -/
theorem startWatch_silent : ∀ expr ∈ urlExpr method endpoint.pathTemplate ::
    expressionsOf (startWatch method), Silent expr := by
  have address : Silent (urlExpr method endpoint.pathTemplate) := by
    unfold urlExpr
    split <;> simp [Expr.text]
  refine List.forall_mem_cons.mpr ⟨address, ?_⟩
  unfold startWatch
  split <;> simp [Expr.callMember]

/-- Neither does what it does about exceptions and about the watch. -/
theorem guard_silent : ∀ expr ∈ expressionsOf (exceptionHandler client method) ++
    cleanupExpressions (slowCallCleanup client method), Silent expr := by
  have handler : ∀ expr ∈ expressionsOf (exceptionHandler client method), Silent expr := by
    unfold exceptionHandler
    split <;> simp [Expr.callName]
  have cleanup : ∀ expr ∈ cleanupExpressions (slowCallCleanup client method), Silent expr := by
    unfold slowCallCleanup
    split <;> simp [slowCallCheck, Expr.callMember, Expr.callName]
  exact List.forall_mem_append.mpr ⟨handler, cleanup⟩

/-- The return at the end does not concern the content. -/
theorem finalReturn_silent {shape : ReturnShape} :
    ∀ expr ∈ expressionsOf (finalReturn method shape), Silent expr := by
  rcases finalReturn_flows method shape with ⟨absent, _⟩ | ⟨type, _, present, _⟩
  · simp [absent]
  · have silent := fallback_silent (ResultKind.ofType type)
    -- Which fallback it is plays no part.
    generalize (ResultKind.ofType type).fallback = value at present silent
    rw [present]
    simpa using silent

/-- Preparing the content neither sends the request nor sets its content. -/
theorem MakesContent.silent {serializer : Serializer} {parameter : Parameter}
    {opening : List Stmt} {content : Expr}
    (makes : MakesContent stubs serializer parameter opening content) :
    (∀ expr ∈ expressionsOf opening, Silent expr) ∧ Silent content := by
  cases makes with
  | json bound serializes =>
    refine ⟨?_, by simp⟩
    cases serializes <;> simp [Expr.callMember, Expr.callName]
  | form bound =>
    simp [Expr.callMember]

/-- Preparing the content assigns it to nothing. -/
theorem MakesContent.unassigned {serializer : Serializer} {parameter : Parameter}
    {opening : List Stmt} {content : Expr}
    (makes : MakesContent stubs serializer parameter opening content) :
    assignedIn "request" "Content" opening = [] := by
  cases makes <;> simp

end Pieces

/-! ## The single assignment -/

section Method

variable {client : Client} {method : Method} {endpoint : Endpoint} {stubs declared : List Prototype}

/-- The statements for the content are those that make it of the parameter that carries it, as a
form or as written text. -/
theorem exists_content {parameter : Parameter}
    (chosen : method.contentParameter? = some parameter)
    (kept : declareStubs declared method endpoint.returnShape ⊆ stubs) :
    ∃ opening content, MakesContent stubs method.serializer parameter opening content ∧
      contentStmts method (stubNames declared method endpoint.returnShape) =
        opening ++ [.assign requestContent content] := by
  rcases (contentParameter_carries chosen).2 with bound | bound
  · have serializes : Serializes stubs parameter.typeText (parameterExpr parameter)
        method.serializer (serializeCall method.serializer
          (stubNames declared method endpoint.returnShape) (parameterExpr parameter)) := by
      cases serializer : method.serializer with
      | newtonsoft => exact .newtonsoft
      | systemTextJson => exact .systemTextJson
      | custom =>
        have asked := serializeRequest_eq_some.mpr ⟨serializer, parameter, chosen, bound, rfl⟩
        obtain ⟨stub, present, met⟩ : ∃ stub ∈ declareStubs declared method endpoint.returnShape,
            StubRequest.MetBy _ ((stubNames declared method endpoint.returnShape).serialize.getD
              "") stub := exists_serializeStub asked
        have call : Serializes stubs parameter.typeText (parameterExpr parameter) .custom
            (.callName stub.signature.name [parameterExpr parameter]) :=
          .custom (kept present) met.takes met.gives
        rwa [met.named] at call
    exact ⟨_, _, .json bound serializes, by simp [contentStmts, chosen, bound, jsonContent]⟩
  · exact ⟨_, _, .form bound, by simp [contentStmts, chosen, bound, formContent, parameterExpr,
      publicProperties, isPlainProperty, addFormField, formFieldType]⟩

/-- A method assigns to the content of its request where it sets the content, and nowhere else: no
other statement of it is such an assignment. -/
theorem assignedIn_methodBody (client : Client) (method : Method) (endpoint : Endpoint)
    (names : StubNames) : assignedIn "request" "Content" (methodBody client method endpoint names) =
      assignedIn "request" "Content" (contentStmts method names) := by
  have headers : assignedIn "request" "Content" (headerBlocks method) = [] := by
    apply assignedIn_eq_nil
    intro stmt member
    obtain ⟨parameter, template, rfl⟩ := mem_headerBlocks member
    simp [headerBlock]
  have check (kind : Option ResultKind) :
      (statusCheck method kind).assigned "request" "Content" = [] := by
    unfold statusCheck
    split <;> simp
  have result (type : TypeSyntax) :
      (giveResult client method names type).assigned "request" "Content" = [] := by
    unfold giveResult
    split <;> simp
  have response : assignedIn "request" "Content"
      (responseStmts client method endpoint.returnShape names) = [] := by
    unfold responseStmts
    split <;> simp [check, result]
  have watch : assignedIn "request" "Content" (startWatch method) = [] := by
    unfold startWatch
    split <;> simp
  have handler : assignedIn "request" "Content" (exceptionHandler client method) = [] := by
    unfold exceptionHandler
    split <;> simp
  have cleanup : cleanupAssigned "request" "Content" (slowCallCleanup client method) = [] := by
    unfold slowCallCleanup
    split <;> simp [slowCallCheck]
  have final : assignedIn "request" "Content" (finalReturn method endpoint.returnShape) = [] := by
    rcases finalReturn_flows method endpoint.returnShape with ⟨absent, _⟩ | ⟨type, _, present, _⟩
    · simp [absent]
    · simp [present]
  simp [methodBody, requestStmt, sendStmt, headers, response, watch, handler, cleanup, final]

/-- The statements before the content are assignments to other members, and header blocks. -/
def requestHead (method : Method) (endpoint : Endpoint) : List Stmt :=
  [.assign (.member (.name "request") "Method")
      (.member (.name "System.Net.Http.HttpMethod") endpoint.verb.member),
    .assign (.member (.name "request") "RequestUri")
      (.create "System.Uri" [.name "url", .name "System.UriKind.RelativeOrAbsolute"])]
    ++ headerBlocks method

/-- The statements that give the request its method, address and headers do not concern the content.
-/
theorem requestHead_silent : ∀ expr ∈ expressionsOf (requestHead method endpoint), Silent expr := by
  rw [requestHead, expressionsOf_append]
  exact List.forall_mem_append.mpr ⟨by simp, headerBlocks_silent⟩

/-- In every run the content is assigned before the request is sent. The run is followed from the
request, where the assignment is, outwards. -/
theorem methodBody_assignsBefore {Value Failure : Type} (env : Environment Value Failure)
    {names : StubNames} {parameter : Parameter} {opening : List Stmt} {content : Expr}
    (makes : MakesContent stubs method.serializer parameter opening content)
    (made : contentStmts method names = opening ++ [.assign requestContent content])
    (history : List (Event Value Failure)) :
    (runBody env none (methodBody client method endpoint names) history).AssignsBefore env history
      opening requestContent content Sends := by
  obtain ⟨openingSilent, contentSilent⟩ := makes.silent
  have sending : ∀ expr ∈ expressionsOf [sendStmt client method endpoint.returnShape names],
      expr ≠ requestContent := by
    intro expr member
    simp only [sendStmt, expressionsOf, Stmt.expressions, List.append_nil,
      List.mem_cons] at member
    rcases member with rfl | response
    · simp [requestContent]
    · exact (responseStmts_silent response).2
  have request (after : List (Event Value Failure)) :
      ((requestStmt client method endpoint names).run env none after).AssignsBefore env after
        opening requestContent content Sends := by
    have split : requestOpening method endpoint names ++
        [sendStmt client method endpoint.returnShape names] = requestHead method endpoint ++
          (opening ++ .assign requestContent content ::
            [sendStmt client method endpoint.returnShape names]) := by
      rw [requestOpening, made]
      simp [requestHead]
    rw [requestStmt_eq, split, Stmt.run]
    refine .evaluate (by simp [Sends, requestContent]) fun _ later => ?_
    refine .append requestHead_silent fun _ => ?_
    exact .assigned openingSilent contentSilent (by simp [Sends, requestContent]) sending
  rw [methodBody, List.append_assoc]
  refine .append startWatch_silent fun later => ?_
  refine .cons (finalReturn_silent) (.guarded guard_silent ?_)
  rw [runBody_singleton]
  exact request later

/-- Where nothing fails the request is sent. So that the content is assigned before is no empty
statement. -/
theorem methodBody_sends {Value Failure : Type} {env : Environment Value Failure}
    (unfailing : Unfailing env) (client : Client) (method : Method) (endpoint : Endpoint)
    (names : StubNames) (history : List (Event Value Failure)) :
    (runBody env none (methodBody client method endpoint names) history).Reaches Sends := by
  have send (after : List (Event Value Failure)) :
      ((sendStmt client method endpoint.returnShape names).run env none after).Reaches Sends := by
    obtain ⟨response, answered⟩ := unfailing.answers after (.await (.callMember
      (.name transportField) "SendAsync" (.name "request" :: cancellationArgument method)))
    rw [sendStmt, Stmt.run]
    simp only [Environment.evaluate, answered]
    exact ⟨_, List.mem_cons_self, _, rfl⟩
  have opening : PlainBody (requestOpening method endpoint names) :=
    .append (.append ⟨rfl, rfl, rfl, rfl, rfl⟩ (plain_headerBlocks method))
      (plain_contentStmts method names)
  have start : PlainBody
      ([.declare "url" (urlExpr method endpoint.pathTemplate)] ++ startWatch method) :=
    .append ⟨rfl, rfl, rfl, rfl, rfl⟩ (plain_startWatch method)
  rw [methodBody, List.append_assoc]
  refine .append unfailing start fun later => .cons _ (.guarded _ _ ?_)
  rw [runBody_singleton, requestStmt_eq, Stmt.run]
  refine .evaluate unfailing fun _ after => .append unfailing opening fun behind => ?_
  rw [runBody_singleton]
  exact send behind

/-- A generated method that comes out of extraction handles its content: with one parameter for it,
with none, and with several. -/
theorem Generated.handlesContent {stubs : List Prototype} {definition : MethodDef}
    (suppressed : method.contentSuppressed = true ↔
      2 ≤ method.parameters.countP Parameter.IsContent)
    (generated : Generated client stubs method definition) :
    HandlesContent (hooks client ++ stubs) method definition := by
  obtain ⟨endpoint, declared, found, kept⟩ := generated
  have assigned := assignedIn_methodBody client method endpoint
    (stubNames declared method endpoint.returnShape)
  have chosen := contentParameter?_iff suppressed
  constructor
  case signature => exact ⟨endpoint, found, rfl⟩
  case absent =>
    intro other
    have none : method.contentParameter? = none := by
      refine Option.eq_none_iff_forall_ne_some.mpr fun parameter given => other ?_
      rw [List.countP_eq_length_filter, (chosen parameter).mp given, List.length_singleton]
    exact assigned.trans (by simp [contentStmts, none])
  case single =>
    intro parameter only
    have kept' : declareStubs declared method endpoint.returnShape ⊆ hooks client ++ stubs :=
      fun stub member => List.mem_append_right _ (kept.subset member)
    obtain ⟨opening, content, makes, made⟩ := exists_content ((chosen parameter).mpr only) kept'
    refine ⟨opening, content, makes, assigned.trans ?_, ?_⟩
    · rw [made, assignedIn_append, makes.unassigned]
      simp [requestContent]
    · intro Value Failure env
      exact methodBody_assignsBefore env makes made []
  case sent =>
    intro Value Failure env unfailing
    exact methodBody_sends unfailing client method endpoint _ []

end Method

/-- Each generated method of a class has all its parameters in its head, and assigns the content
of its request once when a single parameter carries content, and else never. The content is made
from that parameter and assigned before the request is sent. There is one diagnostic for each
generated method in which several parameters carry content, in order and with all of them, and no
other. -/
theorem content_is_handled (declared : ClassDeclaration) (defaults : Defaults) :
    List.Forall₂ (HandlesContent (clientUnit (extractClient declared defaults)).body.partialMethods)
        (extractClient declared defaults).eligibleMethods
        (clientUnit (extractClient declared defaults)).body.methods ∧
      (clientUnit (extractClient declared defaults)).interface.members.map Prototype.signature =
        (clientUnit (extractClient declared defaults)).body.methods.map MethodDef.signature ∧
      diagnostics (extractClient declared defaults) =
        ((extractClient declared defaults).eligibleMethods.filter fun method =>
            2 ≤ method.parameters.countP Parameter.IsContent).map
          (contentDiagnostic declared.name) := by
  refine ⟨?_, ?_, ?_⟩
  · have each := (List.forall₂_and_left _ _).mpr
      ⟨fun _ eligible => eligible,
        forall₂_generated (extractClient declared defaults) [] (extractClient declared
          defaults).methods⟩
    exact each.imp fun method definition ⟨eligible, generated⟩ =>
      generated.handlesContent (contentSuppressed_of_eligible eligible)
  · simp [clientUnit, Function.comp_def]
  · rw [diagnostics_eq, Client.eligibleMethods, List.filter_filter]
    congr 1
    apply List.filter_congr
    intro method member
    obtain ⟨source, _, rfl⟩ := List.mem_map.mp member
    rw [Bool.eq_iff_iff, contentSuppressed_iff]
    simp [and_comm]

end TypedClients.Generation
