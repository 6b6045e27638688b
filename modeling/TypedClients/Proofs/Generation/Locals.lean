import TypedClients.Proofs.CSharp.Scope
import TypedClients.Proofs.Extraction
import TypedClients.Proofs.Generation.Calls

/-!
# Locals of generated methods

A generated method declares locals with fixed names, and which of them depends on what the method
sends and gives back. No two of them are in each other's way.

The locals of a group of statements are characterised one group at a time, by the binding of a
parameter or the kind of the value that makes the group declare them. That no name is declared twice
is then a matter of which groups stand inside of which.
-/

namespace TypedClients.Generation

open CSharp Extraction

/-- A name that a generated method takes for itself: that of the field for the transport, or that
of a local. -/
inductive Takes (method : Method) (shape : ReturnShape) : String → Prop where
  | transport : Takes method shape transportField
  | url : Takes method shape "url"
  | exception : Takes method shape "e"
  | request : Takes method shape "request"
  | response : Takes method shape "response"
  | stopwatch (timed : 0 < method.slowCallThreshold) : Takes method shape "stopwatch"
  | header {parameter : Parameter} {template name : String}
      (declared : parameter ∈ method.parameters) (bound : parameter.binding = .header template)
      (named : name = "header" ∨ name = "headerText") : Takes method shape name
  | json {parameter : Parameter}
      (single : method.parameters.filter Parameter.IsContent = [parameter])
      (bound : parameter.binding = .body) : Takes method shape "json"
  | form {parameter : Parameter} {name : String}
      (single : method.parameters.filter Parameter.IsContent = [parameter])
      (bound : parameter.binding = .form)
      (named : name ∈ ["form", "property", "propertyValue"]) : Takes method shape name
  | content {type : TypeSyntax} (typed : shape.value = some type)
      (read : (ResultKind.ofType type).mayGiveNothing = true) : Takes method shape "content"

section Locals

variable {client : Client} {method : Method} {shape : ReturnShape} {names : StubNames}
variable {name : String}

/-- The locals of the statements that add headers are the header and its text, in every block anew,
where there is a header at all. -/
theorem mem_localsOf_headerBlocks :
    name ∈ localsOf (headerBlocks method) ↔
      (∃ parameter ∈ method.parameters, ∃ template, parameter.binding = .header template) ∧
        (name = "header" ∨ name = "headerText") := by
  have headed (parameter : Parameter) (template : String) :
      parameter.binding.headerTemplate? = some template ↔
        parameter.binding = .header template := by
    cases parameter.binding <;> simp [Binding.headerTemplate?]
  simp [mem_localsOf, headerBlocks, headed, headerBlock]

/-- The locals of the statements that make the content are the written text, or the form with a
field and its value. -/
theorem mem_localsOf_contentStmts :
    name ∈ localsOf (contentStmts method names) ↔
      ∃ parameter, method.contentParameter? = some parameter ∧
        (parameter.binding = .body ∧ name = "json" ∨
          parameter.binding = .form ∧ name ∈ ["form", "property", "propertyValue"]) := by
  cases chosen : method.contentParameter? with
  | none => simp [contentStmts, chosen]
  | some parameter =>
    rcases (contentParameter_carries chosen).2 with bound | bound
    · simp [contentStmts, chosen, bound, jsonContent]
    · simp [contentStmts, chosen, bound, formContent, addFormField]

/-- The one local of the statements that deal with the response is its content, where the content
may give nothing and has to be looked at twice. -/
theorem mem_localsOf_responseStmts :
    name ∈ localsOf (responseStmts client method shape names) ↔
      name = "content" ∧ ∃ type, shape.value = some type ∧
        (ResultKind.ofType type).mayGiveNothing = true := by
  have check (kind : Option ResultKind) : (statusCheck method kind).locals = [] := by
    unfold statusCheck
    split <;> simp
  have result (type : TypeSyntax) : name ∈ (giveResult client method names type).locals ↔
      name = "content" ∧ (ResultKind.ofType type).mayGiveNothing = true := by
    unfold giveResult
    generalize ResultKind.ofType type = kind
    cases kind <;> simp [ResultKind.mayGiveNothing]
  cases typed : shape.value with
  | none => simp [responseStmts, typed, check]
  | some type => simp [responseStmts, typed, check, result]

/-- The one local at the start of a method is the watch, where there is one. -/
theorem localsOf_startWatch :
    localsOf (startWatch method) = if 0 < method.slowCallThreshold then ["stopwatch"] else [] := by
  unfold startWatch
  split <;> simp

/-- The locals of a method are that of the address, the watch, those of the request, and the
exception. -/
theorem localsOf_methodBody (client : Client) (method : Method) (endpoint : Endpoint)
    (names : StubNames) :
    localsOf (methodBody client method endpoint names) =
      "url" :: localsOf (startWatch method) ++ "request" :: localsOf (headerBlocks method) ++
        localsOf (contentStmts method names) ++
        "response" :: localsOf (responseStmts client method endpoint.returnShape names) ++
        ["e"] := by
  have handler : localsOf (exceptionHandler client method) = [] := by
    unfold exceptionHandler
    split <;> simp
  have cleanup : cleanupLocals (slowCallCleanup client method) = [] := by
    unfold slowCallCleanup
    split <;> simp [slowCallCheck]
  have final : localsOf (finalReturn method endpoint.returnShape) = [] := by
    unfold finalReturn
    split
    · rfl
    · split <;> simp
  simp [methodBody, requestStmt, sendStmt, handler, cleanup, final]

/-- The names that a method takes are those of its locals and that of the field. Both sides are put
together from the groups of statements. -/
theorem takes_iff (client : Client) (endpoint : Endpoint) (names : StubNames)
    (suppressed : method.contentSuppressed = true ↔
      2 ≤ method.parameters.countP Parameter.IsContent) :
    Takes method endpoint.returnShape name ↔
      name ∈ localsOf (methodBody client method endpoint names) ∨ name = transportField := by
  have single := contentParameter?_iff suppressed
  constructor
  · intro takes
    rw [localsOf_methodBody]
    cases takes with
    | transport => exact Or.inr rfl
    | url | exception | request | response => simp
    | stopwatch timed => simp [localsOf_startWatch, timed]
    | header declared bound named =>
      have headed : name ∈ localsOf (headerBlocks method) :=
        mem_localsOf_headerBlocks.mpr ⟨⟨_, declared, _, bound⟩, named⟩
      simp [headed]
    | json only bound =>
      have prepared : "json" ∈ localsOf (contentStmts method names) :=
        mem_localsOf_contentStmts.mpr ⟨_, (single _).mpr only, Or.inl ⟨bound, rfl⟩⟩
      simp [prepared]
    | form only bound named =>
      have prepared : name ∈ localsOf (contentStmts method names) :=
        mem_localsOf_contentStmts.mpr ⟨_, (single _).mpr only, Or.inr ⟨bound, named⟩⟩
      simp [prepared]
    | content typed read =>
      have given : "content" ∈ localsOf (responseStmts client method endpoint.returnShape names) :=
        mem_localsOf_responseStmts.mpr ⟨rfl, _, typed, read⟩
      simp [given]
  · simp only [localsOf_methodBody, List.mem_append, List.mem_cons, List.not_mem_nil, or_false,
      localsOf_startWatch, List.mem_ite_nil_right, mem_localsOf_headerBlocks,
      mem_localsOf_contentStmts, mem_localsOf_responseStmts, single]
    rintro ((((((rfl | ⟨timed, rfl⟩) | (rfl | ⟨⟨_, declared, _, bound⟩, named⟩)) |
      ⟨_, only, (⟨bound, rfl⟩ | ⟨bound, named⟩)⟩) | (rfl | ⟨rfl, _, typed, read⟩)) | rfl) | rfl)
    · exact .url
    · exact .stopwatch timed
    · exact .request
    · exact .header declared bound named
    · exact .json only bound
    · exact .form only bound (by simpa using named)
    · exact .response
    · exact .content typed read
    · exact .exception
    · exact .transport

end Locals

section Clashes

variable {client : Client} {method : Method} {shape : ReturnShape} {names : StubNames}
variable {scope : List String}

/-- The headers leave no local behind, as each has a block of its own. -/
@[simp] theorem blockLocals_headerBlocks (method : Method) :
    blockLocals (headerBlocks method) = [] := by
  apply blockLocals_eq_nil
  intro stmt member
  obtain ⟨parameter, template, rfl⟩ := mem_headerBlocks member
  rfl

/-- The statements that add headers can be declared in any scope without the two names of theirs. -/
theorem headerBlocks_unclashing (method : Method) (header : "header" ∉ scope)
    (headerText : "headerText" ∉ scope) :
    allUnclashing scope (headerBlocks method) = true := by
  apply allUnclashing_of_forall
  intro stmt member
  obtain ⟨parameter, template, rfl⟩ := mem_headerBlocks member
  simp [headerBlock, List.count_eq_zero.mpr header, List.count_eq_zero.mpr headerText]

/-- The statements that make the content can be declared in any scope without their own names. -/
theorem contentStmts_unclashing (method : Method) (names : StubNames)
    (fresh : ∀ name ∈ ["json", "form", "property", "propertyValue"], name ∉ scope) :
    allUnclashing (blockLocals (contentStmts method names) ++ scope) (contentStmts method names) =
      true := by
  simp only [List.forall_mem_cons, List.not_mem_nil, IsEmpty.forall_iff, implies_true,
    and_true] at fresh
  obtain ⟨json, form, property, propertyValue⟩ := fresh
  unfold contentStmts
  split
  · rfl
  · split
    · simp [formContent, addFormField, List.count_eq_zero.mpr form, property,
        List.count_eq_zero.mpr propertyValue]
    · simp [jsonContent, List.count_eq_zero.mpr json]

/-- The examination of the status leaves no local behind. -/
@[simp] theorem blockLocals_statusCheck (method : Method) (kind : Option ResultKind) :
    blockLocals [statusCheck method kind] = [] := by
  unfold statusCheck
  split <;> rfl

/-- The statements that deal with the response leave no local behind: the content is declared inside
of the statement that gives the result. -/
@[simp] theorem blockLocals_responseStmts (client : Client) (method : Method) (shape : ReturnShape)
    (names : StubNames) : blockLocals (responseStmts client method shape names) = [] := by
  have result (type : TypeSyntax) : blockLocals [giveResult client method names type] = [] := by
    unfold giveResult
    split <;> rfl
  unfold responseStmts
  rw [blockLocals_cons, blockLocals_statusCheck]
  split
  · rfl
  · simp [result]

/-- The statements that deal with the response can be declared in any scope without a content. -/
theorem responseStmts_unclashing (client : Client) (method : Method) (shape : ReturnShape)
    (names : StubNames) (content : "content" ∉ scope) :
    allUnclashing scope (responseStmts client method shape names) = true := by
  have check (kind : Option ResultKind) : (statusCheck method kind).unclashing scope = true := by
    unfold statusCheck
    split <;> simp
  have result (type : TypeSyntax) :
      (giveResult client method names type).unclashing scope = true := by
    unfold giveResult
    split <;> simp [List.count_eq_zero.mpr content]
  unfold responseStmts
  split <;> simp [check, result]

/-- The locals of a content are among four names. -/
theorem mem_blockLocals_contentStmts {name : String}
    (member : name ∈ blockLocals (contentStmts method names)) :
    name ∈ ["json", "form", "property", "propertyValue"] := by
  obtain ⟨parameter, _, ⟨_, rfl⟩ | ⟨_, named⟩⟩ :=
    mem_localsOf_contentStmts.mp (mem_localsOf_of_blockLocals member)
  · simp
  · exact List.mem_cons_of_mem _ named

/-- The locals of a request have names of their own, and their names are not in scope around it. -/
theorem requestStmt_unclashing (endpoint : Endpoint)
    (fresh : ∀ name ∈ ["request", "response", "header", "headerText", "json", "form", "property",
      "propertyValue", "content"], name ∉ scope) :
    (requestStmt client method endpoint names).unclashing scope = true := by
  -- A name that is free around the request is free in it, unless the request takes it.
  have within (name : String) (others : name ∉ ["json", "form", "property", "propertyValue"])
      (other : name ≠ "request") (free : name ∉ scope) :
      name ∉ blockLocals (contentStmts method names) ++ "request" :: scope := by
    intro member
    rcases List.mem_append.mp member with inContent | outside
    · exact others (mem_blockLocals_contentStmts inContent)
    · exact free (List.mem_of_ne_of_mem other outside)
  have request := fresh "request" (by simp)
  have response := within "response" (by simp) (by simp) (fresh _ (by simp))
  have content : "content" ∉ "response" ::
      (blockLocals (contentStmts method names) ++ "request" :: scope) := by
    simpa using within "content" (by simp) (by simp) (fresh _ (by simp))
  have headers := headerBlocks_unclashing method
    (within "header" (by simp) (by simp) (fresh _ (by simp)))
    (within "headerText" (by simp) (by simp) (fresh _ (by simp)))
  have contents : allUnclashing (blockLocals (contentStmts method names) ++ "request" :: scope)
      (contentStmts method names) = true :=
    contentStmts_unclashing method names (by simp_all)
  have handled := responseStmts_unclashing client method endpoint.returnShape names content
  simp [requestStmt, sendStmt, request, response, headers, contents, handled]

/-- The locals of a method have names of their own: what is declared inside of a statement is
declared nowhere around it. -/
theorem methodBody_unclashing (client : Client) (method : Method) (endpoint : Endpoint)
    (names : StubNames) :
    allUnclashing (blockLocals (methodBody client method endpoint names))
      (methodBody client method endpoint names) = true := by
  have handler : blockLocals (exceptionHandler client method) = [] ∧
      ∀ scope, allUnclashing scope (exceptionHandler client method) = true := by
    unfold exceptionHandler
    split <;> simp
  have cleanup (scope : List String) :
      cleanupUnclashing scope (slowCallCleanup client method) = true := by
    unfold slowCallCleanup
    split <;> simp [slowCallCheck]
  have final : blockLocals (finalReturn method endpoint.returnShape) = [] ∧
      ∀ scope, allUnclashing scope (finalReturn method endpoint.returnShape) = true := by
    unfold finalReturn
    split
    · simp
    · split <;> simp
  have requestless : blockLocals [requestStmt client method endpoint names] = [] := rfl
  by_cases timed : method.slowCallThreshold > 0
  · have request : (requestStmt client method endpoint names).unclashing ["url", "stopwatch"] =
        true := requestStmt_unclashing endpoint (by simp)
    simp [methodBody, startWatch, timed, requestless, request, handler, cleanup, final]
  · have request : (requestStmt client method endpoint names).unclashing ["url"] = true :=
      requestStmt_unclashing endpoint (by simp)
    simp [methodBody, startWatch, timed, requestless, request, handler, cleanup, final]

end Clashes

end TypedClients.Generation
