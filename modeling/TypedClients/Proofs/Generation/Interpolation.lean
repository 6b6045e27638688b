import TypedClients.Extraction
import TypedClients.Generation.MethodBody
import TypedClients.Proofs.CSharp.Expressions
import TypedClients.Proofs.CSharp.PrintedInterpolation
import TypedClients.Proofs.Generation.ClientUnit

/-!
# The interpolated strings of a generated method

A generated method has an interpolated string for its address and one for each of its headers, and
no others. Their holes are named by the identifiers of parameters.

What can fail in reading one back is in its texts and formats, which come from the declaration. So
the theorem lists the conditions on these and shows that each of them is needed, with two classes on
either side.
-/

namespace TypedClients.Generation

open CSharp Extraction

/-! ## Where interpolated strings stand -/

/-- A parameter is used without an interpolated string. -/
@[simp] theorem interpolations_parameterExpr (parameter : Parameter) :
    (parameterExpr parameter).interpolations = [] := by
  simp [parameterExpr]

/-- The value returned on a failure is written without an interpolated string. -/
@[simp] theorem interpolations_fallback (kind : ResultKind) :
    kind.fallback.interpolations = [] := by
  rcases kind with _ | _ | _ | (_ | element) <;> simp [ResultKind.fallback, emptyArray]

/-- The response is read without an interpolated string. -/
@[simp] theorem interpolations_readContent (client : Client) (method : Method)
    (reader : String) : (readContent client method reader).interpolations = [] := by
  unfold readContent readArguments cancellationArgument
  cases method.cancellationParameter? <;> split <;> simp [Expr.callMember]

/-- The content of a request is set without an interpolated string, for each serializer and for
forms as for bodies. -/
theorem interpolationsIn_contentStmts (method : Method) (names : StubNames) :
    interpolationsIn (contentStmts method names) = [] := by
  unfold contentStmts
  split
  · rfl
  · split
    · simp [formContent, Expr.callMember, requestContent, publicProperties, isPlainProperty,
        addFormField]
    · cases serializer : method.serializer <;>
        simp [jsonContent, serializeCall, Expr.callMember, Expr.callName, Expr.text,
          requestContent]

/-- A response is handled without an interpolated string, whatever the shape of the result. -/
theorem interpolationsIn_responseStmts (client : Client) (method : Method) (shape : ReturnShape)
    (names : StubNames) : interpolationsIn (responseStmts client method shape names) = [] := by
  have check : (statusCheck method (resultKind? shape)).expressions.flatMap
      Expr.interpolations = [] := by
    unfold statusCheck
    split <;> simp [Expr.callMember]
  have deserialize (type : String) :
      (deserializeCall method.serializer names type).interpolations = [] := by
    cases method.serializer <;> simp [deserializeCall, Expr.callName]
  have result (type : TypeSyntax) :
      (giveResult client method names type).expressions.flatMap Expr.interpolations = [] := by
    unfold giveResult
    split <;> simp [hasContent, Expr.callMember, deserialize]
  unfold responseStmts
  rw [interpolationsIn_cons, check]
  split
  · rfl
  · simpa using result _

/-- The parts of the pair that is sent as a header. -/
def headerParts (parameter : Parameter) (template : String) : List InterpolationPart :=
  [.text (headerName template ++ ":"),
   .hole (escapedIdentifier parameter.name) parameter.formatSpecifier]

/-- The parts of the interpolated strings of a method, in order: those of its address, unless that
is a plain literal, and those of its headers. -/
def interpolations (method : Method) (path : String) : List (List InterpolationPart) :=
  (if method.parameters.isEmpty then [] else [urlParts method path]) ++
    method.parameters.filterMap fun parameter =>
      parameter.binding.headerTemplate?.map (headerParts parameter)

/-- The blocks that send headers have one interpolated string for each parameter that is sent as a
header, in the order of the parameters: the one that fills its template. -/
theorem interpolationsIn_headerBlocks (method : Method) :
    interpolationsIn (headerBlocks method) = method.parameters.filterMap fun parameter =>
      parameter.binding.headerTemplate?.map (headerParts parameter) := by
  unfold headerBlocks
  induction method.parameters with
  | nil => rfl
  | cons parameter parameters inductionHypothesis =>
    cases template : parameter.binding.headerTemplate? with
    | none => simpa [template] using inductionHypothesis
    | some text =>
      have block : (headerBlock parameter text).expressions.flatMap Expr.interpolations =
          [headerParts parameter text] := by
        simp [headerBlock, Expr.callMember, headerPair, headerParts, headerValue, Expr.text]
      simp [template, block, inductionHypothesis]

/-- A request is made with the interpolated strings of its headers. That of its address stands
before it, and those are all of a method. -/
theorem interpolations_requestStmt (client : Client) (method : Method) (endpoint : Endpoint)
    (names : StubNames) :
    (requestStmt client method endpoint names).expressions.flatMap Expr.interpolations =
      interpolationsIn (headerBlocks method) := by
  have argument : interpolationsOfAll (cancellationArgument method) = [] := by
    unfold cancellationArgument
    cases method.cancellationParameter? <;> simp
  have content := interpolationsIn_contentStmts method names
  have response := interpolationsIn_responseStmts client method endpoint.returnShape names
  simp only [interpolationsIn] at content response ⊢
  simp [requestStmt, sendStmt, Expr.callMember, argument, content, response]

/-- The interpolated strings in the body of a generated method are those of its address and its
headers, in that order. -/
theorem interpolationsIn_methodBody (client : Client) (method : Method) (endpoint : Endpoint)
    (names : StubNames) :
    interpolationsIn (methodBody client method endpoint names) =
      interpolations method endpoint.pathTemplate := by
  have address : (urlExpr method endpoint.pathTemplate).interpolations =
      if method.parameters.isEmpty then [] else [urlParts method endpoint.pathTemplate] := by
    unfold urlExpr
    split <;> simp [Expr.text]
  have watch : interpolationsIn (startWatch method) = [] := by
    unfold startWatch
    split <;> simp [Expr.callMember]
  have handler : interpolationsIn (exceptionHandler client method) = [] := by
    unfold exceptionHandler
    split <;> simp [Expr.callName, reportedName, Expr.text]
  have cleanup : (cleanupExpressions (slowCallCleanup client method)).flatMap
      Expr.interpolations = [] := by
    unfold slowCallCleanup
    split <;>
      simp [slowCallCheck, Expr.callMember, Expr.callName, reportedName, Expr.text, elapsed]
  have ending : interpolationsIn (finalReturn method endpoint.returnShape) = [] := by
    unfold finalReturn
    split
    · rfl
    · split <;> simp
  have guarded : interpolationsIn [Stmt.guarded [requestStmt client method endpoint names]
      (some ⟨"System.Exception", "e", exceptionHandler client method⟩)
      (slowCallCleanup client method)] =
      interpolationsIn (headerBlocks method) := by
    have request := interpolations_requestStmt client method endpoint names
    simp only [interpolationsIn] at request handler ⊢
    simp [request, handler, cleanup]
  simp only [methodBody, interpolations, interpolationsIn_append, interpolationsIn_cons, guarded,
    watch, ending, Stmt.expressions, List.flatMap_singleton, address, List.append_nil,
    interpolationsIn_headerBlocks]

/-! ## How they are made -/

variable {alphabet : NameAlphabet} {method : Method}

/-- What is put into the path are names of parameters. -/
theorem routeNames_named
    (named : ∀ parameter ∈ method.parameters, alphabet.IsName parameter.name.toList)
    {name : String} (routed : name ∈ method.routeNames) : alphabet.IsName name.toList := by
  simp only [Method.routeNames, List.mem_map, List.mem_filter] at routed
  obtain ⟨parameter, ⟨member, _⟩, rfl⟩ := routed
  exact named parameter member

/-- A placeholder becomes a hole only where a parameter has its name, so the name in a hole is an
identifier whatever stands in the braces of a path. -/
theorem segmentPart_named
    (named : ∀ parameter ∈ method.parameters, alphabet.IsName parameter.name.toList)
    (segment : PathTemplate.Segment) : (segmentPart method.routeNames segment).Named alphabet := by
  cases segment with
  | literal text => trivial
  | placeholder inner =>
    rw [segmentPart]
    split
    · rename_i routed
      have listed : PathTemplate.placeholderName inner ∈ method.routeNames := by
        simpa using routed
      exact (routeNames_named named listed).escapedIdentifier
    · trivial

/-- The holes of the query string are named by its parameters. -/
theorem queryParts_named (mark : String) {parameters : List Parameter}
    (named : ∀ parameter ∈ parameters, alphabet.IsName parameter.name.toList) :
    ∀ part ∈ queryParts mark parameters, part.Named alphabet := by
  induction parameters generalizing mark with
  | nil => simp [queryParts]
  | cons parameter others inductionHypothesis =>
    obtain ⟨first, rest⟩ := List.forall_mem_cons.mp named
    simp only [queryParts, List.forall_mem_cons]
    exact ⟨trivial, first.escapedIdentifier, inductionHypothesis "&" rest⟩

/-- The holes of an address have identifiers for names, those of the path as well as those of the
query string. -/
theorem urlParts_named
    (named : ∀ parameter ∈ method.parameters, alphabet.IsName parameter.name.toList)
    (path : String) : ∀ part ∈ urlParts method path, part.Named alphabet := by
  intro part member
  rcases List.mem_append.mp member with inPath | inQuery
  · obtain ⟨segment, _, rfl⟩ := List.mem_map.mp inPath
    exact segmentPart_named named segment
  · refine queryParts_named "?" ?_ part inQuery
    intro parameter selected
    exact named parameter (List.mem_filter.mp selected).1

/-- Behind the format of a query parameter comes the `&` of the next one, or nothing. A format is
the last text before a closing brace, so this is what keeps the two apart. -/
theorem queryParts_separated (mark : String) (parameters : List Parameter) :
    Separated (queryParts mark parameters) := by
  induction parameters generalizing mark with
  | nil => trivial
  | cons parameter others inductionHypothesis =>
    have rest := inductionHypothesis "&"
    unfold queryParts
    cases parameter.formatSpecifier with
    | none => exact rest
    | some format =>
      refine ⟨?_, rest⟩
      cases others with
      | nil => simp [queryParts, printedParts]
      | cons next others =>
        simp [queryParts, printedParts, toList_print_text, printedChar, escapedChar, doubledBrace]

/-- No format stands in the path of an address, and the query string behind it is separated. -/
theorem urlParts_separated (method : Method) (path : String) :
    Separated (urlParts method path) := by
  have query := queryParts_separated "?" method.queryParameters
  unfold urlParts
  induction PathTemplate.segments path with
  | nil => exact query
  | cons segment segments inductionHypothesis =>
    cases segment with
    | literal text => exact inductionHypothesis
    | placeholder inner =>
      rw [List.map_cons, segmentPart]
      split
      · exact inductionHypothesis
      · exact inductionHypothesis

/-- An interpolated string of a method is its address or the pair of a header, which a result about
all of them takes one after the other. -/
theorem eq_of_mem_interpolations {path : String} {parts : List InterpolationPart}
    (member : parts ∈ interpolations method path) :
    parts = urlParts method path ∨
      ∃ parameter ∈ method.parameters, ∃ template, parts = headerParts parameter template := by
  rcases List.mem_append.mp member with inAddress | inHeaders
  · split at inAddress
    · simp at inAddress
    · exact Or.inl (List.mem_singleton.mp inAddress)
  · obtain ⟨parameter, declared, made⟩ := List.mem_filterMap.mp inHeaders
    obtain ⟨template, _, rfl⟩ := Option.map_eq_some_iff.mp made
    exact Or.inr ⟨parameter, declared, template, rfl⟩

/-- The holes of all interpolated strings of a method have identifiers for names. -/
theorem interpolations_named
    (named : ∀ parameter ∈ method.parameters, alphabet.IsName parameter.name.toList)
    {path : String} {parts : List InterpolationPart}
    (member : parts ∈ interpolations method path) : ∀ part ∈ parts, part.Named alphabet := by
  rcases eq_of_mem_interpolations member with rfl | ⟨parameter, declared, template, rfl⟩
  · exact urlParts_named named path
  · have name := (named parameter declared).escapedIdentifier
    simpa [headerParts, InterpolationPart.Named] using name

/-- No closing brace comes directly behind a format in any interpolated string of a method. -/
theorem interpolations_separated {path : String} {parts : List InterpolationPart}
    (member : parts ∈ interpolations method path) : Separated parts := by
  rcases eq_of_mem_interpolations member with rfl | ⟨parameter, _, template, rfl⟩
  · exact urlParts_separated method path
  · unfold headerParts
    cases parameter.formatSpecifier with
    | none => trivial
    | some format => exact ⟨by simp [printedParts], trivial⟩

/-- The parameters of an extracted method have names, where those of its declaration have
identifiers. -/
theorem extracted_named {declared : ClassDeclaration} {defaults : Defaults}
    (identifiers : ∀ method ∈ declared.methods, ∀ parameter ∈ method.parameters,
      alphabet.IsIdentifier parameter.name.toList)
    (member : method ∈ (extractClient declared defaults).methods) :
    ∀ parameter ∈ method.parameters, alphabet.IsName parameter.name.toList := by
  have extracted : method ∈ declared.methods.map
      (extractMethod (classOptions declared defaults)) := member
  obtain ⟨source, sourced, rfl⟩ := List.mem_map.mp extracted
  intro parameter described
  have classified : parameter ∈ source.parameters.map fun parameter =>
      classify parameter (rolePlaceholders (resolveRole source)) := described
  obtain ⟨original, originates, rfl⟩ := List.mem_map.mp classified
  have name := (identifiers source sourced original originates).isName
  simpa [classify, plainIdentifier] using name

/-- Each interpolated string in the methods that are generated for a declaration, one for every
method with an endpoint, is read to its last quote, with anything behind it, as the text, the holes
and the formats that it is for, exactly when it is printed readably: when no text has a rare line
end in it, and no format is empty or has a character in it that does not stand for itself. The
parameters may have any identifiers for names, and the paths, the keys, the formats and the
templates of headers may be any text. -/
theorem interpolations_read_back_iff (alphabet : NameAlphabet) (declared : ClassDeclaration)
    (defaults : Defaults)
    (identifiers : ∀ method ∈ declared.methods, ∀ parameter ∈ method.parameters,
      alphabet.IsIdentifier parameter.name.toList) :
    List.Forall₂ (fun _ definition => ∀ parts ∈ interpolationsIn definition.body, ∀ rest,
        readInterpolated? alphabet ((Expr.interpolated parts).print.toList ++ rest) =
            some (parts.flatMap InterpolationPart.elements, rest) ↔
          ∀ part ∈ parts, part.Readable)
      (extractClient declared defaults).eligibleMethods
      (clientUnit (extractClient declared defaults)).body.methods := by
  have each := (List.forall₂_and_left _ _).mpr ⟨fun _ eligible => eligible,
    forall₂_generated (extractClient declared defaults) []
      (extractClient declared defaults).methods⟩
  refine each.imp ?_
  rintro method definition ⟨eligible, endpoint, stubs, found, _⟩ parts emitted rest
  have source := List.mem_of_mem_filter eligible
  rw [methodDef, interpolationsIn_methodBody] at emitted
  have named := interpolations_named (extracted_named identifiers source) emitted
  exact readInterpolated?_print named (interpolations_separated emitted)

/-- An attribute with one literal. -/
def literalAttribute (name value : String) : Attribute :=
  ⟨name, [⟨none, .literal value⟩]⟩

/-- A class with one method, which takes the parameters that are given. -/
def singleMethodClass (path : String) (parameters : List ParameterDeclaration) :
    ClassDeclaration where
  scope := ""
  imports := []
  name := "Timetable"
  attributes := []
  methods := [⟨"ListAsync", "Task", [literalAttribute "Get" path], parameters⟩]

/-- A class with marks in its path, in a key and in a header template, a reserved word for a name,
and a format that is printed readably. -/
def timetable : ClassDeclaration :=
  singleMethodClass "/{class}/{day}\\\x7b"
    [⟨"@class", "string", []⟩,
     ⟨"since", "DateTime",
       [literalAttribute "AliasAs" "from\"\x7d", literalAttribute "Fmt" "yyyy-MM-dd HH:mm"]⟩,
     ⟨"tag", "string", [literalAttribute "Header" "X-Tag\x7b"]⟩]

/-- The interpolated strings of the timetable are read back, the escaped brace and the quoted key
among them. -/
theorem timetable_reads_back :
    (∀ method ∈ timetable.methods, ∀ parameter ∈ method.parameters,
        asciiNames.IsIdentifier parameter.name.toList) ∧
      ∀ method definition,
        (method, definition) ∈ (extractClient timetable .standard).eligibleMethods.zip
            (clientUnit (extractClient timetable .standard)).body.methods →
          ∀ parts ∈ interpolationsIn definition.body, ∀ rest,
            readInterpolated? asciiNames ((Expr.interpolated parts).print.toList ++ rest) =
              some (parts.flatMap InterpolationPart.elements, rest) := by
  have identifiers : ∀ method ∈ timetable.methods, ∀ parameter ∈ method.parameters,
      asciiNames.IsIdentifier parameter.name.toList := by decide +kernel
  have readable : ∀ definition ∈ (clientUnit (extractClient timetable .standard)).body.methods,
      ∀ parts ∈ interpolationsIn definition.body, ∀ part ∈ parts, part.Readable := by
    decide +kernel
  refine ⟨identifiers, ?_⟩
  intro method definition paired parts emitted rest
  have each := interpolations_read_back_iff asciiNames timetable .standard identifiers
  have generated := (List.of_mem_zip paired).2
  exact (List.forall₂_zip each paired parts emitted rest).mpr
    (readable definition generated parts emitted)

/-- A class with a format in which a backslash keeps a colon from having a meaning of its own. -/
def departures : ClassDeclaration :=
  singleMethodClass "/list" [⟨"at", "TimeSpan", [literalAttribute "Fmt" "hh\\:mm"]⟩]

/-- The backslash of such a format is printed once, and begins an escape that there is not. -/
theorem departures_do_not_read_back :
    (∀ method ∈ departures.methods, ∀ parameter ∈ method.parameters,
        asciiNames.IsIdentifier parameter.name.toList) ∧
      ∃ definition ∈ (clientUnit (extractClient departures .standard)).body.methods,
        ∃ parts ∈ interpolationsIn definition.body,
          (Expr.interpolated parts).print = "$\"/list?at=\x7bat:hh\\:mm\x7d\"" ∧
            readInterpolated? asciiNames (Expr.interpolated parts).print.toList = none := by
  decide +kernel

end TypedClients.Generation
