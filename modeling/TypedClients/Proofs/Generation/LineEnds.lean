import TypedClients.Proofs.CSharp.LineEnds
import TypedClients.Proofs.Generation.Interpolation
import TypedClients.Proofs.PathTemplate.Segmentation

/-!
# Line ends in generated methods

A generated method quotes the path of its address, the keys of the query string, the names and
fallbacks of its headers, and the name under which it is reported. Nothing else that it quotes has
a line end in it. Feeds and returns in these texts stay out of its lines, and the three rare line
ends do not.

Each group of statements has a lemma that lists its quoted texts, and the list of a method is put
together from them in the order of the statements.
-/

namespace TypedClients.Generation

open CSharp Extraction Text

variable {c : Char} {client : Client} {method : Method}

/-! ## Texts that are quoted -/

/-- The text of a part of an interpolated string that is one. -/
def quotedText? : InterpolationPart → Option String
  | .text value => some value
  | .hole _ _ => none

/-- The texts in an address: the path, or what stands between the values that are put into it, with
the keys of the query string. -/
def addressTexts (method : Method) (path : String) : List String :=
  if method.parameters.isEmpty then [path] else (urlParts method path).filterMap quotedText?

/-- The texts in the block of a header. -/
def headerTexts (template : String) : List String :=
  [headerName template ++ ":", headerFallback template]

/-- The templates of the headers of a method, in the order of its parameters. -/
def headerTemplates (method : Method) : List String :=
  method.parameters.filterMap fun parameter => parameter.binding.headerTemplate?

/-- The texts in a method that are not its own. -/
def quotedTexts (client : Client) (method : Method) (path : String) : List String :=
  addressTexts method path ++ (headerTemplates method).flatMap headerTexts
    ++ [client.qualifiedName method]

/-! ## Where they are quoted -/

/-- What is quoted in the parts of an interpolated string is the texts among them. -/
theorem inQuotes_parts (parts : List InterpolationPart) :
    InQuotes c (parts.flatMap InterpolationPart.fragments) ↔
      ∃ text ∈ parts.filterMap quotedText?, c ∈ text.toList := by
  induction parts with
  | nil => simp
  | cons part parts inductionHypothesis =>
    cases part <;> simp [quotedText?, inductionHypothesis]

/-- What is quoted in an address is the path or the texts between the values. -/
theorem inQuotes_urlExpr (path : String) :
    InQuotes c (urlExpr method path).fragments ↔
      ∃ text ∈ addressTexts method path, c ∈ text.toList := by
  unfold urlExpr addressTexts
  split
  · simp [Expr.text]
  · exact inQuotes_parts (urlParts method path)

/-- What is quoted in the block of a header is its name and its fallback. -/
theorem inQuotes_headerBlock (parameter : Parameter) (template : String) :
    InQuotes c (headerBlock parameter template).fragments ↔
      ∃ text ∈ headerTexts template, c ∈ text.toList := by
  simp [headerBlock, headerPair, headerValue, headerTexts, Expr.callMember, Expr.text]

/-- What is quoted in the statements that add headers is the names and fallbacks of the templates.
-/
theorem inQuotes_headerBlocks :
    InQuotes c (fragmentsOf (headerBlocks method)) ↔
      ∃ text ∈ (headerTemplates method).flatMap headerTexts, c ∈ text.toList := by
  unfold headerBlocks headerTemplates
  induction method.parameters with
  | nil => simp
  | cons parameter parameters inductionHypothesis =>
    cases template : parameter.binding.headerTemplate? with
    | none => simpa [template] using inductionHypothesis
    | some text =>
      simp only [List.filterMap_cons, template, Option.map_some, fragmentsOf, inQuotes_append,
        inQuotes_headerBlock, inductionHypothesis, List.flatMap_cons, List.mem_append, or_and_right,
        exists_or]

/-- Nothing is quoted in the use of a parameter. -/
@[simp] theorem inQuotes_parameterExpr (parameter : Parameter) :
    ¬ InQuotes c (parameterExpr parameter).fragments := by
  simp [parameterExpr]

/-- Nothing is quoted in the token that is handed on. -/
@[simp] theorem inQuotes_cancellationArgument (method : Method) :
    ¬ InQuotes c (fragmentsOfAll (cancellationArgument method)) := by
  unfold cancellationArgument
  cases method.cancellationParameter? <;> simp

/-- Nothing is quoted in the value returned on a failure. -/
@[simp] theorem inQuotes_fallback (kind : ResultKind) : ¬ InQuotes c kind.fallback.fragments := by
  rcases kind with _ | _ | _ | (_ | element) <;> simp [ResultKind.fallback, emptyArray]

/-- Nothing is quoted in the reading of the response. -/
@[simp] theorem inQuotes_readContent (client : Client) (method : Method) (reader : String) :
    ¬ InQuotes c (readContent client method reader).fragments := by
  unfold readContent readArguments
  split <;> simp [Expr.callMember]

/-- The only text that is quoted for the content of a request is the name of a media type, which is
fixed and has no line end in it. -/
theorem inQuotes_contentStmts (ending : c ∈ lineEnds) (method : Method) (names : StubNames) :
    ¬ InQuotes c (fragmentsOf (contentStmts method names)) := by
  unfold contentStmts
  split
  · simp
  · split
    · simp [formContent, Expr.callMember, requestContent, publicProperties, isPlainProperty,
        addFormField]
    · cases serializer : method.serializer <;>
        simp (disch := decide) [jsonContent, serializeCall, Expr.callMember, Expr.callName,
          Expr.text, requestContent, lineEnd_ne ending]

/-- Nothing is quoted in the statements that deal with the response, for whatever shape and
serializer. -/
@[simp] theorem inQuotes_responseStmts (client : Client) (method : Method) (shape : ReturnShape)
    (names : StubNames) : ¬ InQuotes c (fragmentsOf (responseStmts client method shape names)) := by
  have check : ¬ InQuotes c (statusCheck method (resultKind? shape)).fragments := by
    unfold statusCheck
    split <;> simp [Expr.callMember]
  have deserialize (type : String) :
      ¬ InQuotes c (deserializeCall method.serializer names type).fragments := by
    cases method.serializer <;> simp [deserializeCall, Expr.callName]
  have result (type : TypeSyntax) :
      ¬ InQuotes c (giveResult client method names type).fragments := by
    unfold giveResult
    split <;> simp [hasContent, Expr.callMember, deserialize]
  unfold responseStmts
  cases shape.value <;> simp [check, result]

/-- A request quotes the texts of its headers. -/
theorem inQuotes_requestStmt (ending : c ∈ lineEnds) (client : Client) (method : Method)
    (endpoint : Endpoint) (names : StubNames) :
    InQuotes c (requestStmt client method endpoint names).fragments ↔
      InQuotes c (fragmentsOf (headerBlocks method)) := by
  have content := inQuotes_contentStmts ending method names
  simp [requestStmt, sendStmt, Expr.callMember, content]

/-- The texts with line ends in them that a generated method quotes are those of its declaration,
listed in the order in which they are quoted. -/
theorem inQuotes_methodBody (ending : c ∈ lineEnds) (client : Client) (method : Method)
    (endpoint : Endpoint) (names : StubNames) :
    InQuotes c (fragmentsOf (methodBody client method endpoint names)) ↔
      ∃ text ∈ quotedTexts client method endpoint.pathTemplate, c ∈ text.toList := by
  have watch : ¬ InQuotes c (fragmentsOf (startWatch method)) := by
    unfold startWatch
    split <;> simp [Expr.callMember]
  have handler : InQuotes c (fragmentsOf (exceptionHandler client method)) ↔
      c ∈ (client.qualifiedName method).toList := by
    unfold exceptionHandler
    split <;> simp [Expr.callName, reportedName, Expr.text]
  have cleanup : InQuotes c (cleanupFragments (slowCallCleanup client method)) →
      c ∈ (client.qualifiedName method).toList := by
    unfold slowCallCleanup
    split <;> simp [slowCallCheck, Expr.callMember, Expr.callName, reportedName, Expr.text, elapsed]
  have closing : ¬ InQuotes c (fragmentsOf (finalReturn method endpoint.returnShape)) := by
    unfold finalReturn
    split
    · simp
    · split <;> simp
  have request := inQuotes_requestStmt ending client method endpoint names
  have told : (InQuotes c (fragmentsOf (exceptionHandler client method)) ∨
      InQuotes c (cleanupFragments (slowCallCleanup client method))) ↔
        c ∈ (client.qualifiedName method).toList :=
    ⟨fun quoted => quoted.elim handler.mp cleanup, fun inside => .inl (handler.mpr inside)⟩
  calc InQuotes c (fragmentsOf (methodBody client method endpoint names))
      ↔ InQuotes c (urlExpr method endpoint.pathTemplate).fragments ∨
          InQuotes c (fragmentsOf (headerBlocks method)) ∨
            InQuotes c (fragmentsOf (exceptionHandler client method)) ∨
              InQuotes c (cleanupFragments (slowCallCleanup client method)) := by
        simp [methodBody, watch, closing, request]
    _ ↔ ∃ text ∈ quotedTexts client method endpoint.pathTemplate, c ∈ text.toList := by
        rw [inQuotes_urlExpr, inQuotes_headerBlocks, told]
        simp only [quotedTexts, List.mem_append, List.mem_singleton, or_and_right, exists_or,
          exists_eq_left, or_assoc]

/-! ## Where the texts come from -/

/-- A character of a text that is left of a path is one of the path. -/
theorem mem_path_of_segment {path : String} {segment : PathTemplate.Segment}
    (among : segment ∈ PathTemplate.segments path) (inside : c ∈ segment.text.toList) :
    c ∈ path.toList := by
  rw [← (PathTemplate.segmentation_segmentsOf path.toList).lossless]
  exact List.mem_flatMap.mpr ⟨segment, among, inside⟩

/-- A segment of a path is quoted as it stands. It may also become a hole, and then it is no quoted
text. -/
theorem quotedText_segmentPart {routeNames : List String} {segment : PathTemplate.Segment}
    {text : String} (quoted : quotedText? (segmentPart routeNames segment) = some text) :
    text = segment.text := by
  cases segment with
  | literal own => exact (Option.some.inj quoted).symm
  | placeholder inner =>
    by_cases routed : routeNames.contains (PathTemplate.placeholderName inner)
    · rw [segmentPart, if_pos routed] at quoted
      cases quoted
    · rw [segmentPart, if_neg routed] at quoted
      exact (Option.some.inj quoted).symm

/-- A line end in a text of the query string is one in a key, as the marks between the parameters
have none. -/
theorem mem_queryKey (ending : c ∈ lineEnds) {mark : String} (usual : c ∉ mark.toList)
    {parameters : List Parameter} {part : InterpolationPart} {text : String}
    (among : part ∈ queryParts mark parameters) (quoted : quotedText? part = some text)
    (inside : c ∈ text.toList) : ∃ parameter ∈ parameters, c ∈ parameter.queryKey.toList := by
  induction parameters generalizing mark with
  | nil => simp [queryParts] at among
  | cons parameter others inductionHypothesis =>
    simp only [queryParts, List.mem_cons] at among
    rcases among with rfl | rfl | later
    · obtain rfl := Option.some.inj quoted
      refine ⟨parameter, List.mem_cons_self, ?_⟩
      simpa (disch := decide) [usual, lineEnd_ne ending] using inside
    · cases quoted
    · have plain : c ∉ "&".toList := by
        simp (disch := decide) [lineEnd_ne ending]
      obtain ⟨other, member, found⟩ := inductionHypothesis plain later
      exact ⟨other, List.mem_cons_of_mem _ member, found⟩

/-- A line end in a text of a header is one in its template. -/
theorem mem_template (ending : c ∈ lineEnds) {template text : String}
    (among : text ∈ headerTexts template) (inside : c ∈ text.toList) : c ∈ template.toList := by
  simp only [headerTexts, List.mem_cons, List.not_mem_nil, or_false] at among
  rcases among with rfl | rfl
  · have named : c ∈ (headerName template).toList := by
      simpa (disch := decide) [lineEnd_ne ending] using inside
    exact (List.takeWhile_sublist _).mem ((trims_ofList _).mem named)
  · have behind := (trims_ofList (afterFirst ':' template.toList)).mem inside
    exact (List.dropWhile_suffix _).mem (List.mem_of_mem_drop behind)

/-- A line end in a text that a method quotes is one in its path, in a key, in the template of a
header or in the name under which the method is reported. -/
theorem mem_of_quotedTexts (ending : c ∈ lineEnds) {path text : String}
    (among : text ∈ quotedTexts client method path) (inside : c ∈ text.toList) :
    c ∈ path.toList ∨ (∃ parameter ∈ method.parameters, c ∈ parameter.queryKey.toList) ∨
      (∃ template ∈ headerTemplates method, c ∈ template.toList) ∨
        c ∈ (client.qualifiedName method).toList := by
  simp only [quotedTexts, List.mem_append, List.mem_flatMap, List.mem_singleton] at among
  rcases among with (inAddress | ⟨template, given, inHeader⟩) | rfl
  · unfold addressTexts at inAddress
    split at inAddress
    · obtain rfl := List.mem_singleton.mp inAddress
      exact Or.inl inside
    · obtain ⟨part, member, quoted⟩ := List.mem_filterMap.mp inAddress
      rcases List.mem_append.mp member with inPath | inQuery
      · obtain ⟨segment, cut, rfl⟩ := List.mem_map.mp inPath
        obtain rfl := quotedText_segmentPart quoted
        exact Or.inl (mem_path_of_segment cut inside)
      · have plain : c ∉ "?".toList := by
          simp (disch := decide) [lineEnd_ne ending]
        obtain ⟨parameter, selected, found⟩ := mem_queryKey ending plain inQuery quoted inside
        exact Or.inr (Or.inl ⟨parameter, (List.mem_filter.mp selected).1, found⟩)
  · exact Or.inr (Or.inr (Or.inl ⟨template, given, mem_template ending inHeader inside⟩))
  · exact Or.inr (Or.inr (Or.inr inside))

/-! ## Lines -/

/-- How line ends get into the lines of the statements in a method. -/
structure LineEndsTraced (client : Client) (method : Method) (endpoint : Endpoint)
    (names : StubNames) : Prop where
  /-- A line end is in a word, such as a name or a type, which is printed as it is, or it is a rare
  one in a text that is quoted. -/
  lines (c : Char) : c ∈ lineEnds →
    (InLines c (bodySteps (methodBody client method endpoint names)) ↔
      InWords c (fragmentsOf (methodBody client method endpoint names)) ∨
        c ∈ rareLineEnds ∧
          ∃ text ∈ quotedTexts client method endpoint.pathTemplate, c ∈ text.toList)
  /-- A line end in a text that is quoted is one in the path, in a key of the query string, in the
  template of a header or in the name under which the method is reported. -/
  sources (c : Char) (text : String) : c ∈ lineEnds →
    text ∈ quotedTexts client method endpoint.pathTemplate → c ∈ text.toList →
      c ∈ endpoint.pathTemplate.toList ∨
        (∃ parameter ∈ method.parameters, c ∈ parameter.queryKey.toList) ∨
          (∃ template ∈ headerTemplates method, c ∈ template.toList) ∨
            c ∈ (client.qualifiedName method).toList

/-- The literal and the interpolated text that are printed for a text stay on their line exactly
when the text has none of the three rare line ends. And only such a line end gets into the lines of
a generated method with what it quotes: the path, the keys of the query string, the names and the
fallbacks of headers, and the name under which it is reported. -/
theorem quoted_text_stays_on_line_iff (value : String) (client : Client) (method : Method)
    (endpoint : Endpoint) (names : StubNames) :
    (StaysOnLine (Literal.text value).print ↔ ∀ c ∈ value.toList, c ∉ rareLineEnds) ∧
      (StaysOnLine (InterpolationPart.text value).print ↔ ∀ c ∈ value.toList, c ∉ rareLineEnds) ∧
      LineEndsTraced client method endpoint names := by
  refine ⟨staysOnLine_text value, staysOnLine_interpolated value, ?_⟩
  constructor
  case lines =>
    intro c ending
    rw [lineEnd_inLines_bodySteps ending, brought_iff, inQuotes_methodBody ending]
  case sources => exact fun c text ending among inside => mem_of_quotedTexts ending among inside

/-- A class with a line feed and a carriage return in its path. -/
def departureBoard : ClassDeclaration :=
  singleMethodClass "/list\nall\r" []

/-- The line feed and the carriage return are escaped, and no line end gets into a line with a text.
-/
theorem departureBoard_stays_on_line :
    (extractClient departureBoard .standard).eligibleMethods.length = 1 ∧
    ∀ method ∈ (extractClient departureBoard .standard).eligibleMethods,
      ∀ endpoint ∈ method.endpoint?, ∀ names,
        StaysOnLine (Literal.text endpoint.pathTemplate).print ∧
          ∀ c ∈ lineEnds,
            InLines c (bodySteps
                (methodBody (extractClient departureBoard .standard) method endpoint names)) →
              InWords c (fragmentsOf
                (methodBody (extractClient departureBoard .standard) method endpoint names)) := by
  have usual : ∀ method ∈ (extractClient departureBoard .standard).eligibleMethods,
      ∀ endpoint ∈ method.endpoint?,
        ∀ text ∈ endpoint.pathTemplate ::
            quotedTexts (extractClient departureBoard .standard) method endpoint.pathTemplate,
          text.toList.all (· ∉ rareLineEnds) = true := by
    decide +kernel
  refine ⟨by decide +kernel, ?_⟩
  intro method eligible endpoint generated names
  have texts (text : String) (among : text ∈ endpoint.pathTemplate ::
      quotedTexts (extractClient departureBoard .standard) method endpoint.pathTemplate) :
      ∀ c ∈ text.toList, c ∉ rareLineEnds := by
    simpa using usual method eligible endpoint generated text among
  obtain ⟨literal, _, traced⟩ := quoted_text_stays_on_line_iff endpoint.pathTemplate
    (extractClient departureBoard .standard) method endpoint names
  refine ⟨literal.mpr (texts _ List.mem_cons_self), fun c ending inLine => ?_⟩
  rcases (traced.lines c ending).mp inLine with inWord | ⟨rare, text, among, inside⟩
  · exact inWord
  · exact absurd rare (texts text (List.mem_cons_of_mem _ among) c inside)

/-- A class with a rare line end in its path. -/
def arrivals : ClassDeclaration :=
  singleMethodClass "/list\u2028all" []

/-- It is printed into the line of the address. -/
theorem arrivals_break_their_line :
    '\u2028' ∈ lineEnds ∧
      '\u2028' ∈ (Literal.text "/list\u2028all").print.toList ∧
      '\u2028' ∈ (InterpolationPart.text "/list\u2028all").print.toList ∧
      ∃ definition ∈ (clientUnit (extractClient arrivals .standard)).body.methods,
        .line "var url = \"/list\u2028all\";" ∈ bodySteps definition.body := by
  decide +kernel

end TypedClients.Generation
