import Mathlib.Tactic.MkIffOfInductiveProp
import TypedClients.Proofs.CSharp.ReadBack
import TypedClients.Proofs.Generation.Interpolation
import TypedClients.Proofs.Generation.References
import TypedClients.Proofs.Generation.ResultKind

/-!
# Generated methods are printed legibly

Whatever a generated method is printed with of its own is legible: the paths into namespaces, the
locals and members, and the types of the objects that it makes. What can be illegible comes from the
declaration as it is: a format that is no plain text, a rare line end, a parameter called `await`,
an `@` before the name of a method with stubs, and a type that the language does not have.

The theorems give one lemma for each group of statements, and each of them asks for the same two
things: that names are free, and that the declaration is printed legibly.
-/

namespace TypedClients.Generation

open CSharp Extraction Text

/-! ## What is printed legibly -/

/-- What has to be so in a declaration for the expressions of a method to be printed legibly. -/
@[mk_iff]
structure PrintedLegibly (alphabet : NameAlphabet) (client : Client) (method : Method)
    (endpoint : Endpoint) : Prop where
  /-- No parameter is called like the operator that waits. -/
  awaitless : ∀ parameter ∈ method.parameters, parameter.name ≠ "await"
  /-- A method that may have stubs does not begin with an `@`, which would stand inside of their
  names. -/
  unmarked : method.serializer = .custom → method.name.toList.head? ≠ some '@'
  path : (Literal.text endpoint.pathTemplate).Legible
  reported : (Literal.text (client.qualifiedName method)).Legible
  fallbacks : ∀ parameter ∈ method.parameters,
    ∀ template ∈ parameter.binding.headerTemplate?,
      (Literal.text (headerFallback template)).Legible
  /-- The formats and texts of the interpolated strings are printed readably. -/
  strings : ∀ parts ∈ interpolations method endpoint.pathTemplate, ∀ part ∈ parts, part.Readable
  value : ∀ type ∈ endpoint.returnShape.value, isTypeOf alphabet type = true

instance (alphabet : NameAlphabet) (client : Client) (method : Method) (endpoint : Endpoint) :
    Decidable (PrintedLegibly alphabet client method endpoint) :=
  decidable_of_iff' _ (printedLegibly_iff alphabet client method endpoint)

section Legible

variable {alphabet : NameAlphabet} {client : Client} {method : Method} {endpoint : Endpoint}
variable {names : StubNames}

/-! ### Names -/

/-- The name of a parameter as it is written in code is free: a reserved word has its `@`. The word
`await`, which is reserved in asynchronous methods only, is not escaped, so the hypothesis leaves it
out. -/
theorem isFreeName_escapedIdentifier {name : String} (named : alphabet.IsName name.toList)
    (awaitless : name ≠ "await") : alphabet.IsFreeName (escapedIdentifier name).toList := by
  refine ⟨named.escapedIdentifier, ?_, ?_⟩
  · rw [String.ofList_toList]
    exact escapedIdentifier_not_reserved name
  · rw [String.ofList_toList]
    intro same
    have plain := denotedName_escapedIdentifier name named.head?_ne_at
    rw [same] at plain
    exact awaitless (plain.symm.trans (by decide))

/-- A name that begins with a capital letter is free, since no reserved word does. -/
theorem isFreeName_of_capital {name : List Char} (named : alphabet.IsName name)
    (capital : name.head?.any Char.isUpper = true) : alphabet.IsFreeName name := by
  have small : ∀ word ∈ "await" :: reservedWords,
      word.toList.head?.any Char.isUpper = false := by
    decide +kernel
  have other : ∀ word ∈ "await" :: reservedWords, String.ofList name ≠ word := by
    rintro word listed rfl
    have lower := small _ listed
    rw [String.toList_ofList, capital] at lower
    exact Bool.noConfusion lower
  refine ⟨.plain named, fun reserved => ?_, other "await" List.mem_cons_self⟩
  exact other _ (List.mem_cons_of_mem _ reserved) rfl

/-- A stub has a free name, where the method has a name and every character that may begin a name
may also go on with one. -/
theorem isFreeName_stub (joins : ∀ c, alphabet.starts c = true → alphabet.continues c = true)
    {name : String} (named : alphabet.IsName name.toList) {request : StubRequest}
    {word : String} (known : word ∈ ["Serialize", "Deserialize"])
    (base : request.baseName = word ++ name) (stubs : List Prototype) :
    alphabet.IsFreeName (request.chosenName stubs).toList := by
  obtain ⟨ordinal, whole, digits⟩ : ∃ ordinal : List Char,
      (request.chosenName stubs).toList = word.toList ++ (name.toList ++ ordinal) ∧
        ∀ c ∈ ordinal, alphabet.continues c = true := by
    rcases request.chosenName_numbered stubs with same | ⟨number, _, same⟩
    · exact ⟨[], by simp [same, base], by simp⟩
    · refine ⟨(toString number).toList, by simp [same, base], fun c member => ?_⟩
      exact continues_of_isDigit (isDigit_of_mem_toString member)
  have behind : ∀ c ∈ name.toList ++ ordinal, alphabet.continues c = true :=
    List.forall_mem_append.mpr ⟨named.continues joins, digits⟩
  simp only [List.mem_cons, List.not_mem_nil, or_false] at known
  have begins : asciiNames.IsName word.toList := by rcases known with rfl | rfl <;> decide
  rw [whole]
  refine isFreeName_of_capital (begins.of_ascii.append behind) ?_
  rcases known with rfl | rfl <;> simp

/-- Whether a text is a name of ASCII characters with a capital letter in front. -/
def IsCapitalName (name : List Char) : Prop :=
  asciiNames.IsName name ∧ name.head?.any Char.isUpper = true

instance : DecidablePred IsCapitalName := fun _ => inferInstanceAs (Decidable (_ ∧ _))

/-- A capitalised name is free: all words that are reserved begin with a small letter. -/
theorem IsCapitalName.isFreeName {name : List Char} (capital : IsCapitalName name) :
    alphabet.IsFreeName name :=
  isFreeName_of_capital capital.1.of_ascii capital.2

/-- Names with capital letters make a path. -/
theorem isPath_of_capitals {path : String}
    (capitals : ∀ name ∈ pieces '.' path.toList, IsCapitalName name) : IsPath alphabet path := by
  obtain ⟨first, others, cut⟩ := List.exists_cons_of_ne_nil (pieces_ne_nil '.' path.toList)
  rw [cut] at capitals
  obtain ⟨begins, goesOn⟩ := List.forall_mem_cons.mp capitals
  unfold IsPath
  rw [cut]
  exact ⟨Or.inl begins.isFreeName, fun name member => (goesOn name member).isFreeName⟩

/-- The paths into namespaces that stand in generated code are read as paths, whichever letters the
alphabet has beyond the usual ones. -/
@[simp] theorem isPath_qualified :
    IsPath alphabet "System.Array" ∧
    IsPath alphabet "System.Convert" ∧
    IsPath alphabet "System.Diagnostics.Stopwatch" ∧
    IsPath alphabet "System.Globalization.CultureInfo.InvariantCulture" ∧
    IsPath alphabet "System.Net.Http.HttpMethod" ∧
    IsPath alphabet "System.Net.HttpStatusCode.OK" ∧
    IsPath alphabet "System.Reflection.BindingFlags.Instance" ∧
    IsPath alphabet "System.Reflection.BindingFlags.Public" ∧
    IsPath alphabet "System.Text.Encoding.UTF8" ∧
    IsPath alphabet "System.Text.Json.JsonSerializer" ∧
    IsPath alphabet "System.UriKind.RelativeOrAbsolute" ∧
    IsPath alphabet "Newtonsoft.Json.JsonConvert" := by
  simp (disch := decide +kernel) only [isPath_of_capitals, and_self]

/-- The other paths that stand in generated code: those of locals, which are names of small letters,
and a member of the keyword for texts. -/
@[simp] theorem isPath_simple :
    IsPath alphabet "string.Empty" ∧
    IsPath alphabet "url" ∧
    IsPath alphabet "e" ∧
    IsPath alphabet "request" ∧
    IsPath alphabet "response" ∧
    IsPath alphabet "stopwatch" ∧
    IsPath alphabet "header" ∧
    IsPath alphabet "headerText" ∧
    IsPath alphabet "json" ∧
    IsPath alphabet "form" ∧
    IsPath alphabet "property" ∧
    IsPath alphabet "propertyValue" ∧
    IsPath alphabet "content" ∧
    IsPath alphabet transportField ∧
    IsPath alphabet errorHook ∧
    IsPath alphabet slowCallHook := by
  simp (disch := decide +kernel) only [IsPath.of_ascii, and_self]

/-- A free name is a path. -/
theorem isPath_of_free {name : String} (free : alphabet.IsFreeName name.toList) :
    IsPath alphabet name := by
  unfold IsPath
  rw [pieces_of_not_mem free.1.dot_not_mem]
  exact ⟨Or.inl free, by simp⟩

/-! ### Types -/

/-- A dotted path of capitalised names is a reference to a type, with the global namespace in front
or without. -/
theorem isTypeReference_of_capitals {name : String}
    (capitals : ∀ segment ∈ pieces '.' (withoutStart "global::".toList name.toList),
      IsCapitalName segment) : alphabet.IsTypeReference name :=
  Or.inr fun segment cut => (capitals segment cut).isFreeName

/-- Names with capital letters make a type that an object may have. -/
theorem isCreatedText_of_capitals {name : String} (rule : TypeSyntax.IsTypeName name.toList)
    (capitals : ∀ segment ∈ pieces '.' (withoutStart "global::".toList name.toList),
      IsCapitalName segment) : IsCreatedText alphabet name := by
  have reference : alphabet.IsTypeReference name := isTypeReference_of_capitals capitals
  exact ⟨name, [], .named rule (by simp), by simp [isTypeOf, areTypesOf, reference],
    by simp [TypeSyntax.render]⟩

/-- The types of the objects that generated code makes, but for those of forms. -/
@[simp] theorem isCreatedText_qualified :
    IsCreatedText alphabet "System.Net.Http.HttpRequestMessage" ∧
    IsCreatedText alphabet "System.Uri" ∧
    IsCreatedText alphabet "System.Net.Http.StringContent" ∧
    IsCreatedText alphabet "System.Net.Http.FormUrlEncodedContent" := by
  simp (disch := decide +kernel) only [isCreatedText_of_capitals, and_self]

/-- The types of texts and of bytes are referred to by their keywords. -/
theorem isTypeReference_keyword :
    alphabet.IsTypeReference "string" ∧ alphabet.IsTypeReference "byte" := by
  have known : "string" ∈ keywordTypes ∧ "byte" ∈ keywordTypes := by decide +kernel
  exact ⟨Or.inl known.1, Or.inl known.2⟩

/-- The type of a field of a form, as a tree. -/
def formField : TypeSyntax :=
  .named "System.Collections.Generic.KeyValuePair" [.named "string" [], .named "string" []]

/-- The type of a form field is printed the way it is used. -/
theorem formField_render : formField.render = formFieldType := by
  decide

/-- The type of a form field is a type in every alphabet. -/
theorem formField_isTypeOf : isTypeOf alphabet formField = true := by
  simp (disch := decide +kernel) [formField, isTypeOf, areTypesOf, isTypeReference_keyword,
    isTypeReference_of_capitals]

/-- The names in the type of a form field stand where they can be read. -/
theorem formField_wellNamed : formField.WellNamed := by
  have text : (TypeSyntax.named "string" []).WellNamed := .named (by decide +kernel) (by simp)
  exact .named (by decide +kernel) (by simp [text])

/-- A form field, and a list of form fields, may be created by the text of its type. -/
theorem isCreatedText_form :
    IsCreatedText alphabet formFieldType ∧
      IsCreatedText alphabet ("System.Collections.Generic.List<" ++ formFieldType ++ ">") := by
  refine ⟨⟨_, _, formField_wellNamed, formField_isTypeOf, formField_render⟩,
    "System.Collections.Generic.List", [formField], .named (by decide +kernel) ?_, ?_, ?_⟩
  · simp [formField_wellNamed]
  · simp (disch := decide +kernel) [isTypeOf, areTypesOf, formField_isTypeOf,
      isTypeReference_of_capitals]
  · simp [TypeSyntax.render, TypeSyntax.renderFollowing, formField_render]

/-- The value that a method gives back when it got none is printed legibly, where the type of its
value is. -/
theorem legible_fallback {shape : ReturnShape} (wellNamed : shape.WellNamed)
    (known : ∀ type ∈ shape.value, isTypeOf alphabet type = true) {kind : ResultKind}
    (resulting : resultKind? shape = some kind) : kind.fallback.Legible alphabet := by
  have array {element : String} (typed : IsTypeText alphabet element) :
      (emptyArray element).Legible alphabet := by
    simp (disch := decide +kernel) [emptyArray, typed, IsCapitalName.isFreeName]
  have byte : IsTypeText alphabet "byte" := by
    refine ⟨.named "byte" [], .named (by decide +kernel) (by simp), ?_, ?_⟩
    · simp [isTypeOf, areTypesOf, isTypeReference_keyword]
    · simp [TypeSyntax.render]
  obtain ⟨type, typed, kinds⟩ := Option.map_eq_some_iff.mp resulting
  cases kind with
  | truth => simp [ResultKind.fallback]
  | text => simp [ResultKind.fallback]
  | bytes => exact array byte
  | deserialized found =>
    have own : ResultKind.ofType type =
        .deserialized (type.arrayElement?.map TypeSyntax.render) :=
      ResultKind.ofType_of_other (by simp [kinds]) (by simp [kinds]) (by simp [kinds])
    rw [kinds] at own
    obtain rfl := ResultKind.deserialized.inj own
    have typeKnown := known type typed
    have typeNamed := wellNamed.value type typed
    cases type with
    | array element =>
      cases typeNamed with
      | array inner => exact array ⟨element, inner, typeKnown, rfl⟩
    | _ => simp [TypeSyntax.arrayElement?, ResultKind.fallback]

/-! ### Statements -/

/-- The names of the parameters and of the stubs that a method is printed with are free. -/
structure FreeNames (alphabet : NameAlphabet) (method : Method) (shape : ReturnShape)
    (names : StubNames) : Prop where
  parameter : ∀ parameter ∈ method.parameters,
    alphabet.IsFreeName (escapedIdentifier parameter.name).toList
  serialize : ∀ request, serializeRequest? method = some request →
    alphabet.IsFreeName (names.serialize.getD "").toList
  deserialize : ∀ request, deserializeRequest? method shape = some request →
    alphabet.IsFreeName (names.deserialize.getD "").toList

/-- The names that an extracted method is printed with are free, where it is printed legibly. A
parameter is escaped where its name is reserved, and a stub has a word of its own in front. -/
theorem freeNames_of_printedLegibly
    (joins : ∀ c, alphabet.starts c = true → alphabet.continues c = true)
    (identified : alphabet.IsIdentifier method.name.toList)
    (named : ∀ parameter ∈ method.parameters, alphabet.IsName parameter.name.toList)
    (printed : PrintedLegibly alphabet client method endpoint) (stubs : List Prototype) :
    FreeNames alphabet method endpoint.returnShape
      (stubNames stubs method endpoint.returnShape) := by
  have name (custom : method.serializer = .custom) : alphabet.IsName method.name.toList := by
    rcases NameAlphabet.isIdentifier_iff.mp identified with plain | ⟨marked, _⟩
    · exact plain
    · exact absurd marked (printed.unmarked custom)
  constructor
  case parameter =>
    exact fun parameter among =>
      isFreeName_escapedIdentifier (named parameter among) (printed.awaitless parameter among)
  case serialize =>
    intro request asked
    obtain ⟨custom, content, _, _, rfl⟩ := serializeRequest_eq_some.mp asked
    rw [stubNames_serialize asked]
    exact isFreeName_stub joins (name custom) List.mem_cons_self rfl _
  case deserialize =>
    intro request asked
    obtain ⟨custom, value, _, _, rfl⟩ := deserializeRequest_eq_some.mp asked
    rw [stubNames_deserialize asked]
    exact isFreeName_stub joins (name custom) (List.mem_cons_of_mem _ List.mem_cons_self) rfl _

variable {shape : ReturnShape}

/-- A parameter with a free name is printed legibly. -/
theorem legible_parameterExpr (free : FreeNames alphabet method shape names)
    {parameter : Parameter} (among : parameter ∈ method.parameters) :
    (parameterExpr parameter).Legible alphabet :=
  isPath_of_free (free.parameter parameter among)

/-- The token that is handed on is printed legibly, as it is a parameter. -/
theorem legible_cancellationArgument (free : FreeNames alphabet method shape names) :
    allLegible alphabet (cancellationArgument method) := by
  unfold cancellationArgument
  cases chosen : method.cancellationParameter? with
  | none => simp
  | some parameter =>
    simpa using legible_parameterExpr free (List.mem_of_find?_eq_some chosen)

/-- The holes of an interpolated string are those of parameters. -/
theorem hole_of_interpolations {path name : String} {parts : List InterpolationPart}
    {format : Option String} (member : parts ∈ interpolations method path)
    (inside : .hole name format ∈ parts) :
    ∃ parameter ∈ method.parameters, name = escapedIdentifier parameter.name := by
  rcases eq_of_mem_interpolations member with rfl | ⟨parameter, among, template, rfl⟩
  · exact hole_of_urlParts inside
  · simp only [headerParts, List.mem_cons, reduceCtorEq, List.not_mem_nil, or_false, false_or,
      InterpolationPart.hole.injEq] at inside
    exact ⟨parameter, among, inside.1⟩

/-- An interpolated string that is printed readably is printed legibly: its texts are escaped, and
its holes are names that can be read. -/
theorem legible_interpolated (free : FreeNames alphabet method shape names) {path : String}
    {parts : List InterpolationPart} (member : parts ∈ interpolations method path)
    (readable : ∀ part ∈ parts, part.Readable) :
    (Expr.interpolated parts).Legible alphabet := by
  refine ⟨fun part inside => ?_, interpolations_separated member⟩
  cases part with
  | text value => exact readable _ inside
  | hole name format =>
    obtain ⟨parameter, among, rfl⟩ := hole_of_interpolations member inside
    exact ⟨free.parameter parameter among, readable _ inside⟩

/-- The address is printed legibly when its path is, and the texts and formats that are put together
for it. -/
theorem legible_urlExpr (free : FreeNames alphabet method shape names)
    (printed : PrintedLegibly alphabet client method endpoint) :
    (urlExpr method endpoint.pathTemplate).Legible alphabet := by
  unfold urlExpr
  split
  · exact printed.path
  · rename_i parametrized
    have member : urlParts method endpoint.pathTemplate ∈
        interpolations method endpoint.pathTemplate := by
      simp [interpolations, parametrized]
    exact legible_interpolated free member (printed.strings _ member)

/-- The statements that add headers are printed legibly when their fallbacks and names are. All the
rest in them is fixed text. -/
theorem legible_headerBlocks (free : FreeNames alphabet method shape names)
    (printed : PrintedLegibly alphabet client method endpoint) :
    EachIn (Expr.Legible alphabet) (headerBlocks method) := by
  intro expr member
  obtain ⟨stmt, header, inside⟩ := mem_expressionsOf.mp member
  obtain ⟨parameter, among, made⟩ := List.mem_filterMap.mp header
  obtain ⟨template, given, rfl⟩ := Option.map_eq_some_iff.mp made
  have listed : headerParts parameter template ∈ interpolations method endpoint.pathTemplate :=
    List.mem_append_right _ (List.mem_filterMap.mpr ⟨parameter, among, by simp [given]⟩)
  have pair : (headerPair parameter template).Legible alphabet :=
    legible_interpolated free listed (printed.strings _ listed)
  have fallback := printed.fallbacks parameter among template given
  have block : ∀ expr ∈ (headerBlock parameter template).expressions, expr.Legible alphabet := by
    simpa (disch := decide +kernel) [headerBlock, headerValue, Expr.callMember, Expr.text, pair,
      lineEnds, IsCapitalName.isFreeName] using fallback
  exact block expr inside

/-- The statements that make the content are printed legibly, for a form and for every serializer.
-/
theorem legible_contentStmts (free : FreeNames alphabet method shape names) :
    EachIn (Expr.Legible alphabet) (contentStmts method names) := by
  have type : (Literal.text "application/json").Legible := by
    decide
  cases chosen : method.contentParameter? with
  | none => simp [contentStmts, chosen]
  | some parameter =>
    obtain ⟨among, carries⟩ := contentParameter_carries chosen
    have own := legible_parameterExpr free among
    rcases carries with bound | bound
    · have serialized : (serializeCall method.serializer names
          (parameterExpr parameter)).Legible alphabet := by
        cases serializer : method.serializer with
        | newtonsoft | systemTextJson =>
          simp (disch := decide +kernel) [serializeCall, Expr.callMember, own,
            IsCapitalName.isFreeName]
        | custom =>
          have asked := serializeRequest_eq_some.mpr ⟨serializer, parameter, chosen, bound, rfl⟩
          have stub := isPath_of_free (free.serialize _ asked)
          simp [serializeCall, Expr.callName, own, stub]
      simpa (disch := decide +kernel) [contentStmts, chosen, bound, jsonContent, serialized,
        requestContent, Expr.text, IsCapitalName.isFreeName] using type
    · simp (disch := decide +kernel) [contentStmts, chosen, bound, formContent, addFormField,
        publicProperties, isPlainProperty, requestContent, Expr.callMember, own,
        isCreatedText_form, IsCapitalName.isFreeName]

/-- The reading of the response is printed legibly when the member that reads it has a capitalised
name. -/
theorem legible_readContent (free : FreeNames alphabet method shape names) (client : Client)
    {reader : String} (capital : IsCapitalName reader.toList) :
    (readContent client method reader).Legible alphabet := by
  have token : allLegible alphabet (readArguments client method) := by
    unfold readArguments
    split
    · exact legible_cancellationArgument free
    · simp
  simp (disch := decide +kernel) [readContent, Expr.callMember, token, capital.isFreeName,
    IsCapitalName.isFreeName]

/-- The statement that gives the result is printed legibly when its type is spelled as a type. Of
the kinds of results only the deserialized one has the type in it. -/
theorem legible_giveResult (free : FreeNames alphabet method shape names) (client : Client)
    {type : TypeSyntax} (typed : shape.value = some type)
    (spelled : IsTypeText alphabet type.render) :
    ∀ expr ∈ (giveResult client method names type).expressions, expr.Legible alphabet := by
  have read {reader : String} (capital : IsCapitalName reader.toList) :=
    legible_readContent free client capital
  unfold giveResult
  cases kind : ResultKind.ofType type with
  | truth => simp
  | text | bytes =>
    simp (disch := decide +kernel) [read]
  | deserialized element =>
    have deserialized :
        (deserializeCall method.serializer names type.render).Legible alphabet := by
      cases serializer : method.serializer with
      | newtonsoft | systemTextJson =>
        simp (disch := decide +kernel) [deserializeCall, spelled, IsCapitalName.isFreeName]
      | custom =>
        have asked := deserializeRequest_eq_some.mpr
          ⟨serializer, type, typed, by rw [kind]; rfl, rfl⟩
        have stub := isPath_of_free (free.deserialize _ asked)
        simp [deserializeCall, Expr.callName, stub]
    have keyword : (Expr.name "string").IsKeywordType := by
      simp only [Expr.IsKeywordType]
      decide
    simp (disch := decide +kernel) [hasContent, Expr.callMember, read, deserialized, keyword,
      IsCapitalName.isFreeName]

/-- The statements that deal with the response are printed legibly, whatever the shape of the
result. -/
theorem legible_responseStmts (free : FreeNames alphabet method endpoint.returnShape names)
    (wellNamed : endpoint.returnShape.WellNamed)
    (printed : PrintedLegibly alphabet client method endpoint) :
    EachIn (Expr.Legible alphabet) (responseStmts client method endpoint.returnShape names) := by
  have check : ∀ expr ∈ (statusCheck method (resultKind? endpoint.returnShape)).expressions,
      expr.Legible alphabet := by
    unfold statusCheck
    split
    · rename_i kind resulting _
      have fallback := legible_fallback wellNamed printed.value resulting
      simp (disch := decide +kernel) [fallback, IsCapitalName.isFreeName]
    · simp (disch := decide +kernel) [Expr.callMember, IsCapitalName.isFreeName]
  unfold responseStmts
  rw [eachIn_cons]
  refine ⟨check, ?_⟩
  cases typed : endpoint.returnShape.value with
  | none => simp
  | some type =>
    have spelled : IsTypeText alphabet type.render :=
      ⟨type, wellNamed.value type typed, printed.value type typed, rfl⟩
    simpa using legible_giveResult free client typed spelled

/-- The statement around the request is printed legibly, which brings together its address, headers,
content and response. -/
theorem legible_requestStmt (free : FreeNames alphabet method endpoint.returnShape names)
    (wellNamed : endpoint.returnShape.WellNamed)
    (printed : PrintedLegibly alphabet client method endpoint) :
    ∀ expr ∈ (requestStmt client method endpoint names).expressions, expr.Legible alphabet := by
  have verb : alphabet.IsFreeName endpoint.verb.member.toList := by
    cases endpoint.verb <;> exact IsCapitalName.isFreeName (by decide)
  have parts := And.intro (legible_headerBlocks free printed)
    (And.intro (legible_contentStmts free) (legible_responseStmts free wellNamed printed))
  have token := legible_cancellationArgument free
  simpa (disch := decide +kernel) [requestStmt, sendStmt, Expr.callMember, verb, token,
    IsCapitalName.isFreeName, EachIn, or_imp, forall_and] using parts

/-- Everything in a generated method is printed legibly, where the names of its parameters and
stubs are free and what comes from the declaration as it is is legible. -/
theorem legible_methodBody (free : FreeNames alphabet method endpoint.returnShape names)
    (wellNamed : endpoint.returnShape.WellNamed)
    (printed : PrintedLegibly alphabet client method endpoint) :
    EachIn (Expr.Legible alphabet) (methodBody client method endpoint names) := by
  have watch : EachIn (Expr.Legible alphabet) (startWatch method) := by
    unfold startWatch
    split <;> simp (disch := decide +kernel) [Expr.callMember, IsCapitalName.isFreeName]
  have reported : (reportedName client method).Legible alphabet := printed.reported
  have handler : EachIn (Expr.Legible alphabet) (exceptionHandler client method) := by
    unfold exceptionHandler
    split <;> simp (disch := decide +kernel) [Expr.callName, reported]
  have cleanup : ∀ expr ∈ cleanupExpressions (slowCallCleanup client method),
      expr.Legible alphabet := by
    unfold slowCallCleanup
    split <;> simp (disch := decide +kernel) [slowCallCheck, Expr.callMember, Expr.callName,
      reported, elapsed, IsCapitalName.isFreeName]
  have ending : EachIn (Expr.Legible alphabet) (finalReturn method endpoint.returnShape) := by
    unfold finalReturn
    split
    · simp
    · rename_i kind resulting
      have fallback := legible_fallback wellNamed printed.value resulting
      split <;> simp [fallback]
  have request := legible_requestStmt free wellNamed printed
  have stmts := And.intro watch (And.intro request (And.intro handler (And.intro cleanup ending)))
  have address := legible_urlExpr free printed
  simpa [methodBody, address, EachIn, or_imp, forall_and] using stmts

end Legible

end TypedClients.Generation
