import TypedClients.Proofs.CSharp.Lines
import TypedClients.Proofs.Extraction
import TypedClients.Proofs.Generation.ClientUnit
import TypedClients.Proofs.ReturnShape

/-!
# The lines of a generated client

Everything that is generated for a client is plain when the names, the types and the formats that
it is made of stay on one line: a generated line begins with a word of its own or with the name of
a type, and the texts of the client stand behind. So the layout of its file is that of its steps,
whichever of its declarations are there.

`OneLine` is the hypothesis for parameters, methods, clients and the names of stubs. Every lemma
takes it for what it is about and gives it to the parts, down to the words of an expression.
-/

namespace TypedClients

open CSharp Layout Text

/-- A parameter that is written on one line. -/
structure Parameter.OneLine (parameter : Parameter) : Prop where
  name : Unbroken parameter.name
  typeText : Unbroken parameter.typeText
  formatSpecifier : ∀ format ∈ parameter.formatSpecifier, Unbroken format

/-- A method with all names and types on one line. What it only quotes is escaped, and its return
type was read. -/
structure Method.OneLine (method : Method) : Prop where
  name : Unbroken method.name
  parameters : ∀ parameter ∈ method.parameters, parameter.OneLine

/-- What becomes the content of a method is one of its parameters. -/
theorem Method.OneLine.contentParameter {method : Method} {parameter : Parameter}
    (plain : method.OneLine) (chosen : method.contentParameter? = some parameter) :
    parameter.OneLine := by
  unfold Method.contentParameter? at chosen
  split_ifs at chosen
  have member : parameter ∈ method.contentParameters := List.mem_of_mem_head? chosen
  exact plain.parameters parameter (List.mem_filter.mp member).1

/-- A client with all names and types on one line. -/
structure Client.OneLine (client : Client) : Prop where
  scope : Unbroken client.scope
  className : Unbroken client.className
  imports : ∀ name ∈ client.imports, Unbroken name
  methods : ∀ method ∈ client.methods, method.OneLine

/-! ## Types -/

namespace TypeSyntax

/-- A name of a type begins with a letter or a mark, and stays on its line, since none of its
characters is a blank, a brace or a line end. -/
theorem IsTypeName.plainLine {name : String} (rule : IsTypeName name.toList) : PlainLine name := by
  cases chars : name.toList with
  | nil => exact absurd chars rule.nonempty
  | cons first rest =>
    have named := rule.isNameChar
    rw [chars] at named
    have other : ∀ mark ∈ [' ', '{', '}', '\r', '\n'],
        TypeSyntax.isNameChar mark = false := by
      intro mark member
      simp only [List.mem_cons, List.not_mem_nil, or_false] at member
      rcases member with rfl | rfl | rfl | rfl | rfl <;> decide
    refine ⟨first, rest, chars, fun member => ?_, fun member => ?_⟩
    · exact absurd (named first List.mem_cons_self) (by simp [other first member])
    · exact absurd (named '\n' (List.mem_cons_of_mem _ member)) (by simp [other '\n' (by simp)])

/-- A type with names only is written on one line, as a name has no line feed in it. The induction
is on the type, with one for its arguments. -/
theorem WellNamed.unbroken {type : TypeSyntax} (wellNamed : type.WellNamed) :
    Unbroken type.render := by
  induction wellNamed with
  | @named name arguments rule _ each =>
    have head := rule.plainLine.unbroken
    cases arguments with
    | nil => simpa only [render] using head
    | cons first others =>
      have following : ∀ rest ⊆ others, Unbroken (renderFollowing rest) := by
        intro rest among
        induction rest with
        | nil => exact .of_chars (by decide)
        | cons argument rest inductionHypothesis =>
          have own := each argument (List.mem_cons_of_mem _ (among List.mem_cons_self))
          have separated : Unbroken (", " ++ argument.render) :=
            .append (.of_chars (by decide)) own
          exact separated.append
            (inductionHypothesis fun other member => among (List.mem_cons_of_mem _ member))
      have opened := (head.append (.of_chars (by decide) : Unbroken "<")).append
        (each first List.mem_cons_self)
      have inside := opened.append (following others (List.Subset.refl others))
      simpa only [render] using inside.append (.of_chars (by decide) : Unbroken ">")
  | array _ inner =>
    simpa only [render] using inner.append (.of_chars (by decide) : Unbroken "[]")
  | nullable _ inner =>
    simpa only [render] using inner.append (.of_chars (by decide) : Unbroken "?")

end TypeSyntax

namespace ReturnShape

/-- A return type begins with a name and stays on its line. -/
theorem WellNamed.plainLine {shape : ReturnShape} (wellNamed : shape.WellNamed) :
    PlainLine shape.render := by
  have head := wellNamed.wrapper.plainLine
  unfold render
  cases given : shape.value with
  | none => exact head
  | some value =>
    have opened := head.append (.of_chars (by decide) : Unbroken "<")
    exact (opened.append (wellNamed.value value given).unbroken).append (.of_chars (by decide))

end ReturnShape

namespace Extraction

/-- The return type of an extracted method was read, so that the type in its shape is well named
whatever the declaration says. -/
theorem extracted_wellNamed {declared : ClassDeclaration} {defaults : Defaults} {method : Method}
    {endpoint : Endpoint} (member : method ∈ (extractClient declared defaults).methods)
    (found : method.endpoint? = some endpoint) : endpoint.returnShape.WellNamed := by
  obtain ⟨source, -, rfl⟩ := List.mem_map.mp member
  have role := endpoint?_eq_some_iff.mp found
  simp only [extractMethod, resolveRole] at role
  split at role
  · cases role
  · split at role
    · cases role
    · cases resolved : ReturnShape.resolve source.returnType with
      | error fault => simp [resolved] at role
      | ok shape =>
        simp only [resolved, Except.ok.injEq] at role
        obtain rfl := role
        exact ReturnShape.wellNamed_of_resolve resolved

end Extraction

namespace Generation

/-! ## Expressions -/

section Method

variable {client : Client} {method : Method} {parameter : Parameter} {names : StubNames}

/-- A parameter on one line is used on one line, with its format. -/
theorem unbroken_parameterExpr (plain : parameter.OneLine) :
    Unbroken (parameterExpr parameter).print :=
  unbroken_escapedIdentifier plain.name

/-- A placeholder is a hole only where a parameter has its name, and every other segment is escaped,
so a part of an address stays on its line. -/
theorem unbroken_segmentPart (plain : method.OneLine) (segment : PathTemplate.Segment) :
    Unbroken (segmentPart method.routeNames segment).print := by
  cases segment with
  | literal text => exact unbroken_escapedInterpolated text
  | placeholder inner =>
    by_cases taken : method.routeNames.contains (PathTemplate.placeholderName inner)
    · simp only [segmentPart, if_pos taken]
      obtain ⟨parameter, member, named⟩ := List.mem_map.mp (List.contains_iff_mem.mp taken)
      have declared := (List.mem_filter.mp member).1
      have name := (plain.parameters parameter declared).name
      rw [named] at name
      exact unbroken_hole (unbroken_escapedIdentifier name) (by simp)
    · simp only [segmentPart, if_neg taken]
      exact unbroken_escapedInterpolated _

/-- The parts of a query string stay on their line when keys, names and formats were given on one.
-/
theorem unbroken_queryParts (separator : String) {parameters : List Parameter}
    (plain : ∀ parameter ∈ parameters, parameter.OneLine) :
    ∀ part ∈ queryParts separator parameters, Unbroken part.print := by
  induction parameters generalizing separator with
  | nil => simp [queryParts]
  | cons parameter others inductionHypothesis =>
    have own := plain parameter List.mem_cons_self
    refine List.forall_mem_cons.mpr ⟨unbroken_escapedInterpolated _, ?_⟩
    refine List.forall_mem_cons.mpr
      ⟨unbroken_hole (unbroken_escapedIdentifier own.name) own.formatSpecifier, ?_⟩
    exact inductionHypothesis "&" fun other member => plain other (List.mem_cons_of_mem _ member)

/-- An address stays on its line whatever is in the path, as the path is escaped. -/
theorem unbroken_urlExpr (plain : method.OneLine) (path : String) :
    Unbroken (urlExpr method path).print := by
  unfold urlExpr
  split_ifs
  · exact unbroken_text path
  · refine unbroken_interpolated fun part member => ?_
    rcases List.mem_append.mp member with inPath | inQuery
    · obtain ⟨segment, -, rfl⟩ := List.mem_map.mp inPath
      exact unbroken_segmentPart plain segment
    · refine unbroken_queryParts "?" (fun parameter declared => ?_) part inQuery
      exact plain.parameters parameter (List.mem_filter.mp declared).1

/-- The token that is handed on stays on its line. -/
theorem unbroken_cancellationArgument (plain : method.OneLine) :
    ∀ argument ∈ cancellationArgument method, Unbroken argument.print := by
  intro argument member
  obtain ⟨parameter, found, rfl⟩ : ∃ parameter, method.cancellationParameter? = some parameter ∧
      parameterExpr parameter = argument := by
    simpa [cancellationArgument] using member
  exact unbroken_parameterExpr (plain.parameters parameter (List.mem_of_find?_eq_some found))

/-- The names of stubs, each on one line. -/
structure StubNames.OneLine (names : StubNames) : Prop where
  serialize : Unbroken (names.serialize.getD "")
  deserialize : Unbroken (names.deserialize.getD "")

/-- The call that writes a value as text stays on its line for every serializer. -/
theorem unbroken_serializeCall (serializer : Serializer) (called : names.OneLine) {value : Expr}
    (given : Unbroken value.print) : Unbroken (serializeCall serializer names value).print := by
  have argument : ∀ own ∈ [value], Unbroken own.print := List.forall_mem_singleton.mpr given
  cases serializer with
  | newtonsoft =>
    exact unbroken_callMember (.of_chars (by decide)) (.of_chars (by decide)) argument
  | systemTextJson =>
    exact unbroken_callMember (.of_chars (by decide)) (.of_chars (by decide)) argument
  | custom => exact unbroken_callName called.serialize argument

/-- The call that reads a value from text stays on its line for every serializer, with the type as
its argument. -/
theorem unbroken_deserializeCall (serializer : Serializer) (called : names.OneLine)
    {type : String} (typed : Unbroken type) :
    Unbroken (deserializeCall serializer names type).print := by
  have argument : ∀ own ∈ [Expr.name "content"], Unbroken own.print :=
    List.forall_mem_singleton.mpr (.of_chars (by decide))
  have type_argument : ∀ own ∈ [type], Unbroken own := List.forall_mem_singleton.mpr typed
  cases serializer with
  | newtonsoft =>
    have callee : Unbroken (Expr.member (.name "Newtonsoft.Json.JsonConvert")
        "DeserializeObject").print :=
      unbroken_member (.of_chars (by decide)) (.of_chars (by decide))
    exact unbroken_call callee type_argument argument
  | systemTextJson =>
    have callee : Unbroken (Expr.member (.name "System.Text.Json.JsonSerializer")
        "Deserialize").print :=
      unbroken_member (.of_chars (by decide)) (.of_chars (by decide))
    exact unbroken_call callee type_argument argument
  | custom => exact unbroken_callName called.deserialize argument

/-- The reading of the response stays on its line. Its only argument is the token, which is a
parameter of the method. -/
theorem unbroken_readContent (plain : method.OneLine) {reader : String}
    (named : Unbroken reader) : Unbroken (readContent client method reader).print := by
  have arguments : ∀ argument ∈ readArguments client method, Unbroken argument.print := by
    unfold readArguments
    split_ifs
    · exact unbroken_cancellationArgument plain
    · simp
  have content : Unbroken (Expr.member (.name "response") "Content").print :=
    unbroken_member (.of_chars (by decide)) (.of_chars (by decide))
  exact unbroken_await (unbroken_callMember content named arguments)

/-- The value of a method that got none, of a type with names only, stays on its line. It has a type
in it when it is an empty array. -/
theorem unbroken_fallback {type : TypeSyntax} (wellNamed : type.WellNamed) :
    Unbroken (ResultKind.ofType type).fallback.print := by
  have empty {element : String} (typed : Unbroken element) :
      Unbroken (emptyArray element).print := by
    have callee : Unbroken (Expr.member (.name "System.Array") "Empty").print :=
      unbroken_member (.of_chars (by decide)) (.of_chars (by decide))
    exact unbroken_call callee (List.forall_mem_singleton.mpr typed) (List.forall_mem_nil _)
  have element : ∀ inner, type.arrayElement? = some inner → Unbroken inner.render := by
    intro inner array
    cases wellNamed with
    | named _ _ => simp [TypeSyntax.arrayElement?] at array
    | nullable _ => simp [TypeSyntax.arrayElement?] at array
    | array own =>
      obtain rfl := Option.some.inj array
      exact own.unbroken
  simp only [ResultKind.ofType]
  split_ifs
  · exact .of_chars (by decide)
  · exact .of_chars (by decide)
  · exact empty (.of_chars (by decide))
  · cases array : type.arrayElement? with
    | none => exact .of_chars (by decide)
    | some inner => exact empty (element inner array)

/-! ## Statements -/

/-- Two statements one after the other, and so on for more. -/
theorem neat_cons {stmt : Stmt} {body : List Stmt} (own : Neat stmt.steps)
    (behind : Neat (bodySteps body)) : Neat (bodySteps (stmt :: body)) :=
  own.append behind

/-- Neat statements behind neat statements are neat. -/
theorem neat_append {first second : List Stmt} (before : Neat (bodySteps first))
    (behind : Neat (bodySteps second)) : Neat (bodySteps (first ++ second)) := by
  rw [bodySteps_append]
  exact before.append behind

/-- One neat statement is neat as a body. -/
theorem neat_single {stmt : Stmt} (own : Neat stmt.steps) : Neat (bodySteps [stmt]) :=
  neat_cons own .empty

/-- A call of a member of something that is named, for its effect. -/
theorem neat_callMember {object : Expr} {name : String} {arguments : List Expr}
    (of : PlainLine object.print) (named : Unbroken name)
    (each : ∀ argument ∈ arguments, Unbroken argument.print) :
    Neat (Stmt.evaluate (.callMember object name arguments)).steps :=
  neat_evaluate (plainLine_call (plainLine_member of named) each)

/-- A failure is answered by the fallback, or becomes an exception. In both cases the steps are
lines of their own, without a blank one among them. -/
theorem neat_statusCheck (method : Method) {kind : Option ResultKind}
    (fallback : ∀ own ∈ kind, Unbroken own.fallback.print) :
    Neat (statusCheck method kind).steps := by
  have ensured : Neat (Stmt.evaluate (.callMember (.name "response") "EnsureSuccessStatusCode"
      [])).steps :=
    neat_callMember (.of_chars (by decide) (by decide)) (.of_chars (by decide))
      (List.forall_mem_nil _)
  unfold statusCheck
  split
  · rename_i own _
    have status : Unbroken (Expr.member (.name "response") "IsSuccessStatusCode").print :=
      unbroken_member (.of_chars (by decide)) (.of_chars (by decide))
    exact neat_whenTrue (unbroken_not status) (neat_single (neat_giveBack (fallback own rfl)))
  · exact ensured

/-- The statement that gives the result is neat for every kind of result. One that deserializes has
two bodies, one inside the other. -/
theorem neat_giveResult (client : Client) (plain : method.OneLine) (called : names.OneLine)
    {type : TypeSyntax} (wellNamed : type.WellNamed) :
    Neat (giveResult client method names type).steps := by
  have text : Unbroken (readContent client method "ReadAsStringAsync").print :=
    unbroken_readContent plain (.of_chars (by decide))
  unfold giveResult
  cases ResultKind.ofType type with
  | truth => exact neat_giveBack (.of_chars (by decide))
  | text => exact neat_giveBack text
  | bytes => exact neat_giveBack (unbroken_readContent plain (.of_chars (by decide)))
  | deserialized element =>
    have status : Unbroken (Expr.member (.name "response") "StatusCode").print :=
      unbroken_member (.of_chars (by decide)) (.of_chars (by decide))
    have content : Unbroken (Expr.member (.name "response") "Content").print :=
      unbroken_member (.of_chars (by decide)) (.of_chars (by decide))
    have filled : Unbroken (Expr.callMember (.name "string") "IsNullOrEmpty"
        [.name "content"]).print :=
      unbroken_callMember (.of_chars (by decide)) (.of_chars (by decide))
        (List.forall_mem_singleton.mpr (.of_chars (by decide)))
    have answered : Unbroken hasContent.print :=
      unbroken_binary .and (unbroken_binary .equal status (.of_chars (by decide)))
        (unbroken_isNotNull content)
    have given := neat_giveBack
      (unbroken_deserializeCall method.serializer called wellNamed.unbroken)
    have read := neat_whenTrue (unbroken_not filled) (neat_single given)
    exact neat_whenTrue answered
      (neat_cons (neat_declare (.of_chars (by decide)) text) (neat_single read))

/-- The fallback of a return type with names only. -/
theorem unbroken_resultKind {shape : ReturnShape} (wellNamed : shape.WellNamed) :
    ∀ kind ∈ resultKind? shape, Unbroken kind.fallback.print := by
  intro kind given
  obtain ⟨type, value, rfl⟩ := Option.map_eq_some_iff.mp given
  exact unbroken_fallback (wellNamed.value type value)

/-- The statements that deal with the response are neat for every shape of the result. -/
theorem neat_responseStmts (client : Client) (plain : method.OneLine) (called : names.OneLine)
    {shape : ReturnShape} (wellNamed : shape.WellNamed) :
    Neat (bodySteps (responseStmts client method shape names)) := by
  have status := neat_statusCheck method (unbroken_resultKind wellNamed)
  unfold responseStmts
  cases value : shape.value with
  | none => exact neat_single status
  | some type =>
    have given := neat_giveResult client plain called (wellNamed.value type value)
    exact neat_body_apart (neat_single status) (neat_single given)
      (List.cons_ne_nil _ _) (List.cons_ne_nil _ _)

/-! ## Content and headers -/

/-- The statements that make a content out of a written value are neat, whichever serializer wrote
it. -/
theorem neat_jsonContent (called : names.OneLine) (declared : parameter.OneLine)
    (serializer : Serializer) : Neat (bodySteps (jsonContent serializer names parameter)) := by
  have serialized := unbroken_serializeCall serializer called (unbroken_parameterExpr declared)
  have content : PlainLine requestContent.print :=
    plainLine_member (.of_chars (by decide) (by decide)) (.of_chars (by decide))
  have arguments : ∀ argument ∈ [Expr.name "json", .name "System.Text.Encoding.UTF8",
      .text "application/json"], Unbroken argument.print :=
    List.forall_mem_cons.mpr ⟨.of_chars (by decide), List.forall_mem_cons.mpr
      ⟨.of_chars (by decide), List.forall_mem_singleton.mpr (unbroken_text _)⟩⟩
  have sent := neat_assign content (unbroken_create
    (.of_chars (by decide) : Unbroken "System.Net.Http.StringContent") arguments)
  exact neat_cons (neat_declare (.of_chars (by decide)) serialized) (neat_single sent)

/-- The statement that adds a field to a form is neat. All of it is fixed text, with the property
and its value under the names of locals. -/
theorem neat_addFormField : Neat addFormField.steps := by
  have name : Unbroken (Expr.member (.name "property") "Name").print :=
    unbroken_member (.of_chars (by decide)) (.of_chars (by decide))
  have text : Unbroken (Expr.callMember (.name "System.Convert") "ToString"
      [.name "propertyValue",
        .name "System.Globalization.CultureInfo.InvariantCulture"]).print :=
    unbroken_callMember (.of_chars (by decide)) (.of_chars (by decide))
      (List.forall_mem_cons.mpr
        ⟨.of_chars (by decide), List.forall_mem_singleton.mpr (.of_chars (by decide))⟩)
  have field := unbroken_create (.of_chars (by decide) : Unbroken formFieldType)
    (List.forall_mem_cons.mpr ⟨name, List.forall_mem_singleton.mpr text⟩)
  exact neat_callMember (.of_chars (by decide) (by decide)) (.of_chars (by decide))
    (List.forall_mem_singleton.mpr field)

/-- The statements that make a form are neat: the loop over the fields stands between braces, with
the test of a field and what is added inside. -/
theorem neat_formContent (declared : parameter.OneLine) :
    Neat (bodySteps (formContent parameter)) := by
  have value := unbroken_parameterExpr declared
  have fieldList : Unbroken ("System.Collections.Generic.List<" ++ formFieldType ++ ">") :=
    (Unbroken.append (.of_chars (by decide)) (.of_chars (by decide))).append (.of_chars (by decide))
  have flags : Unbroken (Expr.binary (.name "System.Reflection.BindingFlags.Public") .bitOr
      (.name "System.Reflection.BindingFlags.Instance")).print :=
    unbroken_binary .bitOr (.of_chars (by decide)) (.of_chars (by decide))
  have typed : Unbroken (Expr.callMember (parameterExpr parameter) "GetType" []).print :=
    unbroken_callMember value (.of_chars (by decide)) (List.forall_mem_nil _)
  have properties : Unbroken (publicProperties (parameterExpr parameter)).print :=
    unbroken_callMember typed (.of_chars (by decide)) (List.forall_mem_singleton.mpr flags)
  have readable : Unbroken (Expr.member (.name "property") "CanRead").print :=
    unbroken_member (.of_chars (by decide)) (.of_chars (by decide))
  have indexes : Unbroken (Expr.callMember (.name "property") "GetIndexParameters" []).print :=
    unbroken_callMember (.of_chars (by decide)) (.of_chars (by decide)) (List.forall_mem_nil _)
  have unindexed := unbroken_binary .equal
    (unbroken_member indexes (.of_chars (by decide) : Unbroken "Length")) (unbroken_int 0)
  have isPlain : Unbroken isPlainProperty.print := unbroken_binary .and readable unindexed
  have propertyValue : Unbroken (Expr.callMember (.name "property") "GetValue"
      [parameterExpr parameter]).print :=
    unbroken_callMember (.of_chars (by decide)) (.of_chars (by decide))
      (List.forall_mem_singleton.mpr value)
  have given : Unbroken (Expr.isNotNull (.name "propertyValue")).print :=
    unbroken_isNotNull (.of_chars (by decide))
  have read := neat_whenTrue isPlain
    (neat_cons (neat_declare (.of_chars (by decide) : Unbroken "propertyValue") propertyValue)
      (neat_single (neat_whenTrue given (neat_single neat_addFormField))))
  have each := neat_forEach (.of_chars (by decide) : Unbroken "property") properties
    (neat_single read)
  have content : PlainLine requestContent.print :=
    plainLine_member (.of_chars (by decide) (by decide)) (.of_chars (by decide))
  have sent := neat_assign content (unbroken_create
    (.of_chars (by decide) : Unbroken "System.Net.Http.FormUrlEncodedContent")
    (List.forall_mem_singleton.mpr (unbroken_name (.of_chars (by decide) : Unbroken "form"))))
  exact neat_cons (neat_declare (.of_chars (by decide))
      (unbroken_create fieldList (List.forall_mem_nil _)))
    (neat_cons (neat_whenTrue (unbroken_isNotNull value) (neat_single each)) (neat_single sent))

/-- The statements that make the content are neat for a form, for a written value and without any.
-/
theorem neat_contentStmts (plain : method.OneLine) (called : names.OneLine) :
    Neat (bodySteps (contentStmts method names)) := by
  unfold contentStmts
  cases chosen : method.contentParameter? with
  | none => exact .empty
  | some parameter =>
    have declared := plain.contentParameter chosen
    dsimp only
    split_ifs
    · exact neat_formContent declared
    · exact neat_jsonContent called declared method.serializer

/-- The block of a header is neat. Its template is only quoted, so that line feeds in it are
escaped. -/
theorem neat_headerBlock (declared : parameter.OneLine) (template : String) :
    Neat (headerBlock parameter template).steps := by
  have pair : Unbroken (headerPair parameter template).print :=
    unbroken_interpolated (List.forall_mem_cons.mpr ⟨unbroken_escapedInterpolated _,
      List.forall_mem_singleton.mpr (unbroken_hole (unbroken_escapedIdentifier declared.name)
        declared.formatSpecifier)⟩)
  have separators : Unbroken (Expr.createArray [.literal (.char ':')]).print :=
    unbroken_createArray (List.forall_mem_singleton.mpr (unbroken_char (by decide)))
  have cut : Unbroken (Expr.callMember (headerPair parameter template) "Split"
      [.createArray [.literal (.char ':')], .literal (.int 2)]).print :=
    unbroken_callMember pair (.of_chars (by decide)) (List.forall_mem_cons.mpr
      ⟨separators, List.forall_mem_singleton.mpr (unbroken_int 2)⟩)
  have part (index : Nat) : Unbroken (Expr.callMember (.element (.name "header") index) "Trim"
      []).print :=
    unbroken_callMember (unbroken_element index (.of_chars (by decide))) (.of_chars (by decide))
      (List.forall_mem_nil _)
  have length : Unbroken (Expr.member (.name "headerText") "Length").print :=
    unbroken_member (.of_chars (by decide)) (.of_chars (by decide))
  have value : Unbroken (headerValue template).print :=
    unbroken_conditional (unbroken_binary .greater length (unbroken_int 0)) (.of_chars (by decide))
      (unbroken_text _)
  have headers : PlainLine (Expr.member (.name "request") "Headers").print :=
    plainLine_member (.of_chars (by decide) (by decide)) (.of_chars (by decide))
  have sent := neat_callMember headers (.of_chars (by decide) : Unbroken "TryAddWithoutValidation")
    (List.forall_mem_cons.mpr ⟨part 0, List.forall_mem_singleton.mpr value⟩)
  exact neat_block (neat_cons (neat_declare (.of_chars (by decide)) cut)
    (neat_cons (neat_declare (.of_chars (by decide)) (part 1)) (neat_single sent)))

/-- The statements that add headers are neat, a block between braces for each. -/
theorem neat_headerBlocks (plain : method.OneLine) : Neat (bodySteps (headerBlocks method)) := by
  refine neat_body fun stmt member => ?_
  obtain ⟨parameter, declared, template, -, rfl⟩ : ∃ parameter ∈ method.parameters,
      ∃ template, parameter.binding.headerTemplate? = some template ∧
        headerBlock parameter template = stmt := by
    simpa [headerBlocks] using member
  exact neat_headerBlock (plain.parameters parameter declared) template

/-! ## Methods -/

/-- The statement that sends the request is neat, with all that deals with the response in it. -/
theorem neat_sendStmt (client : Client) (plain : method.OneLine) (called : names.OneLine)
    {shape : ReturnShape} (wellNamed : shape.WellNamed) :
    Neat (sendStmt client method shape names).steps := by
  have call : Unbroken (Expr.callMember (.name transportField) "SendAsync"
      (.name "request" :: cancellationArgument method)).print :=
    unbroken_callMember (.of_chars (by decide)) (.of_chars (by decide))
      (List.forall_mem_cons.mpr ⟨.of_chars (by decide), unbroken_cancellationArgument plain⟩)
  exact neat_withResource (.of_chars (by decide)) (unbroken_await call)
    (neat_responseStmts client plain called wellNamed)

/-- The statement around the request is neat: the opening, an empty line where something is added,
and the sending. -/
theorem neat_requestStmt (client : Client) (plain : method.OneLine) (called : names.OneLine)
    {endpoint : Endpoint} (wellNamed : endpoint.returnShape.WellNamed) :
    Neat (requestStmt client method endpoint names).steps := by
  have verb : Unbroken endpoint.verb.member := by
    cases endpoint.verb with
    | get => exact .of_chars (by decide)
    | post => exact .of_chars (by decide)
    | put => exact .of_chars (by decide)
    | delete => exact .of_chars (by decide)
  have target (name : String) (named : Unbroken name) :
      PlainLine (Expr.member (.name "request") name).print :=
    plainLine_member (.of_chars (by decide) (by decide)) named
  have chosen := neat_assign (target "Method" (.of_chars (by decide)))
    (unbroken_member
      (unbroken_name (.of_chars (by decide) : Unbroken "System.Net.Http.HttpMethod")) verb)
  have arguments : ∀ argument ∈ [Expr.name "url", .name "System.UriKind.RelativeOrAbsolute"],
      Unbroken argument.print :=
    List.forall_mem_cons.mpr
      ⟨.of_chars (by decide), List.forall_mem_singleton.mpr (.of_chars (by decide))⟩
  have addressed := neat_assign (target "RequestUri" (.of_chars (by decide)))
    (unbroken_create (.of_chars (by decide) : Unbroken "System.Uri") arguments)
  have sent := neat_single (neat_sendStmt client plain called wellNamed)
  have opened := neat_append (neat_cons chosen (neat_single addressed)) (neat_headerBlocks plain)
  exact neat_withResource (.of_chars (by decide))
    (unbroken_create (.of_chars (by decide)) (List.forall_mem_nil _))
    (neat_append (neat_append opened (neat_contentStmts plain called)) sent)

/-- The statement that starts the watch is neat, and so are none where there is no watch. -/
theorem neat_startWatch (method : Method) : Neat (bodySteps (startWatch method)) := by
  have started : Unbroken (Expr.callMember (.name "System.Diagnostics.Stopwatch") "StartNew"
      []).print :=
    unbroken_callMember (.of_chars (by decide)) (.of_chars (by decide)) (List.forall_mem_nil _)
  unfold startWatch
  split_ifs
  · exact neat_single (neat_declare (.of_chars (by decide)) started)
  · exact .empty

/-- A call of a hook, which is told of the method by its quoted name. -/
theorem neat_hook {hook : String} {arguments : List Expr} (named : PlainLine hook)
    (each : ∀ argument ∈ arguments, Unbroken argument.print) :
    Neat (Stmt.evaluate (.callName hook (reportedName client method :: .name "url"
      :: arguments))).steps :=
  neat_evaluate (plainLine_call named (List.forall_mem_cons.mpr
    ⟨unbroken_text _, List.forall_mem_cons.mpr ⟨.of_chars (by decide), each⟩⟩))

/-- The check for a slow call is neat. The threshold is a number, and its digits stay on the line.
-/
theorem neat_slowCallCheck (client : Client) (method : Method) :
    Neat (bodySteps (slowCallCheck client method)) := by
  have taken : Unbroken elapsed.print :=
    unbroken_member (.of_chars (by decide)) (.of_chars (by decide))
  have stopped : Neat (Stmt.evaluate (.callMember (.name "stopwatch") "Stop" [])).steps :=
    neat_callMember (.of_chars (by decide) (by decide)) (.of_chars (by decide))
      (List.forall_mem_nil _)
  have told : Neat (Stmt.evaluate (.callName slowCallHook
      [reportedName client method, .name "url", elapsed])).steps :=
    neat_hook (.of_chars (by decide) (by decide)) (List.forall_mem_singleton.mpr taken)
  exact neat_cons stopped (neat_single
    (neat_whenTrue (unbroken_binary .greater taken (unbroken_int _)) (neat_single told)))

/-- What is done however the `try` is left is neat, if anything is. -/
theorem neat_slowCallCleanup (client : Client) (method : Method) :
    ∀ stmts ∈ slowCallCleanup client method, Neat (bodySteps stmts) := by
  intro stmts present
  rcases slowCallCleanup_cases client method with ⟨_, absent⟩ | ⟨_, cleanup⟩
  · rw [absent] at present
    cases present
  · rw [cleanup] at present
    obtain rfl := Option.some.inj present
    exact neat_slowCallCheck client method

/-- What happens after an exception is neat, whether it ends in a `throw` or not. -/
theorem neat_exceptionHandler (client : Client) (method : Method) :
    Neat (bodySteps (exceptionHandler client method)) := by
  have told : Neat (Stmt.evaluate (.callName errorHook
      [reportedName client method, .name "url", .name "e"])).steps :=
    neat_hook (.of_chars (by decide) (by decide))
      (List.forall_mem_singleton.mpr (unbroken_name (.of_chars (by decide))))
  unfold exceptionHandler
  split_ifs
  · exact neat_cons told (neat_single neat_rethrow)
  · exact neat_single told

/-- The body of a method is neat. The empty line before the last statement stands behind the guard,
and so between two parts that are there. -/
theorem neat_methodBody (client : Client) (plain : method.OneLine) (called : names.OneLine)
    {endpoint : Endpoint} (wellNamed : endpoint.returnShape.WellNamed) :
    Neat (bodySteps (methodBody client method endpoint names)) := by
  have address := neat_declare (.of_chars (by decide) : Unbroken "url")
    (unbroken_urlExpr plain endpoint.pathTemplate)
  have guard := neat_guarded (neat_single (neat_requestStmt client plain called wellNamed))
    (.of_chars (by decide) : Unbroken "System.Exception") (.of_chars (by decide) : Unbroken "e")
    (neat_exceptionHandler client method) (neat_slowCallCleanup client method)
  have opened := neat_cons address (neat_append (neat_startWatch method) (neat_single guard))
  rw [methodBody]
  unfold finalReturn
  cases given : resultKind? endpoint.returnShape with
  | none => simpa using opened
  | some kind =>
    have fallback := neat_giveBack (unbroken_resultKind wellNamed kind given)
    dsimp only
    split_ifs
    · exact neat_body_apart opened (neat_single fallback) (List.cons_ne_nil _ _)
        (List.cons_ne_nil _ _)
    · simpa using opened

/-- A parameter as it is declared. -/
theorem unbroken_param {type name : String} (typed : Unbroken type) (named : Unbroken name) :
    Unbroken (Param.mk type name).print :=
  (typed.append (.of_chars (by decide))).append named

/-- The signature of a method is a plain line, as its return type was read and its parameters are
written one behind the other. -/
theorem plainLine_methodSignature (plain : method.OneLine) {endpoint : Endpoint}
    (wellNamed : endpoint.returnShape.WellNamed) :
    PlainLine (methodSignature method endpoint).print := by
  have taken : ∀ param ∈ (methodSignature method endpoint).params, Unbroken param.print := by
    intro param member
    obtain ⟨parameter, declared, rfl⟩ := List.mem_map.mp member
    have own := plain.parameters parameter declared
    exact unbroken_param own.typeText (unbroken_escapedIdentifier own.name)
  obtain ⟨behind, unbroken, printed⟩ := exists_behind_returnType plain.name taken
  rw [printed]
  exact wellNamed.plainLine.append unbroken

/-- A generated method is neat: its signature on one line, and its body between braces. -/
theorem neat_methodDef (client : Client) (plain : method.OneLine) (called : names.OneLine)
    {endpoint : Endpoint} (wellNamed : endpoint.returnShape.WellNamed) :
    Neat (methodDef client method endpoint names).steps := by
  have modifiers : PlainLine ("public partial async" ++ " ") :=
    (PlainLine.of_chars (by decide) (by decide)).append (.of_chars (by decide))
  have signature := (plainLine_methodSignature plain wellNamed).unbroken
  exact neat_headed (modifiers.append signature) (neat_methodBody client plain called wellNamed)

end Method

end Generation

end TypedClients
