import TypedClients.Proofs.Generation.Legibility
import TypedClients.Proofs.Generation.Lines

/-!
# The structure of printed expressions

Hardly any brackets are printed in a generated method, and none are missing: whatever a method
sends and gives back, each operand in it binds tight enough for the place where it stands. So the
expressions of a method are read back, each with the structure from which it was printed, wherever
the names, types and literals in them are printed legibly. A format can close the literal in which
it stands, and then the rest of the literal is read as something else.
-/

namespace TypedClients.Generation

open CSharp Extraction

/-! ## Operands bind tight enough -/

section Graded

variable (client : Client) (method : Method) (shape : ReturnShape) (names : StubNames)

/-- The use of a parameter is graded, and may stand before any suffix. -/
@[simp] theorem graded_parameterExpr (parameter : Parameter) :
    (parameterExpr parameter).Graded ∧ (parameterExpr parameter).level = 6 := by
  simp [parameterExpr, Expr.level]

/-- The token that is handed on is graded, as it is a parameter. -/
@[simp] theorem allGraded_cancellationArgument : allGraded (cancellationArgument method) := by
  unfold cancellationArgument
  cases method.cancellationParameter? <;> simp

/-- The reading of the response is graded. -/
theorem graded_readContent (reader : String) : (readContent client method reader).Graded := by
  unfold readContent readArguments
  split <;> simp [Expr.callMember, Expr.level]

/-- The value returned on a failure is graded, for every kind of result. -/
theorem graded_fallback (kind : ResultKind) : kind.fallback.Graded := by
  rcases kind with _ | _ | _ | (_ | element) <;>
    simp [ResultKind.fallback, emptyArray, Expr.level]

/-- The address is graded, as a text literal or as an interpolated string. -/
theorem graded_urlExpr (path : String) : (urlExpr method path).Graded := by
  unfold urlExpr
  split <;> simp [Expr.text]

/-- The expressions of the statements that add headers are graded. -/
theorem graded_headerBlocks : EachIn Expr.Graded (headerBlocks method) := by
  refine forall_expressionsOf_headerBlocks ?_
  simp [headerBlock, headerPair, headerValue, Expr.callMember, Expr.text, Expr.level,
    BinaryOp.level]

/-- The expressions of the statements that make the content are graded. -/
theorem graded_contentStmts : EachIn Expr.Graded (contentStmts method names) := by
  unfold contentStmts
  split
  · simp
  · split
    · simp [formContent, requestContent, publicProperties, isPlainProperty, addFormField,
        parameterExpr, Expr.callMember, Expr.level, BinaryOp.level]
    · cases serializer : method.serializer <;>
        simp [jsonContent, serializeCall, requestContent, Expr.callMember, Expr.callName,
          Expr.text, Expr.level]

/-- The expressions of the statements that deal with the response are graded, whatever the shape of
the result. -/
theorem graded_responseStmts : EachIn Expr.Graded (responseStmts client method shape names) := by
  have check : ∀ expr ∈ (statusCheck method (resultKind? shape)).expressions, expr.Graded := by
    unfold statusCheck
    split <;> simp [graded_fallback, Expr.callMember, Expr.level]
  have deserialize (type : String) :
      (deserializeCall method.serializer names type).Graded := by
    cases method.serializer <;> simp [deserializeCall, Expr.callName, Expr.level]
  have result (type : TypeSyntax) :
      ∀ expr ∈ (giveResult client method names type).expressions, expr.Graded := by
    unfold giveResult
    split <;> simp [hasContent, deserialize, graded_readContent, Expr.callMember, Expr.level,
      BinaryOp.level]
  unfold responseStmts
  rw [eachIn_cons]
  refine ⟨check, ?_⟩
  split
  · simp
  · simpa using result _

/-- In a generated method each operand binds tight enough for its operator, and nothing with an
operator has a suffix. -/
theorem graded_methodBody (endpoint : Endpoint) :
    EachIn Expr.Graded (methodBody client method endpoint names) := by
  have watch : EachIn Expr.Graded (startWatch method) := by
    unfold startWatch
    split <;> simp [Expr.callMember, Expr.level]
  have handler : EachIn Expr.Graded (exceptionHandler client method) := by
    unfold exceptionHandler
    split <;> simp [reportedName, Expr.callName, Expr.text, Expr.level]
  have cleanup : ∀ expr ∈ cleanupExpressions (slowCallCleanup client method), expr.Graded := by
    unfold slowCallCleanup
    split <;> simp [slowCallCheck, reportedName, elapsed, Expr.callMember, Expr.callName,
      Expr.text, Expr.level, BinaryOp.level]
  have ending : EachIn Expr.Graded (finalReturn method endpoint.returnShape) := by
    unfold finalReturn
    split
    · simp
    · split <;> simp [graded_fallback]
  have parts := And.intro (graded_headerBlocks method)
    (And.intro (graded_contentStmts method names)
      (graded_responseStmts client method endpoint.returnShape names))
  have request :
      ∀ expr ∈ (requestStmt client method endpoint names).expressions, expr.Graded := by
    simpa [requestStmt, sendStmt, Expr.callMember, Expr.level, EachIn, or_imp, forall_and]
      using parts
  have stmts := And.intro watch (And.intro request (And.intro handler (And.intro cleanup ending)))
  simpa [methodBody, graded_urlExpr, EachIn, or_imp, forall_and] using stmts

end Graded

/-! ## Reading generated methods -/

/-- What becomes of the expressions of a generated method when its text is read. -/
structure KeepsStructure (alphabet : NameAlphabet) (client : Client) (method : Method)
    (definition : MethodDef) : Prop where
  /-- Each of them stands in a line of the method, in front of something that closes it. -/
  printed : ∀ expr ∈ expressionsOf definition.body, expr.StandsIn definition.steps
  /-- No operand binds looser than its operator, and nothing with an operator has a suffix. -/
  graded : ∀ expr ∈ expressionsOf definition.body, expr.Graded
  /-- Where all is printed legibly, each expression is read as what it was printed from, up to
  whatever closes it. -/
  readBack : ∀ endpoint, method.endpoint? = some endpoint →
    PrintedLegibly alphabet client method endpoint →
      ∀ expr ∈ expressionsOf definition.body, ∀ rest, Closes rest →
        readExpression? alphabet (expr.print.toList ++ rest) = some (expr.spelledOut, rest)

/-- In the methods that are generated for a declaration, one for every method with an endpoint, no
operand binds looser than its operator, and nothing with an operator has a member, a call or an
element behind it. Each expression is printed in front of something that closes it, and is read up
to there as what it was printed from, where the names, types and literals of the method are printed
legibly. Methods and parameters may have any identifiers for names, and each character that begins
a name may also go on with one. -/
theorem expressions_keep_structure (alphabet : NameAlphabet)
    (joins : ∀ c, alphabet.starts c = true → alphabet.continues c = true)
    (declared : ClassDeclaration) (defaults : Defaults)
    (identified : ∀ method ∈ declared.methods, alphabet.IsIdentifier method.name.toList)
    (identifiers : ∀ method ∈ declared.methods, ∀ parameter ∈ method.parameters,
      alphabet.IsIdentifier parameter.name.toList) :
    List.Forall₂ (KeepsStructure alphabet (extractClient declared defaults))
      (extractClient declared defaults).eligibleMethods
      (clientUnit (extractClient declared defaults)).body.methods := by
  have each := (List.forall₂_and_left _ _).mpr ⟨fun _ eligible => eligible,
    forall₂_generated (extractClient declared defaults) []
      (extractClient declared defaults).methods⟩
  refine each.imp ?_
  rintro method definition ⟨eligible, endpoint, stubs, found, _⟩
  have member := List.mem_of_mem_filter eligible
  have name : alphabet.IsIdentifier method.name.toList := by
    obtain ⟨source, sourced, rfl⟩ := List.mem_map.mp member
    exact identified source sourced
  constructor
  case printed =>
    exact fun expr inBody => ((stands_in_bodySteps _ expr inBody).braced).cons _
  case graded =>
    exact graded_methodBody _ method _ endpoint
  case readBack =>
    intro other again printed expr inBody rest closes
    obtain rfl := Option.some.inj (found.symm.trans again)
    have free := freeNames_of_printedLegibly joins name (extracted_named identifiers member)
      printed stubs
    have legible := legible_methodBody free (extracted_wellNamed member found) printed expr inBody
    exact readExpression?_print (graded_methodBody _ method _ endpoint expr inBody) legible closes

/-- A class with a custom serializer, and with a path, a body, a header and a query. -/
def bookings : ClassDeclaration where
  scope := ""
  imports := []
  name := "Bookings"
  attributes := [⟨"ApiClientGenerator", [⟨some "Serialization", .symbol "Serialization.Custom"⟩]⟩]
  methods :=
    [⟨"SaveAsync", "Task<Booking[]>", [literalAttribute "Post" "/rooms/\x7bclass\x7d"],
      [⟨"@class", "string", []⟩, ⟨"booking", "Booking", [⟨"Body", []⟩]⟩,
       ⟨"tag", "string", [literalAttribute "Header" "X-Tag: none"]⟩,
       ⟨"since", "DateTime", [literalAttribute "Fmt" "yyyy-MM-dd HH:mm"]⟩]⟩]

/-- The bookings satisfy what the general theorem asks for, so the expressions of their file are
read back with their structure. Among them are a reserved word, a header and a format. -/
theorem bookings_keep_structure :
    (∀ c, asciiNames.starts c = true → asciiNames.continues c = true) ∧
      (∀ method ∈ bookings.methods, asciiNames.IsIdentifier method.name.toList) ∧
      (∀ method ∈ bookings.methods, ∀ parameter ∈ method.parameters,
        asciiNames.IsIdentifier parameter.name.toList) ∧
      (∀ method ∈ (extractClient bookings .standard).eligibleMethods,
        ∀ endpoint ∈ method.endpoint?,
          PrintedLegibly asciiNames (extractClient bookings .standard) method endpoint) ∧
      List.Forall₂ (KeepsStructure asciiNames (extractClient bookings .standard))
        (extractClient bookings .standard).eligibleMethods
        (clientUnit (extractClient bookings .standard)).body.methods := by
  have joins : ∀ c, asciiNames.starts c = true → asciiNames.continues c = true :=
    fun _ => asciiNames_joins
  have identified : ∀ method ∈ bookings.methods, asciiNames.IsIdentifier method.name.toList := by
    decide +kernel
  have identifiers : ∀ method ∈ bookings.methods, ∀ parameter ∈ method.parameters,
      asciiNames.IsIdentifier parameter.name.toList := by
    decide +kernel
  exact ⟨joins, identified, identifiers, by decide +kernel,
    expressions_keep_structure asciiNames joins bookings .standard identified identifiers⟩

/-- A class with a format that closes the literal in which it stands, and opens another one. -/
def comparisons : ClassDeclaration :=
  singleMethodClass "/list"
    [⟨"at", "DateTime", [literalAttribute "Fmt" "yyyy\x7d\" == $\"\x7bat"]⟩]

/-- A comparison of the strings that are left then. -/
def comparedStrings : Expr :=
  .binary (.interpolated [.text "/list?at=", .hole "at" (some "yyyy")]) .equal
    (.interpolated [.hole "at" none])

/-- The address of such a method is printed like the comparison, and read as it. So a format that is
no plain text can change the structure of an expression. -/
theorem comparison_is_read_for_address :
    (∀ method ∈ comparisons.methods, asciiNames.IsIdentifier method.name.toList) ∧
      (∀ method ∈ comparisons.methods, ∀ parameter ∈ method.parameters,
        asciiNames.IsIdentifier parameter.name.toList) ∧
      ∃ definition ∈ (clientUnit (extractClient comparisons .standard)).body.methods,
        ∃ parts ∈ interpolationsIn definition.body,
          (Expr.interpolated parts).print =
              "$\"/list?at=\x7bat:yyyy\x7d\" == $\"\x7bat\x7d\"" ∧
            readExpression? asciiNames (Expr.interpolated parts).print.toList =
              some (comparedStrings.spelledOut, []) ∧
            comparedStrings.spelledOut ≠ (Expr.interpolated parts).spelledOut := by
  have address : ∃ definition ∈ (clientUnit (extractClient comparisons .standard)).body.methods,
      ∃ parts ∈ interpolationsIn definition.body, (Expr.interpolated parts).print =
        "$\"/list?at=\x7bat:yyyy\x7d\" == $\"\x7bat\x7d\"" := by
    decide +kernel
  obtain ⟨definition, generated, parts, emitted, printed⟩ := address
  have alike : comparedStrings.print = "$\"/list?at=\x7bat:yyyy\x7d\" == $\"\x7bat\x7d\"" := by
    decide +kernel
  have graded : comparedStrings.Graded := by
    simp [comparedStrings, Expr.level, BinaryOp.level]
  have legible : comparedStrings.Legible asciiNames := by
    have strings : (∀ part ∈ [.text "/list?at=", .hole "at" (some "yyyy")],
        InterpolationPart.Legible asciiNames part) ∧
          InterpolationPart.Legible asciiNames (.hole "at" none) := by
      decide +kernel
    simpa [comparedStrings, Separated, printedParts] using strings
  have read := readExpression?_print graded legible Closes.nil
  rw [alike, ← printed, List.append_nil] at read
  exact ⟨by decide +kernel, by decide +kernel, definition, generated, parts, emitted, printed, read,
    by simp [comparedStrings, Expr.spelledOut]⟩

end TypedClients.Generation
