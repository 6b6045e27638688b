import TypedClients.Proofs.Generation.Lines

/-!
# The layout of a generated file

The stubs of a client are plain like its methods, so its whole file is: every line of it, and of a
file with some of its declarations, is indented by the braces that are open around it, and empty
lines stand where they separate two parts.

The lines and formats of the declaration are what the theorem has to ask for: a name with a line
feed in it would break a line. Which sections are there is left open, so that the layout does not
depend on whether a client has hooks, stubs or methods.
-/

namespace TypedClients

open CSharp Layout Text

namespace Generation

/-! ## Stubs -/

/-- A stub is named by its request and a number. -/
theorem unbroken_chosenName {request : StubRequest} (stubs : List Prototype)
    (named : Unbroken request.baseName) : Unbroken (request.chosenName stubs) := by
  rcases request.chosenName_numbered stubs with base | ⟨number, -, numbered⟩
  · rwa [base]
  · rw [numbered]
    exact named.append (.toString_nat number)

/-- A request for a stub on one line. -/
structure StubRequest.OneLine (request : StubRequest) : Prop where
  returnType : Unbroken request.returnType
  baseName : Unbroken request.baseName
  params : ∀ param ∈ request.params, Unbroken param.print

section Stubs

variable {method : Method} {shape : ReturnShape} {request : StubRequest}

/-- The stub that a method asks for to write its content is named and typed on one line. -/
theorem serializeRequest_oneLine (plain : method.OneLine)
    (asked : serializeRequest? method = some request) : request.OneLine := by
  obtain ⟨-, content, chosen, -, rfl⟩ := serializeRequest_eq_some.mp asked
  have declared := plain.contentParameter chosen
  exact ⟨.of_chars (by decide), .append (.of_chars (by decide)) plain.name,
    List.forall_mem_singleton.mpr (unbroken_param declared.typeText (.of_chars (by decide)))⟩

/-- The stub that a method asks for to read its result is named and typed on one line. -/
theorem deserializeRequest_oneLine (plain : method.OneLine) (wellNamed : shape.WellNamed)
    (asked : deserializeRequest? method shape = some request) : request.OneLine := by
  obtain ⟨-, value, given, -, rfl⟩ := deserializeRequest_eq_some.mp asked
  exact ⟨(wellNamed.value value given).unbroken, .append (.of_chars (by decide)) plain.name,
    List.forall_mem_singleton.mpr
      (unbroken_param (.of_chars (by decide)) (.of_chars (by decide)))⟩

/-- The names of the stubs of a method stay on one line, since each is that of the method with a
word in front, and perhaps a number behind. -/
theorem stubNames_oneLine (stubs : List Prototype) (plain : method.OneLine)
    (wellNamed : shape.WellNamed) : (stubNames stubs method shape).OneLine where
  serialize := by
    cases asked : serializeRequest? method with
    | none =>
      simp only [stubNames, asked, Option.map_none, Option.getD_none]
      exact .of_chars (by decide)
    | some request =>
      rw [stubNames_serialize asked]
      exact unbroken_chosenName stubs (serializeRequest_oneLine plain asked).baseName
  deserialize := by
    cases asked : deserializeRequest? method shape with
    | none =>
      simp only [stubNames, asked, Option.map_none, Option.getD_none]
      exact .of_chars (by decide)
    | some request =>
      rw [stubNames_deserialize asked]
      exact unbroken_chosenName _ (deserializeRequest_oneLine plain wellNamed asked).baseName

/-- A partial method begins with its modifiers, so it is a plain line as long as what is written
behind them has no line end. -/
theorem plainLine_partialMethod {returnType name : String} {params : List Param}
    (typed : Unbroken returnType) (named : Unbroken name)
    (taken : ∀ param ∈ params, Unbroken param.print) :
    PlainLine (partialMethod returnType name params).print := by
  have modifiers : PlainLine ("private partial" ++ " ") :=
    (PlainLine.of_chars (by decide) (by decide)).append (.of_chars (by decide))
  obtain ⟨behind, unbroken, printed⟩ : ∃ behind, Unbroken behind ∧
      (partialMethod returnType name params).signature.print = returnType ++ behind :=
    exists_behind_returnType named taken
  have filled : ¬ (partialMethod returnType name params).modifiers.isEmpty :=
    show ¬ "private partial".isEmpty by decide
  rw [Prototype.print, if_neg filled, printed]
  exact (modifiers.append (.append typed unbroken)).append (.of_chars (by decide))

/-- Stubs that are declared for a request on one line are plain, like those before them. Either a
stub that is there is taken again, or one is added behind the others. -/
theorem plainLine_declareIn {stubs : List Prototype} (plain : request.OneLine)
    (before : ∀ stub ∈ stubs, PlainLine stub.print) :
    ∀ stub ∈ request.declareIn stubs, PlainLine stub.print := by
  intro stub member
  unfold StubRequest.declareIn at member
  dsimp only at member
  split at member
  · exact before stub member
  · rcases List.mem_append.mp member with own | own
    · exact before stub own
    · rw [List.mem_singleton.mp own]
      exact plainLine_partialMethod plain.returnType
        (unbroken_chosenName stubs plain.baseName) plain.params

/-- The stubs of a method are added to plain ones as plain ones, for a method whose own names and
types are on one line. -/
theorem plainLine_declareStubs {stubs : List Prototype} (plain : method.OneLine)
    (wellNamed : shape.WellNamed) (before : ∀ stub ∈ stubs, PlainLine stub.print) :
    ∀ stub ∈ declareStubs stubs method shape, PlainLine stub.print := by
  have first : ∀ stub ∈ declareOptional stubs (serializeRequest? method),
      PlainLine stub.print := by
    cases asked : serializeRequest? method with
    | none => exact before
    | some request => exact plainLine_declareIn (serializeRequest_oneLine plain asked) before
  unfold declareStubs
  cases asked : deserializeRequest? method shape with
  | none => exact first
  | some request =>
    exact plainLine_declareIn (deserializeRequest_oneLine plain wellNamed asked) first

end Stubs

/-! ## The file -/

/-- The stubs of some methods are plain, and so are the methods. The induction is on the methods,
behind stubs that are plain already. -/
theorem plain_methodsAndStubs (client : Client) (methods : List Method)
    (plain : ∀ method ∈ methods, method.OneLine)
    (wellNamed : ∀ method ∈ methods, ∀ endpoint, method.endpoint? = some endpoint →
      endpoint.returnShape.WellNamed)
    (stubs : List Prototype) (before : ∀ stub ∈ stubs, PlainLine stub.print) :
    (∀ definition ∈ (methodsAndStubs client stubs methods).1,
        Neat definition.steps ∧ PlainLine definition.signature.print) ∧
      ∀ stub ∈ (methodsAndStubs client stubs methods).2, PlainLine stub.print := by
  induction methods generalizing stubs with
  | nil => exact ⟨by simp [methodsAndStubs], before⟩
  | cons method others inductionHypothesis =>
    have own := plain method List.mem_cons_self
    have rest := inductionHypothesis
      (fun other member => plain other (List.mem_cons_of_mem _ member))
      (fun other member => wellNamed other (List.mem_cons_of_mem _ member))
    cases found : method.endpoint? with
    | none => simpa only [methodsAndStubs, found] using rest stubs before
    | some endpoint =>
      have shape := wellNamed method List.mem_cons_self endpoint found
      have called := stubNames_oneLine stubs own shape
      obtain ⟨definitions, behind⟩ := rest _ (plainLine_declareStubs own shape before)
      simp only [methodsAndStubs, found]
      exact ⟨List.forall_mem_cons.mpr ⟨⟨neat_methodDef client own called shape,
        plainLine_methodSignature own shape⟩, definitions⟩, behind⟩

/-- The hooks of a client are plain lines, without any condition, as their types and parameters are
fixed. -/
theorem plainLine_hooks (client : Client) : ∀ hook ∈ hooks client, PlainLine hook.print := by
  have methodName : Unbroken (Param.mk "string" "methodName").print :=
    unbroken_param (.of_chars (by decide)) (.of_chars (by decide))
  have path : Unbroken (Param.mk "string" "path").print :=
    unbroken_param (.of_chars (by decide)) (.of_chars (by decide))
  have hook (name : String) (named : Unbroken name) (last : Param) (taken : Unbroken last.print) :
      PlainLine (partialMethod "void" name
        [⟨"string", "methodName"⟩, ⟨"string", "path"⟩, last]).print :=
    plainLine_partialMethod (.of_chars (by decide)) named
      (List.forall_mem_cons.mpr ⟨methodName, List.forall_mem_cons.mpr
        ⟨path, List.forall_mem_singleton.mpr taken⟩⟩)
  refine List.forall_mem_cons.mpr ⟨hook errorHook (.of_chars (by decide)) _
    (unbroken_param (.of_chars (by decide)) (.of_chars (by decide))), ?_⟩
  split_ifs
  · exact List.forall_mem_singleton.mpr (hook slowCallHook (.of_chars (by decide)) _
      (unbroken_param (.of_chars (by decide)) (.of_chars (by decide))))
  · exact List.forall_mem_nil _

/-- The file of a client on one line, the return types of which were read, has plain declarations:
its interface, its methods, its hooks and its stubs. -/
theorem plain_clientUnit (plain : client.OneLine)
    (wellNamed : ∀ method ∈ client.methods, ∀ endpoint, method.endpoint? = some endpoint →
      endpoint.returnShape.WellNamed) : (clientUnit client).Plain := by
  obtain ⟨definitions, stubs⟩ :=
    plain_methodsAndStubs client client.methods plain.methods wellNamed [] (List.forall_mem_nil _)
  have name : Unbroken (interfaceName client) := .append (.of_chars (by decide)) plain.className
  exact {
    usings := plain.imports
    scope := plain.scope
    interfaceName := name
    members := fun prototype member => by
      obtain ⟨definition, present, rfl⟩ := List.mem_map.mp member
      exact plainLine_member_prototype (definitions definition present).2
    className := plain.className
    bases := List.forall_mem_singleton.mpr name
    fields := List.forall_mem_singleton.mpr
      (((PlainLine.of_chars (by decide) (by decide)).append (.of_chars (by decide))).append
        (.of_chars (by decide)))
    methods := fun definition present => (definitions definition present).1
    partialMethods := fun prototype member => by
      rcases List.mem_append.mp member with hook | stub
      · exact plainLine_hooks client prototype hook
      · exact stubs prototype stub }

/-- The lines of a generated file. For a class whose client is on one line, and for a file with any
of the declarations of the generated one: a line is empty or indented by four blanks for each brace
that is open there, the text ends with a closing brace and one line feed, empty lines stand neither
next to each other nor next to the brace of a body around them, and one of them separates each two
sections of the class. -/
theorem generated_file_is_laid_out (declared : ClassDeclaration) (defaults : Defaults)
    (plain : (Extraction.extractClient declared defaults).OneLine) (part : CompilationUnit)
    (drawn : part.DrawnFrom (clientUnit (Extraction.extractClient declared defaults))) :
    ∃ text lines, part.source = .ok text ∧ text.toList = unlines lines ∧ part.LaidOut lines := by
  have wellNamed : ∀ method ∈ (Extraction.extractClient declared defaults).methods, ∀ endpoint,
      method.endpoint? = some endpoint → endpoint.returnShape.WellNamed :=
    fun method member endpoint found => Extraction.extracted_wellNamed member found
  exact ((plain_clientUnit plain wellNamed).drawn drawn).exists_lines

/-- A class with a method that sends a header. -/
def catalogue : ClassDeclaration where
  scope := "Shop"
  imports := ["System"]
  name := "Catalogue"
  attributes := []
  methods :=
    [⟨"FindAsync", "Task<Item[]>", [⟨"Get", [⟨none, .literal "/items/\x7bid\x7d"⟩]⟩],
      [⟨"id", "int", []⟩, ⟨"language", "string", [⟨"Header", [⟨none, .literal "Lang:\nen"⟩]⟩]⟩]⟩]

/-- The file of the class without usings, fields and partial methods. -/
def bareCatalogue : CompilationUnit :=
  (clientUnit (Extraction.extractClient catalogue .standard)).emptied
    { usings := true, members := false, bases := false, fields := true, methods := false
      partialMethods := true }

/-- The template of its header has a line feed in it, which is escaped, so that its file is laid out
as any other. -/
theorem bareCatalogue_is_laid_out :
    (Extraction.extractClient catalogue .standard).OneLine ∧
      bareCatalogue.DrawnFrom (clientUnit (Extraction.extractClient catalogue .standard)) ∧
      ∃ text lines, bareCatalogue.source = .ok text ∧ text.toList = unlines lines ∧
        bareCatalogue.LaidOut lines := by
  have methods : ∀ method ∈ (Extraction.extractClient catalogue .standard).methods,
      Unbroken method.name ∧ ∀ parameter ∈ method.parameters,
        Unbroken parameter.name ∧ Unbroken parameter.typeText ∧
          ∀ format ∈ parameter.formatSpecifier, Unbroken format := by
    decide +kernel
  have plain : (Extraction.extractClient catalogue .standard).OneLine := by
    refine ⟨by decide +kernel, by decide +kernel, by decide +kernel, fun method member => ?_⟩
    obtain ⟨name, parameters⟩ := methods method member
    refine ⟨name, fun parameter declared => ?_⟩
    obtain ⟨own, typed, formatted⟩ := parameters parameter declared
    exact ⟨own, typed, formatted⟩
  have drawn : bareCatalogue.DrawnFrom
      (clientUnit (Extraction.extractClient catalogue .standard)) :=
    CompilationUnit.emptied_drawnFrom _ _
  exact ⟨plain, drawn, generated_file_is_laid_out catalogue .standard plain bareCatalogue drawn⟩

end Generation

end TypedClients
