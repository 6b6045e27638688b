import TypedClients.Proofs.Generation.Interpolation
import TypedClients.Proofs.Generation.PartialMethods
import TypedClients.Proofs.Generation.References

/-!
# Names in generated methods

Nothing keeps a parameter from having the name of a local that its method declares, or that of the
field for the transport. Where no parameter has such a name, every name in the method denotes what
it is meant to denote, and the method has no conflict of names.

The names that a method takes for itself are an explicit list, part of which depends on what the
method does. The theorem has both directions: a parameter with such a name is captured by a local or
hides the field.
-/

namespace TypedClients.Generation

open CSharp Extraction

/-- Every name in a method is that of a local in scope, or is known outside. To be known outside are
the parameters, the hooks and the stubs that the method calls, the field with the client that sends,
and two namespaces. -/
theorem methodBody_bound {client : Client} {method : Method} {endpoint : Endpoint}
    {names : StubNames} {known : String → Prop}
    (knows : Knows method endpoint.returnShape names known) :
    ∀ mention ∈ mentionsIn (blockLocals (methodBody client method endpoint names))
      (methodBody client method endpoint names), mention.Bound known := by
  intro mention member
  rw [← mentions_referencesIn _ []] at member
  obtain ⟨reference, stands, rfl⟩ := List.mem_map.mp member
  have visible := declared_subset_of_mem _ [] _ (List.nil_subset _) (List.Subset.refl _) reference
    stands
  exact (methodBody_references knows reference stands).imp_left fun declared => visible declared

/-! ## Generated methods -/

/-- A name stands for something outside of a method: for a namespace, for the field for the
transport or for a partial method. A parameter with such a name is meant in its place. -/
def Outside (unit : CompilationUnit) (name : String) : Prop :=
  name = "System" ∨ name = "Newtonsoft" ∨ name = transportField ∨
    ∃ prototype ∈ unit.body.partialMethods, name ∈ pathNames prototype.signature.name

/-- What is to be said of the names in a generated method. -/
structure KeepsNames (unit : CompilationUnit) (method : Method) (definition : MethodDef) :
    Prop where
  /-- The parameters stand apart exactly when none has a name that the method takes. -/
  apart_iff : ∃ endpoint, method.endpoint? = some endpoint ∧
    (definition.StandsApart transportField ↔
      ∀ parameter ∈ method.parameters, ¬ Takes method endpoint.returnShape parameter.name)
  /-- There is no conflict of names but between a parameter and a local. -/
  unclashing_iff : definition.unclashing = true ↔
    ∀ name ∈ definition.parameterNames, name ∉ localsOf definition.body
  /-- When the parameters stand apart, no local is meant where the name of one stands. -/
  denoted : definition.StandsApart transportField → ∀ mention ∈ definition.mentions,
    mention.name ∈ definition.parameterNames → mention.name ∉ mention.scope
  /-- Every name is that of a local in scope or of a parameter, or stands for something outside. -/
  bound : ∀ mention ∈ definition.mentions,
    mention.Bound fun name => name ∈ definition.parameterNames ∨ Outside unit name

/-- Where the parameters have names, the head of a method has these names. -/
theorem parameterNames_methodDef {alphabet : NameAlphabet} (client : Client) {method : Method}
    (endpoint : Endpoint) (names : StubNames)
    (named : ∀ parameter ∈ method.parameters, alphabet.IsName parameter.name.toList) :
    (methodDef client method endpoint names).parameterNames =
      method.parameters.map Parameter.name := by
  simp only [MethodDef.parameterNames, methodDef, methodSignature, List.map_map]
  apply List.map_congr_left
  intro parameter declared
  exact denotedName_escapedIdentifier parameter.name (named parameter declared).head?_ne_at

/-- A generated method knows the names of its parameters and what is outside: the namespaces, the
hooks, the field and the stubs that were declared for it. -/
theorem knows_outside {alphabet : NameAlphabet} {client : Client} {method : Method}
    {endpoint : Endpoint} {stubs : List Prototype} (eligible : method ∈ client.eligibleMethods)
    (named : ∀ parameter ∈ method.parameters, alphabet.IsName parameter.name.toList)
    (kept : declareStubs stubs method endpoint.returnShape <+:
      (methodsAndStubs client [] client.methods).2) :
    Knows method endpoint.returnShape (stubNames stubs method endpoint.returnShape) fun name =>
      name ∈ method.parameters.map Parameter.name ∨ Outside (clientUnit client) name := by
  have outside {prototype : Prototype} {name : String}
      (among : prototype ∈ hooks client ++ (methodsAndStubs client [] client.methods).2)
      (looked : name ∈ pathNames prototype.signature.name) :
      name ∈ method.parameters.map Parameter.name ∨ Outside (clientUnit client) name :=
    Or.inr (Or.inr (Or.inr (Or.inr ⟨prototype, among, looked⟩)))
  constructor
  case parameter =>
    intro parameter declared name looked
    rw [pathNames_escapedIdentifier (named parameter declared), List.mem_singleton] at looked
    exact Or.inl (List.mem_map.mpr ⟨parameter, declared, looked.symm⟩)
  case system => exact Or.inr (Or.inl rfl)
  case newtonsoft => exact Or.inr (Or.inr (Or.inl rfl))
  case transport => exact Or.inr (Or.inr (Or.inr (Or.inl rfl)))
  case errorHook =>
    exact outside (List.mem_append_left _ List.mem_cons_self) (by simp [partialMethod])
  case slowCallHook =>
    intro timed
    have reports := reportsSlowCalls_of_timed eligible timed
    have hook : partialMethod "void" slowCallHook
        [⟨"string", "methodName"⟩, ⟨"string", "path"⟩, ⟨"long", "connectionDuration"⟩] ∈
          hooks client := by
      simp [hooks, reports]
    exact outside (List.mem_append_left _ hook) (by simp [partialMethod])
  case serialize =>
    intro request asked name looked
    obtain ⟨stub, present, met⟩ : ∃ stub ∈ declareStubs stubs method endpoint.returnShape,
        request.MetBy ((stubNames stubs method endpoint.returnShape).serialize.getD "") stub :=
      exists_serializeStub asked
    rw [← met.named] at looked
    exact outside (List.mem_append_right _ (kept.subset present)) looked
  case deserialize =>
    intro request asked name looked
    obtain ⟨stub, present, met⟩ : ∃ stub ∈ declareStubs stubs method endpoint.returnShape,
        request.MetBy ((stubNames stubs method endpoint.returnShape).deserialize.getD "") stub :=
      exists_deserializeStub asked
    rw [← met.named] at looked
    exact outside (List.mem_append_right _ (kept.subset present)) looked

/-- Parameters with identifiers of their own have names of their own. Two identifiers may differ in
an `@` only, so it is the plain ones that have to be distinct. -/
theorem extracted_distinct {declared : ClassDeclaration} {defaults : Defaults}
    (distinct : ∀ method ∈ declared.methods,
      (method.parameters.map fun parameter => plainIdentifier parameter.name).Nodup)
    {method : Method} (member : method ∈ (extractClient declared defaults).methods) :
    (method.parameters.map Parameter.name).Nodup := by
  obtain ⟨source, sourced, rfl⟩ := List.mem_map.mp member
  have same : (extractMethod (classOptions declared defaults) source).parameters.map
      Parameter.name = source.parameters.map fun parameter => plainIdentifier parameter.name := by
    simp [extractMethod, classify]
  rw [same]
  exact distinct source sourced

/-- In each generated method of a class whose parameters have identifiers of their own, the
parameters stand apart from the names that the method takes for itself exactly when none has one
of these names: that of the field for the transport, `url`, `e`, `request` and `response`, and by
what the method sends and gives back `stopwatch`, `header`, `headerText`, `json`, `form`,
`property`, `propertyValue` and `content`. Then every name of a parameter denotes that parameter,
and there is no conflict of names. -/
theorem parameters_stand_apart_iff (alphabet : NameAlphabet) (declared : ClassDeclaration)
    (defaults : Defaults)
    (identifiers : ∀ method ∈ declared.methods, ∀ parameter ∈ method.parameters,
      alphabet.IsIdentifier parameter.name.toList)
    (distinct : ∀ method ∈ declared.methods,
      (method.parameters.map fun parameter => plainIdentifier parameter.name).Nodup) :
    List.Forall₂ (KeepsNames (clientUnit (extractClient declared defaults)))
      (extractClient declared defaults).eligibleMethods
      (clientUnit (extractClient declared defaults)).body.methods := by
  have each := (List.forall₂_and_left _ _).mpr ⟨fun _ eligible => eligible,
    forall₂_generated (extractClient declared defaults) []
      (extractClient declared defaults).methods⟩
  refine each.imp ?_
  rintro method definition ⟨eligible, endpoint, stubs, found, kept⟩
  have member := List.mem_of_mem_filter eligible
  have named := extracted_named identifiers member
  have parameterNames := parameterNames_methodDef (extractClient declared defaults) endpoint
    (stubNames stubs method endpoint.returnShape) named
  have suppressed := contentSuppressed_of_eligible eligible
  constructor
  case apart_iff =>
    refine ⟨endpoint, found, ?_⟩
    simp only [takes_iff (extractClient declared defaults) endpoint
      (stubNames stubs method endpoint.returnShape) suppressed, not_or]
    constructor
    · intro apart parameter declares
      have among := List.mem_map_of_mem (f := Parameter.name) declares
      rw [← parameterNames] at among
      exact ⟨apart.locals _ among, fun same => apart.field (same ▸ among)⟩
    · intro free
      constructor
      · rw [parameterNames]
        exact List.forall_mem_map.mpr fun parameter declares => (free parameter declares).1
      · rw [parameterNames]
        intro among
        obtain ⟨parameter, declares, same⟩ := List.mem_map.mp among
        exact (free parameter declares).2 same
  case unclashing_iff =>
    refine MethodDef.unclashing_iff ?_ (methodBody_unclashing _ method endpoint _)
    rw [parameterNames]
    exact extracted_distinct distinct member
  case denoted => exact MethodDef.StandsApart.not_mem_scope
  case bound =>
    rw [parameterNames]
    exact methodBody_bound (knows_outside eligible named kept)

/-- The parameters of a class with a path, a query and a header have names of their own, and no
conflict comes of them. -/
theorem timetable_keeps_names :
    (∀ method ∈ timetable.methods, ∀ parameter ∈ method.parameters,
        asciiNames.IsIdentifier parameter.name.toList) ∧
      (∀ method ∈ timetable.methods,
        (method.parameters.map fun parameter => plainIdentifier parameter.name).Nodup) ∧
      ∀ method definition,
        (method, definition) ∈ (extractClient timetable .standard).eligibleMethods.zip
            (clientUnit (extractClient timetable .standard)).body.methods →
          definition.parameterNames = ["class", "since", "tag"] ∧
            ∀ name ∈ definition.parameterNames, name ∉ localsOf definition.body := by
  have identifiers : ∀ method ∈ timetable.methods, ∀ parameter ∈ method.parameters,
      asciiNames.IsIdentifier parameter.name.toList := by decide +kernel
  have distinct : ∀ method ∈ timetable.methods,
      (method.parameters.map fun parameter => plainIdentifier parameter.name).Nodup := by
    decide +kernel
  have free : ∀ definition ∈ (clientUnit (extractClient timetable .standard)).body.methods,
      definition.parameterNames = ["class", "since", "tag"] ∧ definition.unclashing = true := by
    decide +kernel
  refine ⟨identifiers, distinct, ?_⟩
  intro method definition paired
  have each := parameters_stand_apart_iff asciiNames timetable .standard identifiers distinct
  obtain ⟨named, unclashing⟩ := free definition (List.of_mem_zip paired).2
  exact ⟨named, (List.forall₂_zip each paired).unclashing_iff.mp unclashing⟩

/-- A class with a parameter for the query string that is called like the local for the address. -/
def redirections : ClassDeclaration :=
  singleMethodClass "/list" [⟨"url", "string", []⟩]

/-- The local takes the name of the parameter, also where the address is built from it. -/
theorem redirections_capture_url :
    (∀ method ∈ redirections.methods, ∀ parameter ∈ method.parameters,
        asciiNames.IsIdentifier parameter.name.toList) ∧
      (∀ method ∈ redirections.methods,
        (method.parameters.map fun parameter => plainIdentifier parameter.name).Nodup) ∧
      ∃ definition ∈ (clientUnit (extractClient redirections .standard)).body.methods,
        "url" ∈ definition.parameterNames ∧ "url" ∈ localsOf definition.body ∧
          definition.body.head?.map (·.mentions ["url"]) = some [⟨["url"], "url"⟩] ∧
          definition.unclashing = false := by
  decide +kernel

end TypedClients.Generation
