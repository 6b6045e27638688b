import Mathlib.Data.List.Forall2
import Mathlib.Data.List.TakeWhile
import TypedClients.Client.Encode
import TypedClients.Extraction

/-!
# What extraction keeps

Extraction makes one method of each declared method and one parameter of each declared parameter,
in order. Which part a parameter has in the request depends on its own declaration and on the
placeholders of the path, and a method that is passed through has no placeholders. Whether the
content is rejected, and what is reported of it, depends on how many parameters carry content.

The statements are about the methods that come out of extraction, and about their documents where
it matters which entries there are. That a method has an endpoint or a reason but not both, and
that nothing but a header has a template, is built into the types of a client; what is shown is that
the documents of clients, in which these are entries of their own, keep to it. Diagnostics are read
off a client, so that what is shown of them is which ones there are, and not that none was lost on
the way.
-/

namespace TypedClients

/-- The keys of a document that is a mapping, as far as they are texts. -/
def Document.keys : Document → List String
  | .mapping entries => entries.filterMap fun entry =>
    match entry.1 with
    | .text key => some key
    | _ => none
  | _ => []

/-- The keys of a record are the names of its fields, in their order. -/
@[simp] theorem Document.keys_record (fields : List (String × Document)) :
    (Document.record fields).keys = fields.map Prod.fst := by
  simp [Document.record, Document.keys, List.filterMap_map]

/-- Whether a parameter is sent as content, serialized or as a form. -/
def Parameter.IsContent (parameter : Parameter) : Prop :=
  parameter.binding = .body ∨ parameter.binding = .form

instance : DecidablePred Parameter.IsContent :=
  fun parameter => inferInstanceAs (Decidable (parameter.binding = .body ∨ _))

namespace Extraction

/-- What extraction makes of a parameter in a method. -/
structure DescribesParameter (method : Method) (declared : ParameterDeclaration)
    (parameter : Parameter) : Prop where
  /-- The name is the declared one without every `@` in front of it. -/
  name : ∃ marks, declared.name.toList = marks ++ parameter.name.toList ∧
    (∀ c ∈ marks, c = '@') ∧ parameter.name.toList.head? ≠ some '@'
  /-- A parameter is put into the path exactly when the path has a placeholder of its name, and
  there is a path only in a method that is generated. -/
  route : parameter.binding = .route ↔ ∃ endpoint, method.endpoint? = some endpoint ∧
    parameter.name ∈ PathTemplate.placeholders endpoint.pathTemplate
  /-- A header, and nothing else, is shown with a template. -/
  template : "headerTemplate" ∈ parameter.toDocument.keys ↔ parameter.binding.name = "Header"

/-- What extraction makes of a method. -/
structure DescribesMethod (declared : MethodDeclaration) (method : Method) : Prop where
  name : method.name = declared.name
  /-- There is one parameter for each that is declared, in order. -/
  parameters : List.Forall₂ (DescribesParameter method) declared.parameters method.parameters
  /-- A method is shown with an endpoint when it is generated, and else with a reason. -/
  role : ("endpoint" ∈ method.toDocument.keys ↔ method.isEligible = true) ∧
    ("passthrough" ∈ method.toDocument.keys ↔ method.isEligible = false)
  /-- The content is rejected exactly when two parameters or more of a generated method carry
  it. -/
  suppressed : method.contentSuppressed = true ↔
    method.isEligible = true ∧ 2 ≤ method.parameters.countP Parameter.IsContent
  /-- A generated method has content exactly when a single parameter carries it, and the content
  is that parameter. -/
  content : method.isEligible = true →
    (method.contentParameter?.isSome = true ↔
        method.parameters.countP Parameter.IsContent = 1) ∧
      ∀ parameter, method.contentParameter? = some parameter →
        parameter ∈ method.parameters ∧ parameter.IsContent

/-- The diagnostic of a method with all the parameters that carry its content. -/
def contentDiagnostic (className : String) (method : Method) : Diagnostic where
  className := className
  methodName := method.name
  kind := .multipleContentParameters
    ((method.parameters.filter Parameter.IsContent).map Parameter.name)

/-- What holds between each item and its image holds between a list and its image, item by
item. -/
theorem forall₂_image {Source Image : Type} {related : Source → Image → Prop}
    {image : Source → Image} (each : ∀ source, related source (image source))
    (sources : List Source) : List.Forall₂ related sources (sources.map image) := by
  rw [List.forall₂_map_right_iff, List.forall₂_same]
  intro source _
  exact each source

/-! ## Parameters -/

/-- Every `@` in front of a name is taken away, and nothing else. -/
theorem plainIdentifier_marks (name : String) :
    ∃ marks, name.toList = marks ++ (plainIdentifier name).toList ∧ (∀ c ∈ marks, c = '@') ∧
      (plainIdentifier name).toList.head? ≠ some '@' := by
  refine ⟨name.toList.takeWhile (· == '@'), ?_, ?_, ?_⟩
  · simp [plainIdentifier]
  · intro c member
    simpa using List.mem_takeWhile_imp member
  · intro marked
    have stopped := List.head?_dropWhile_not (· == '@') name.toList
    simp only [plainIdentifier, String.toList_ofList] at marked
    simp [marked] at stopped

/-- A parameter is put into the path exactly when there is a placeholder of its name. No attribute
and no type changes that. -/
theorem bindingOf_eq_route {name typeText : String} {attributes : List Attribute}
    {placeholders : List String} :
    bindingOf name typeText attributes placeholders = .route ↔ name ∈ placeholders := by
  unfold bindingOf
  by_cases placed : name ∈ placeholders
  · simp [placed]
  · simp only [List.contains_eq_mem, placed, decide_false, Bool.false_eq_true, if_false, iff_false]
    split
    · split <;> simp
    · split
      · simp
      · split <;> simp

/-- Only a method with an endpoint has placeholders, those of its path. -/
theorem mem_rolePlaceholders {role : Role} {name : String} :
    name ∈ rolePlaceholders role ↔ ∃ endpoint, role.toOption = some endpoint ∧
      name ∈ PathTemplate.placeholders endpoint.pathTemplate := by
  cases role <;> simp [rolePlaceholders, Except.toOption]

/-- Only a binding to a header has a template. -/
theorem headerTemplate?_isSome (binding : Binding) :
    binding.headerTemplate?.isSome = true ↔ binding.name = "Header" := by
  cases binding <;> simp [Binding.headerTemplate?, Binding.name]

/-- There is an entry for an optional text exactly when there is the text. -/
theorem mem_keys_optionalText {key name : String} {value : Option String} :
    key ∈ (optionalText name value).map Prod.fst ↔ key = name ∧ value.isSome = true := by
  cases value <;> simp [optionalText]

/-- A parameter is shown with a template exactly when it is a header. -/
theorem headerTemplate_mem_keys (parameter : Parameter) :
    "headerTemplate" ∈ parameter.toDocument.keys ↔ parameter.binding.name = "Header" := by
  simp [Parameter.toDocument, ← headerTemplate?_isSome, mem_keys_optionalText, List.map_append]

/-- A parameter of an extracted method describes the declared one. -/
theorem describes_parameter (options : ClassOptions) (method : MethodDeclaration)
    (declared : ParameterDeclaration) :
    DescribesParameter (extractMethod options method) declared
      (classify declared (rolePlaceholders (resolveRole method))) where
  name := plainIdentifier_marks declared.name
  route := bindingOf_eq_route.trans mem_rolePlaceholders
  template := headerTemplate_mem_keys _

/-! ## Methods -/

/-- A parameter carries content exactly when it is bound to the body or to a form. -/
theorem carriesContent_iff (parameter : Parameter) :
    parameter.binding.carriesContent = true ↔ parameter.IsContent := by
  unfold Parameter.IsContent
  cases parameter.binding <;> simp [Binding.carriesContent]

/-- The parameters that carry content are those bound to the body or to a form. -/
theorem contentParameters_eq (method : Method) :
    method.contentParameters = method.parameters.filter Parameter.IsContent := by
  unfold Method.contentParameters
  refine List.filter_congr ?_
  intro parameter _
  rw [Bool.eq_iff_iff, carriesContent_iff]
  simp

/-- A method is generated exactly when it has a role with an endpoint. -/
theorem isEligible_iff (method : Method) : method.isEligible = method.role.isOk := by
  unfold Method.isEligible Method.endpoint?
  cases method.role <;> rfl

/-- A method has an endpoint when that is its role. -/
theorem endpoint?_eq_some_iff {method : Method} {endpoint : Endpoint} :
    method.endpoint? = some endpoint ↔ method.role = .ok endpoint := by
  unfold Method.endpoint?
  cases method.role <;> simp [Except.toOption]

/-- A method is shown with its endpoint, or with the reason for having none. -/
theorem role_mem_keys (method : Method) :
    ("endpoint" ∈ method.toDocument.keys ↔ method.isEligible = true) ∧
      ("passthrough" ∈ method.toDocument.keys ↔ method.isEligible = false) := by
  rw [isEligible_iff]
  cases role : method.role <;> simp [Method.toDocument, roleEntry, role, Except.isOk, Except.toBool]

/-- The content of an extracted method is rejected exactly when it is generated and two of its
parameters or more carry content. -/
theorem contentSuppressed_iff (options : ClassOptions) (declared : MethodDeclaration) :
    (extractMethod options declared).contentSuppressed = true ↔
      (extractMethod options declared).isEligible = true ∧
        2 ≤ (extractMethod options declared).parameters.countP Parameter.IsContent := by
  have counted := congrArg List.length (contentParameters_eq (extractMethod options declared))
  rw [isEligible_iff, List.countP_eq_length_filter, ← counted]
  exact Bool.and_eq_true_iff.trans (and_congr_right fun _ => decide_eq_true_iff)

/-- The content of a method that is generated for a class is rejected exactly when two of its
parameters or more carry content. -/
theorem contentSuppressed_of_eligible {declared : ClassDeclaration} {defaults : Defaults}
    {method : Method} (eligible : method ∈ (extractClient declared defaults).eligibleMethods) :
    method.contentSuppressed = true ↔ 2 ≤ method.parameters.countP Parameter.IsContent := by
  obtain ⟨member, isEligible⟩ := List.mem_filter.mp eligible
  obtain ⟨source, _, rfl⟩ := List.mem_map.mp member
  exact (contentSuppressed_iff _ source).trans (by simp [isEligible])

/-- What a method is sent with as content, when its content is rejected for two parameters or more
that carry it, is the single parameter that carries it. -/
theorem contentParameter?_iff {method : Method}
    (suppressed : method.contentSuppressed = true ↔
      2 ≤ method.parameters.countP Parameter.IsContent) (parameter : Parameter) :
    method.contentParameter? = some parameter ↔
      method.parameters.filter Parameter.IsContent = [parameter] := by
  rw [List.countP_eq_length_filter] at suppressed
  unfold Method.contentParameter?
  rw [contentParameters_eq]
  cases content : method.parameters.filter Parameter.IsContent with
  | nil => simp
  | cons first others =>
    cases others with
    | nil =>
      have kept : method.contentSuppressed = false := by
        simpa [content] using suppressed
      simp [kept]
    | cons second others =>
      have rejected : method.contentSuppressed = true := by
        simp [suppressed, content]
      simp [rejected]

/-- A method that comes out of extraction describes the declared one: its name, its parameters one
by one, its role and its settings are each shown to be what the description asks for. -/
theorem describes_method (options : ClassOptions) (declared : MethodDeclaration) :
    DescribesMethod declared (extractMethod options declared) where
  name := rfl
  parameters := forall₂_image (describes_parameter options declared) declared.parameters
  role := role_mem_keys _
  suppressed := contentSuppressed_iff options declared
  content := by
    intro eligible
    have suppressed := contentSuppressed_iff options declared
    simp only [eligible, true_and] at suppressed
    have single := contentParameter?_iff suppressed
    constructor
    · rw [Option.isSome_iff_exists, List.countP_eq_length_filter, List.length_eq_one_iff]
      exact exists_congr single
    · intro parameter chosen
      have member : parameter ∈ (extractMethod options declared).parameters.filter
          Parameter.IsContent := by
        rw [(single parameter).mp chosen]
        exact List.mem_singleton_self parameter
      simpa using List.mem_filter.mp member

/-- Each parameter of an extracted method describes a declared one. -/
theorem exists_described {declared : ClassDeclaration} {defaults : Defaults} {method : Method}
    {parameter : Parameter} (member : method ∈ (extractClient declared defaults).methods)
    (among : parameter ∈ method.parameters) :
    ∃ original, DescribesParameter method original parameter := by
  obtain ⟨source, _, rfl⟩ := List.mem_map.mp member
  obtain ⟨original, _, rfl⟩ := List.mem_map.mp among
  exact ⟨original, describes_parameter (classOptions declared defaults) source original⟩

/-- No parameter of an extracted method has a name with an `@` in front. -/
theorem extracted_unmarked {declared : ClassDeclaration} {defaults : Defaults} {method : Method}
    (member : method ∈ (extractClient declared defaults).methods) :
    ∀ parameter ∈ method.parameters, parameter.name.toList.head? ≠ some '@' := by
  intro parameter among
  obtain ⟨_, described⟩ := exists_described member among
  obtain ⟨_, _, _, unmarked⟩ := described.name
  exact unmarked

/-! ## Diagnostics -/

/-- There is one diagnostic for each method with rejected content, in order, and no other. -/
theorem diagnostics_eq (client : Client) :
    diagnostics client = (client.methods.filter Method.contentSuppressed).map
      (contentDiagnostic client.className) := by
  unfold diagnostics
  induction client.methods with
  | nil => rfl
  | cons method methods inductionHypothesis =>
    rw [List.filterMap_cons, inductionHypothesis]
    unfold methodDiagnostic?
    cases rejected : method.contentSuppressed with
    | false => simp [rejected]
    | true => simp [rejected, contentDiagnostic, contentParameters_eq]

/-- Extraction makes one method of each declared method, in order, which describes it: under its
name, with a parameter for each of its parameters, and with an endpoint or a reason. Each method
with rejected content, and no other, is reported, in order, with all the parameters that carry its
content. -/
theorem extraction_describes (declared : ClassDeclaration) (defaults : Defaults) :
    List.Forall₂ DescribesMethod declared.methods (extractClient declared defaults).methods ∧
      diagnostics (extractClient declared defaults) =
        ((extractClient declared defaults).methods.filter Method.contentSuppressed).map
          (contentDiagnostic declared.name) := by
  constructor
  · exact forall₂_image (describes_method (classOptions declared defaults)) declared.methods
  · exact diagnostics_eq (extractClient declared defaults)

end Extraction

end TypedClients
