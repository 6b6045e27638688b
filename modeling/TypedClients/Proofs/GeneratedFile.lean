import TypedClients.GeneratedFile
import TypedClients.Proofs.Extraction.Eligibility
import TypedClients.Proofs.Generation.ClientUnit

/-!
# Methods without a trace

A method that is passed through has parameters, a threshold and a serializer as any other, and is
part of the extracted client. The generated file and the diagnostics have nothing of it: they are
those of the class without that method.

This is proved by comparing a class with `generatedOnly`, the class without its other methods:
extraction, stubs, hooks and the unit are the same for both. Two classes with the same generated
methods have this class in common.
-/

namespace TypedClients

open CSharp Extraction Generation Text

/-- Whether a declared method is generated. Its class plays no part. -/
def MethodDeclaration.isGenerated (declared : MethodDeclaration) : Bool :=
  (resolveRole declared).isOk

/-- The signature with which a declared method is generated: the name is kept, the return type is
in the normal spelling of its shape, and a parameter has its type as written, without blanks around
it, and an identifier that is no reserved word. -/
structure HasSignature (declared : MethodDeclaration) (signature : Signature) : Prop where
  name : signature.name = declared.name
  returnType : ∃ shape, ReturnShape.resolve declared.returnType = .ok shape ∧
    signature.returnType = shape.render
  params : signature.params = declared.parameters.map fun parameter =>
    ⟨trimmed parameter.typeText, escapedIdentifier (plainIdentifier parameter.name)⟩

/-- The same class with its generated methods alone. -/
def ClassDeclaration.generatedOnly (declared : ClassDeclaration) : ClassDeclaration :=
  { declared with methods := declared.methods.filter MethodDeclaration.isGenerated }

/-- The same client with its generated methods alone. -/
def Client.generatedOnly (client : Client) : Client :=
  { client with methods := client.eligibleMethods }

namespace Extraction

/-- A method is generated when its declaration is. -/
theorem isEligible_eq_isGenerated (options : ClassOptions) (declared : MethodDeclaration) :
    (extractMethod options declared).isEligible = declared.isGenerated :=
  isEligible_iff _

/-- The generated methods of a class are those whose declarations are generated. -/
theorem eligibleMethods_extractClient (declared : ClassDeclaration) (defaults : Defaults) :
    (extractClient declared defaults).eligibleMethods =
      (declared.methods.filter MethodDeclaration.isGenerated).map
        (extractMethod (classOptions declared defaults)) := by
  have same : Method.isEligible ∘ extractMethod (classOptions declared defaults) =
      MethodDeclaration.isGenerated :=
    funext fun method => isEligible_eq_isGenerated _ method
  rw [Client.eligibleMethods, extractClient, List.filter_map, same]

/-- Leaving methods out of a class leaves the same ones out of its client. -/
theorem extractClient_generatedOnly (declared : ClassDeclaration) (defaults : Defaults) :
    extractClient declared.generatedOnly defaults =
      (extractClient declared defaults).generatedOnly := by
  rw [Client.generatedOnly, eligibleMethods_extractClient]
  rfl

/-- Only generated methods are reported. -/
theorem diagnostics_generatedOnly (declared : ClassDeclaration) (defaults : Defaults) :
    diagnostics (extractClient declared defaults).generatedOnly =
      diagnostics (extractClient declared defaults) := by
  have generated : ∀ method ∈ (extractClient declared defaults).methods,
      (method.contentSuppressed && method.isEligible) = method.contentSuppressed := by
    intro method member
    obtain ⟨source, _, rfl⟩ := List.mem_map.mp member
    have suppressed := contentSuppressed_iff (classOptions declared defaults) source
    rw [Bool.and_eq_left_iff_imp]
    exact fun rejected => (suppressed.mp rejected).1
  rw [diagnostics_eq, diagnostics_eq, Client.generatedOnly, Client.eligibleMethods,
    List.filter_filter, List.filter_congr generated]

end Extraction

namespace Generation

/-- The methods and stubs of a client come from its generated methods. -/
theorem methodsAndStubs_generatedOnly (client : Client) (stubs : List Prototype)
    (methods : List Method) :
    methodsAndStubs client.generatedOnly stubs (methods.filter Method.isEligible) =
      methodsAndStubs client stubs methods := by
  induction methods generalizing stubs with
  | nil => rfl
  | cons method others inductionHypothesis =>
    cases found : method.endpoint? with
    | none =>
      rw [filter_of_none found, methodsAndStubs, found]
      exact inductionHypothesis stubs
    | some endpoint =>
      have kept (names : StubNames) : methodDef client.generatedOnly method endpoint names =
          methodDef client method endpoint names := methodDef_congr rfl rfl
      simp only [filter_of_some found, methodsAndStubs, found, inductionHypothesis, kept]

/-- Whether a slow call may be reported depends on the generated methods alone. -/
theorem hooks_generatedOnly (client : Client) : hooks client.generatedOnly = hooks client := by
  have same : client.generatedOnly.eligibleMethods = client.eligibleMethods := by
    simp [Client.generatedOnly, Client.eligibleMethods]
  have reports : client.generatedOnly.reportsSlowCalls = client.reportsSlowCalls := by
    rw [Client.reportsSlowCalls, same]
    rfl
  rw [hooks, hooks, reports]

/-- The file of a client is that of its generated methods. -/
theorem clientUnit_generatedOnly (client : Client) :
    clientUnit client.generatedOnly = clientUnit client := by
  have same : methodsAndStubs client.generatedOnly [] client.generatedOnly.methods =
      methodsAndStubs client [] client.methods := methodsAndStubs_generatedOnly client [] _
  rw [clientUnit, clientUnit, same, hooks_generatedOnly]
  rfl

/-- A method is generated with the signature of its declaration. -/
theorem Generated.hasSignature {client : Client} {stubs : List Prototype} {options : ClassOptions}
    {declared : MethodDeclaration} {definition : MethodDef}
    (generated : Generated client stubs (extractMethod options declared) definition) :
    HasSignature declared definition.signature := by
  obtain ⟨endpoint, _, found, _⟩ := generated
  have role : resolveRole declared = .ok endpoint := endpoint?_eq_some_iff.mp found
  obtain ⟨_, _, _, shaped⟩ := resolveRole_eq_ok_iff.mp role
  exact ⟨rfl, ⟨_, shaped, rfl⟩, by simp [methodDef, methodSignature, extractMethod, classify]⟩

end Generation

/-- Deleting the methods that are passed through changes neither the file nor the diagnostics. -/
theorem generateClient_generatedOnly (declared : ClassDeclaration) (defaults : Defaults) :
    generateClient declared.generatedOnly defaults = generateClient declared defaults := by
  simp only [generateClient, extractClient_generatedOnly, clientUnit_generatedOnly,
    diagnostics_generatedOnly]
  rfl

/-- The interface and the class of a generated file have the generated methods of the declaration,
in order and with their signatures. Two declarations that differ only in methods that are passed
through, wherever these stand, come to the same file and the same diagnostics. -/
theorem passed_through_untraced (declared : ClassDeclaration) (defaults : Defaults) :
    List.Forall₂ HasSignature (declared.methods.filter MethodDeclaration.isGenerated)
        ((clientUnit (extractClient declared defaults)).body.methods.map MethodDef.signature) ∧
      (clientUnit (extractClient declared defaults)).interface.members.map Prototype.signature =
        (clientUnit (extractClient declared defaults)).body.methods.map MethodDef.signature ∧
      ∀ methods : List MethodDeclaration,
        methods.filter MethodDeclaration.isGenerated =
            declared.methods.filter MethodDeclaration.isGenerated →
          generateClient { declared with methods } defaults = generateClient declared defaults := by
  refine ⟨?_, ?_, ?_⟩
  · have each := forall₂_generated (extractClient declared defaults) []
      (extractClient declared defaults).methods
    rw [← Client.eligibleMethods, eligibleMethods_extractClient, List.forall₂_map_left_iff] at each
    rw [List.forall₂_map_right_iff]
    exact each.imp fun _ _ generated => generated.hasSignature
  · rw [clientUnit, List.map_map]
    rfl
  · intro methods same
    rw [← generateClient_generatedOnly, ← generateClient_generatedOnly declared]
    simp only [ClassDeclaration.generatedOnly, same]

/-- A class with a method that is passed through for want of a verb. It asks for a report of slow
calls and for stubs, and has two parameters that carry content. -/
def ledger : ClassDeclaration where
  scope := ""
  imports := []
  name := "Ledger"
  attributes := []
  methods :=
    [⟨"BookAsync", "Task<Entry>",
      [⟨"Serialization", [⟨none, .symbol "Serialization.Custom"⟩]⟩,
       ⟨"ConnectionTooLongWarn", [⟨none, .int 500⟩]⟩],
      [⟨"debit", "Entry", [⟨"Body", []⟩]⟩, ⟨"credit", "Entry", [⟨"Body", []⟩]⟩]⟩,
     ⟨"ListAsync", "Task", [⟨"Get", [⟨none, .literal "/entries"⟩]⟩], []⟩]

/-- The file of the class is that of its other method alone. -/
theorem ledger_without_booking :
    (ledger.methods.drop 1).filter MethodDeclaration.isGenerated =
        ledger.methods.filter MethodDeclaration.isGenerated ∧
      generateClient { ledger with methods := ledger.methods.drop 1 } .standard =
        generateClient ledger .standard := by
  have same : (ledger.methods.drop 1).filter MethodDeclaration.isGenerated =
      ledger.methods.filter MethodDeclaration.isGenerated := by
    decide +kernel
  exact ⟨same, (passed_through_untraced ledger .standard).2.2 _ same⟩

end TypedClients
