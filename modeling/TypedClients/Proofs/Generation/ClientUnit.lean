import Mathlib.Data.List.Forall2
import TypedClients.Generation.ClientUnit
import TypedClients.Proofs.Generation.Stub

/-!
# The methods and the stubs of a client

The generated methods are those with an endpoint, in order, and each of them is generated while
some of the stubs are declared. Stubs are only ever added, so those of a method are still there
when the last method is done, and no stub is there without a method that calls it.

`Generated` relates a method to its definition and to the stubs that were there before. A property
of definitions is proved from it, without the list of methods, and then holds for the whole class by
`forall₂_generated`.
-/

namespace TypedClients.Generation

open CSharp

/-- A method and what is generated from it, when the stubs declared before it and its own are the
first ones of all stubs. -/
inductive Generated (client : Client) (stubs : List Prototype) (method : Method) :
    MethodDef → Prop where
  | intro (endpoint : Endpoint) (declared : List Prototype)
      (found : method.endpoint? = some endpoint)
      (kept : declareStubs declared method endpoint.returnShape <+: stubs) :
      Generated client stubs method
        (methodDef client method endpoint (stubNames declared method endpoint.returnShape))

/-- A method depends on the name and the runtime of its client, and on nothing else of it. -/
theorem methodDef_congr {first second : Client} {method : Method} {endpoint : Endpoint}
    {names : StubNames} (name : first.className = second.className)
    (runtime : first.targetsModernRuntime = second.targetsModernRuntime) :
    methodDef first method endpoint names = methodDef second method endpoint names := by
  have reported : reportedName first method = reportedName second method := by
    rw [reportedName, reportedName, Client.qualifiedName, Client.qualifiedName, name]
  have read (reader : String) : readContent first method reader =
      readContent second method reader := by
    rw [readContent, readContent, readArguments, readArguments, runtime]
  have given (type : TypeSyntax) : giveResult first method names type =
      giveResult second method names type := by
    unfold giveResult
    -- By which spelling a kind is recognised plays no part.
    generalize ResultKind.ofType type = kind
    simp only [read]
  have response (shape : ReturnShape) : responseStmts first method shape names =
      responseStmts second method shape names := by
    simp only [responseStmts, given]
  simp only [methodDef, methodBody, requestStmt, sendStmt, response, exceptionHandler,
    slowCallCleanup, slowCallCheck, reported]

/-- A method without an endpoint is not generated. -/
theorem filter_of_none {method : Method} (found : method.endpoint? = none) (others : List Method) :
    (method :: others).filter Method.isEligible = others.filter Method.isEligible := by
  simp [Method.isEligible, found]

/-- A method with an endpoint is generated. -/
theorem filter_of_some {method : Method} {endpoint : Endpoint}
    (found : method.endpoint? = some endpoint) (others : List Method) :
    (method :: others).filter Method.isEligible =
      method :: others.filter Method.isEligible := by
  simp [Method.isEligible, found]

/-- The methods before a place and those from there on are generated one after the other, the later
ones with the stubs that the earlier ones left. -/
theorem methodsAndStubs_append (client : Client) (stubs : List Prototype)
    (before after : List Method) :
    methodsAndStubs client stubs (before ++ after) =
      ((methodsAndStubs client stubs before).1 ++
          (methodsAndStubs client (methodsAndStubs client stubs before).2 after).1,
        (methodsAndStubs client (methodsAndStubs client stubs before).2 after).2) := by
  induction before generalizing stubs with
  | nil => rfl
  | cons method others inductionHypothesis =>
    cases found : method.endpoint? with
    | none => simp only [List.cons_append, methodsAndStubs, found, inductionHypothesis]
    | some endpoint => simp only [List.cons_append, methodsAndStubs, found, inductionHypothesis]

/-- Going through further methods keeps the stubs that are declared, in their places: what is added
comes behind them. -/
theorem prefix_methodsAndStubs (client : Client) (stubs : List Prototype)
    (methods : List Method) : stubs <+: (methodsAndStubs client stubs methods).2 := by
  induction methods generalizing stubs with
  | nil => exact List.prefix_refl stubs
  | cons method others inductionHypothesis =>
    cases found : method.endpoint? with
    | none => simpa only [methodsAndStubs, found] using inductionHypothesis stubs
    | some endpoint =>
      have own := prefix_declareStubs stubs method endpoint.returnShape
      simpa only [methodsAndStubs, found] using own.trans (inductionHypothesis _)

/-- Each method with an endpoint is generated, in order, and nothing else is. The stubs that a
definition was generated with are those that are declared in the end, as later methods only add to
them. -/
theorem forall₂_generated (client : Client) (stubs : List Prototype) (methods : List Method) :
    List.Forall₂ (Generated client (methodsAndStubs client stubs methods).2)
      (methods.filter Method.isEligible) (methodsAndStubs client stubs methods).1 := by
  induction methods generalizing stubs with
  | nil => exact .nil
  | cons method others inductionHypothesis =>
    cases found : method.endpoint? with
    | none =>
      simpa only [methodsAndStubs, found, filter_of_none found]
        using inductionHypothesis stubs
    | some endpoint =>
      simp only [methodsAndStubs, found, filter_of_some found]
      refine .cons (.intro endpoint stubs found ?_) (inductionHypothesis _)
      exact prefix_methodsAndStubs client _ others

/-- No two stubs of a client are overloads of each other with the same parameter types, whichever
stubs it began with, as long as those were distinct. A name is only taken for a stub after the
overloads of that name were looked through. -/
theorem methodsAndStubs_nodup (client : Client) {stubs : List Prototype} (methods : List Method)
    (distinct : (stubs.map overload).Nodup) :
    ((methodsAndStubs client stubs methods).2.map overload).Nodup := by
  induction methods generalizing stubs with
  | nil => exact distinct
  | cons method others inductionHypothesis =>
    cases found : method.endpoint? with
    | none => simpa only [methodsAndStubs, found] using inductionHypothesis distinct
    | some endpoint =>
      simpa only [methodsAndStubs, found] using
        inductionHypothesis (declareStubs_nodup method endpoint.returnShape distinct)

/-- A stub of a client was there before its methods, or answers one of them. So no stub is declared
that no method calls. -/
theorem mem_methodsAndStubs {client : Client} {stubs : List Prototype} {methods : List Method}
    {stub : Prototype} (present : stub ∈ (methodsAndStubs client stubs methods).2) :
    stub ∈ stubs ∨ ∃ method endpoint declared, method.endpoint? = some endpoint ∧
      (method, methodDef client method endpoint
          (stubNames declared method endpoint.returnShape)) ∈
        (methods.filter Method.isEligible).zip (methodsAndStubs client stubs methods).1 ∧
      (stubNames declared method endpoint.returnShape).Answered method endpoint.returnShape
        stub := by
  induction methods generalizing stubs with
  | nil => exact Or.inl present
  | cons method others inductionHypothesis =>
    cases found : method.endpoint? with
    | none =>
      simp only [methodsAndStubs, found, filter_of_none found] at present ⊢
      exact inductionHypothesis present
    | some endpoint =>
      simp only [methodsAndStubs, found, filter_of_some found,
        List.zip_cons_cons] at present ⊢
      rcases inductionHypothesis present with
        own | ⟨other, target, declared, role, paired, answered⟩
      · rcases mem_declareStubs own with before | answered
        · exact Or.inl before
        · exact Or.inr ⟨method, endpoint, stubs, found, List.mem_cons_self, answered⟩
      · exact Or.inr ⟨other, target, declared, role, List.mem_cons_of_mem _ paired, answered⟩

end TypedClients.Generation
