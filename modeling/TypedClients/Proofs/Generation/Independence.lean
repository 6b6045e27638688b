import TypedClients.Proofs.CSharp.Mapping
import TypedClients.Proofs.Generation.Calls
import TypedClients.Proofs.Generation.ClientUnit

/-!
# Methods generated one by one

What is generated for a method does not depend on the other methods of its client, but for one
thing: a stub of a custom serializer may be declared already under the name that the method asks
for, and then the method calls one with an ordinal behind that name.

The name that a stub is given is a function of what was declared before, so a method is compared
with itself behind no other method: its calls are renamed, and nothing else differs. `stubRenaming`
is that renaming, and it touches no name but those of the two stubs of the method.
-/

namespace TypedClients.Generation

open CSharp Text

/-- A client with other methods. -/
def withMethods (client : Client) (methods : List Method) : Client :=
  { client with methods }

/-- A call of a method by its simple name, under another name. Any other expression stays as it
is. -/
def renameCall (rename : String → String) : Expr → Expr
  | .call (.name callee) types arguments => .call (.name (rename callee)) types arguments
  | expr => expr

/-- A renaming that leaves every name alone, except that it may write an ordinal behind the name of
a stub of a method. -/
def NumbersStubs (method : String) (rename : String → String) : Prop :=
  ∀ name, rename name = name ∨
    (name = "Serialize" ++ method ∨ name = "Deserialize" ++ method) ∧
      ∃ ordinal ≥ 2, rename name = name ++ toString ordinal

/-- A definition that is another one, perhaps with ordinals behind the names of the custom stubs
that it calls. -/
inductive Renumbered (method : Method) (alone : MethodDef) : MethodDef → Prop where
  | same : Renumbered method alone alone
  | numbered {rename : String → String} (custom : method.serializer = .custom)
      (numbers : NumbersStubs method.name rename) :
      Renumbered method alone
        { alone with body := mapExpressionsIn (renameCall rename) alone.body }

/-- A definition that a method has in a client without other methods. -/
def DefinedAlone (client : Client) (method : Method) (alone : MethodDef) : Prop :=
  (clientUnit (withMethods client [method])).body.methods = [alone]

/-- Two definitions of a method, up to ordinals behind the names of its custom stubs. -/
def SameUpToOrdinals (client : Client) (method : Method) (first second : MethodDef) : Prop :=
  ∃ alone, DefinedAlone client method alone ∧ Renumbered method alone first ∧
    Renumbered method alone second

/-! ## Names of stubs -/

/-- No stub that serializes is called like one that deserializes. -/
theorem deserialize_ne_serialize (first second : String) :
    "Deserialize" ++ first ≠ "Serialize" ++ second := by
  simp [← String.toList_inj]

section Renaming

variable {client : Client} {method : Method} {shape : ReturnShape} {declared : List Prototype}

/-- The renaming that gives the names of its stubs to a method that was generated alone. -/
def stubRenaming (method : String) (names : StubNames) (name : String) : String :=
  if name = "Serialize" ++ method then names.serialize.getD name
  else if name = "Deserialize" ++ method then names.deserialize.getD name
  else name

/-- The renaming of a generated method writes ordinals at most: a stub is called by the name that
was asked for, or by that name with a number behind it. -/
theorem stubRenaming_numbers (declared : List Prototype) (method : Method) (shape : ReturnShape) :
    NumbersStubs method.name (stubRenaming method.name (stubNames declared method shape)) := by
  intro name
  unfold stubRenaming
  split
  · rename_i serializes
    cases asked : serializeRequest? method with
    | none => simp [stubNames, asked]
    | some request =>
      obtain ⟨_, content, _, _, rfl⟩ := serializeRequest_eq_some.mp asked
      simp only [stubNames, asked, Option.map_some, Option.getD_some]
      subst serializes
      exact (StubRequest.chosenName_ordinal _ declared).imp_right fun ordinal =>
        ⟨Or.inl rfl, ordinal⟩
  · split
    · rename_i deserializes
      cases asked : deserializeRequest? method shape with
      | none => simp [stubNames, asked]
      | some request =>
        obtain ⟨_, value, _, _, rfl⟩ := deserializeRequest_eq_some.mp asked
        simp only [stubNames, asked, Option.map_some, Option.getD_some]
        subst deserializes
        exact (StubRequest.chosenName_ordinal _ _).imp_right fun ordinal =>
          ⟨Or.inr rfl, ordinal⟩
    · exact Or.inl rfl

/-- Hooks are not renamed. -/
theorem stubRenaming_hook {names : StubNames} {name : String}
    (hook : name ∈ [errorHook, slowCallHook]) (method : String) :
    stubRenaming method names name = name := by
  have other : name ≠ "Serialize" ++ method ∧ name ≠ "Deserialize" ++ method := by
    simp only [List.mem_cons, List.not_mem_nil, or_false] at hook
    rcases hook with rfl | rfl <;> simp [errorHook, slowCallHook, ← String.toList_inj]
  simp [stubRenaming, other]

/-- A method that is generated alone calls its stubs by their bases. Its stub that serializes is not
in the way of the one that deserializes. -/
theorem stubNames_alone (method : Method) (shape : ReturnShape) :
    (∀ request, serializeRequest? method = some request →
        (stubNames [] method shape).serialize.getD "" = request.baseName) ∧
      ∀ request, deserializeRequest? method shape = some request →
        (stubNames [] method shape).deserialize.getD "" = request.baseName := by
  constructor
  · intro request asked
    rw [stubNames_serialize asked]
    exact StubRequest.chosenName_of_agreeing (by simp)
  · intro request asked
    rw [stubNames_deserialize asked]
    refine StubRequest.chosenName_of_agreeing fun stub present named => ?_
    obtain ⟨_, value, _, _, rfl⟩ := deserializeRequest_eq_some.mp asked
    rcases mem_declareOptional present with before | ⟨other, serializes, met⟩
    · cases before
    · obtain ⟨_, content, _, _, rfl⟩ := serializeRequest_eq_some.mp serializes
      have name := met.named.symm.trans named
      rw [StubRequest.chosenName_of_agreeing (by simp)] at name
      exact absurd name.symm (deserialize_ne_serialize _ _)

/-! ## Bodies -/

/-- Statements stay as they are when the names that they call are kept, since a renaming changes the
callee of a call and nothing else. -/
theorem renamed_eq_self {rename : String → String} {body : List Stmt}
    (kept : ∀ call ∈ callsIn body, rename call.callee = call.callee) :
    mapExpressionsIn (renameCall rename) body = body := by
  refine mapExpressionsIn_eq_self body fun expr member => ?_
  unfold renameCall
  split
  · rename_i callee types arguments
    have called : ⟨callee, arguments⟩ ∈ callsIn body :=
      List.mem_flatMap.mpr ⟨_, member, by simp⟩
    rw [kept _ called]
  · rfl

/-- The content of a request is set in the same way, up to the name of the stub. The other
serializers are called by names of their own, which are not renamed. -/
theorem contentStmts_renamed (declared : List Prototype) (method : Method) (shape : ReturnShape) :
    mapExpressionsIn (renameCall (stubRenaming method.name (stubNames declared method shape)))
        (contentStmts method (stubNames [] method shape)) =
      contentStmts method (stubNames declared method shape) := by
  cases chosen : method.contentParameter? with
  | none => simp [contentStmts, chosen]
  | some parameter =>
    rcases (contentParameter_carries chosen).2 with bound | bound
    · have serializes : renameCall
          (stubRenaming method.name (stubNames declared method shape))
            (serializeCall method.serializer (stubNames [] method shape)
              (parameterExpr parameter)) =
          serializeCall method.serializer (stubNames declared method shape)
            (parameterExpr parameter) := by
        cases serializer : method.serializer with
        | newtonsoft | systemTextJson => rfl
        | custom =>
          have asked := serializeRequest_eq_some.mpr ⟨serializer, parameter, chosen, bound, rfl⟩
          have alone := (stubNames_alone method shape).1 _ asked
          simp only [serializeCall, Expr.callName, renameCall, alone, stubRenaming, if_true]
          simp [stubNames, asked]
      simp only [contentStmts, chosen, bound, jsonContent, reduceCtorEq, if_false,
        mapExpressionsIn, Stmt.mapExpressions, serializes]
      rfl
    · have same (names : StubNames) : contentStmts method names = formContent parameter := by
        simp [contentStmts, chosen, bound]
      rw [same, same]
      refine renamed_eq_self ?_
      simp [formContent, Expr.callMember, requestContent, publicProperties, isPlainProperty,
        addFormField]

/-- A response is handled in the same way, up to the name of the stub, in every kind of result. -/
theorem responseStmts_renamed (client : Client) (declared : List Prototype) (method : Method)
    (shape : ReturnShape) :
    mapExpressionsIn (renameCall (stubRenaming method.name (stubNames declared method shape)))
        (responseStmts client method shape (stubNames [] method shape)) =
      responseStmts client method shape (stubNames declared method shape) := by
  have check (kind : Option ResultKind) : mapExpressionsIn
      (renameCall (stubRenaming method.name (stubNames declared method shape)))
        [statusCheck method kind] = [statusCheck method kind] :=
    renamed_eq_self (by simp [callsIn])
  cases typed : shape.value with
  | none => simpa [responseStmts, typed] using check (resultKind? shape)
  | some type =>
    have read (reader : String) : renameCall
        (stubRenaming method.name (stubNames declared method shape))
          (readContent client method reader) = readContent client method reader := rfl
    have result : (giveResult client method (stubNames [] method shape) type).mapExpressions
        (renameCall (stubRenaming method.name (stubNames declared method shape))) =
          giveResult client method (stubNames declared method shape) type := by
      unfold giveResult
      cases kind : ResultKind.ofType type with
      | truth => rfl
      | text | bytes => simp only [Stmt.mapExpressions, read]
      | deserialized element =>
        have deserializes : renameCall
            (stubRenaming method.name (stubNames declared method shape))
              (deserializeCall method.serializer (stubNames [] method shape) type.render) =
            deserializeCall method.serializer (stubNames declared method shape) type.render := by
          cases serializer : method.serializer with
          | newtonsoft | systemTextJson => rfl
          | custom =>
            have asked := deserializeRequest_eq_some.mpr
              ⟨serializer, type, typed, by rw [kind]; rfl, rfl⟩
            have alone := (stubNames_alone method shape).2 _ asked
            simp only [deserializeCall, Expr.callName, renameCall, alone, stubRenaming,
              deserialize_ne_serialize, if_true, if_false]
            simp [stubNames, asked]
        simp only [Stmt.mapExpressions, mapExpressionsIn, read, deserializes]
        rfl
    simpa [responseStmts, typed, result] using check (resultKind? shape)

/-- The body of a method among others is that of the method alone, up to the names of stubs.
Everything around the content and the response calls hooks at most, and these keep their names. -/
theorem methodBody_renamed (client : Client) (declared : List Prototype) (method : Method)
    (endpoint : Endpoint) :
    mapExpressionsIn (renameCall
        (stubRenaming method.name (stubNames declared method endpoint.returnShape)))
          (methodBody client method endpoint (stubNames [] method endpoint.returnShape)) =
      methodBody client method endpoint (stubNames declared method endpoint.returnShape) := by
  have content := contentStmts_renamed declared method endpoint.returnShape
  have response := responseStmts_renamed client declared method endpoint.returnShape
  -- Of the renaming nothing counts any more but that it keeps the hooks.
  generalize hooked : stubRenaming method.name
    (stubNames declared method endpoint.returnShape) = rename at content response ⊢
  have hook {name : String} (member : name ∈ [errorHook, slowCallHook]) : rename name = name :=
    hooked ▸ stubRenaming_hook member method.name
  have address : renameCall rename (urlExpr method endpoint.pathTemplate) =
      urlExpr method endpoint.pathTemplate := by
    unfold urlExpr
    split <;> rfl
  have headers : mapExpressionsIn (renameCall rename) (headerBlocks method) =
      headerBlocks method := renamed_eq_self (by simp)
  have watch : mapExpressionsIn (renameCall rename) (startWatch method) = startWatch method := by
    unfold startWatch
    split <;> rfl
  have handler : mapExpressionsIn (renameCall rename) (exceptionHandler client method) =
      exceptionHandler client method := by
    refine renamed_eq_self ?_
    unfold exceptionHandler
    split <;> simp [Expr.callName, hook, reportedName, Expr.text]
  have check : mapExpressionsIn (renameCall rename) (slowCallCheck client method) =
      slowCallCheck client method :=
    renamed_eq_self (by simp [slowCallCheck, Expr.callMember, Expr.callName, hook, elapsed,
      reportedName, Expr.text])
  have cleanup : mapCleanup (renameCall rename) (slowCallCleanup client method) =
      slowCallCleanup client method := by
    unfold slowCallCleanup
    split <;> simp [check]
  have final : mapExpressionsIn (renameCall rename) (finalReturn method endpoint.returnShape) =
      finalReturn method endpoint.returnShape := by
    unfold finalReturn
    split
    · rfl
    · split
      · rename_i kind _ _
        rcases kind with _ | _ | _ | (_ | element) <;> rfl
      · rfl
  have request : (requestStmt client method endpoint
      (stubNames [] method endpoint.returnShape)).mapExpressions (renameCall rename) =
        requestStmt client method endpoint (stubNames declared method endpoint.returnShape) := by
    simp only [requestStmt, sendStmt, Stmt.mapExpressions, mapExpressionsIn_append,
      mapExpressionsIn, headers, content, response]
    rfl
  simp only [methodBody, mapExpressionsIn, mapExpressionsIn_append, Stmt.mapExpressions, mapHandler,
    address, watch, request, handler, cleanup, final]

/-! ## Methods -/

/-- A method that is generated with other stubs declared before it is renumbered at most: it has the
text that it has alone, except for the ordinals behind the names of the stubs that it calls. -/
theorem renumbered_methodDef (client : Client) (declared : List Prototype) (method : Method)
    (endpoint : Endpoint) :
    Renumbered method
      (methodDef client method endpoint (stubNames [] method endpoint.returnShape))
      (methodDef client method endpoint (stubNames declared method endpoint.returnShape)) := by
  cases serializer : method.serializer with
  | newtonsoft | systemTextJson =>
    have same : stubNames declared method endpoint.returnShape =
        stubNames [] method endpoint.returnShape := by
      simp [stubNames, serializeRequest?, deserializeRequest?, serializer]
    rw [same]
    exact .same
  | custom =>
    have numbered : Renumbered method
        (methodDef client method endpoint (stubNames [] method endpoint.returnShape)) _ :=
      .numbered serializer (stubRenaming_numbers declared method endpoint.returnShape)
    rwa [methodDef, methodBody_renamed] at numbered

/-- A method with an endpoint is generated in a client without other methods. -/
theorem definedAlone {endpoint : Endpoint} (client : Client)
    (found : method.endpoint? = some endpoint) :
    DefinedAlone client method
      (methodDef client method endpoint (stubNames [] method endpoint.returnShape)) := by
  have same (names : StubNames) : methodDef (withMethods client [method]) method endpoint names =
      methodDef client method endpoint names := methodDef_congr rfl rfl
  rw [← same]
  simp [DefinedAlone, clientUnit, withMethods, methodsAndStubs, found]

/-- What is generated for a method among others is what is generated for it alone, up to
ordinals. -/
theorem Generated.renumbered {stubs : List Prototype} {definition : MethodDef}
    (generated : Generated client stubs method definition) :
    ∃ alone, DefinedAlone client method alone ∧ Renumbered method alone definition := by
  obtain ⟨endpoint, declared, found, _⟩ := generated
  exact ⟨_, definedAlone client found, renumbered_methodDef client declared method endpoint⟩

/-- A method without a custom serializer is not renumbered. -/
theorem Renumbered.eq_of_not_custom {alone definition : MethodDef}
    (renumbered : Renumbered method alone definition) (other : method.serializer ≠ .custom) :
    definition = alone := by
  cases renumbered with
  | same => rfl
  | numbered custom _ => exact absurd custom other

/-- Two definitions of a method, each among methods of its own, are the same up to ordinals, as each
of them is the definition that the method has alone, renumbered. -/
theorem Generated.sameUpToOrdinals {firstStubs secondStubs : List Prototype}
    {first second : MethodDef} (inFirst : Generated client firstStubs method first)
    (inSecond : Generated client secondStubs method second) :
    SameUpToOrdinals client method first second := by
  obtain ⟨alone, single, renumbered⟩ := inFirst.renumbered
  obtain ⟨other, again, likewise⟩ := inSecond.renumbered
  obtain rfl : alone = other := by
    rw [DefinedAlone] at single again
    simpa using single.symm.trans again
  exact ⟨alone, single, renumbered, likewise⟩

end Renaming

/-- What is related to the same items is related pair by pair. The items stand between the two
lists, so neither list has to be related to the other. -/
theorem forall₂_zip_both {First Second Third : Type} {left : First → Second → Prop}
    {right : First → Third → Prop} {items : List First} {seconds : List Second}
    {thirds : List Third} (toSeconds : List.Forall₂ left items seconds)
    (toThirds : List.Forall₂ right items thirds) :
    List.Forall₂ (fun item pair => left item pair.1 ∧ right item pair.2) items
      (seconds.zip thirds) := by
  induction toSeconds generalizing thirds with
  | nil => exact .nil
  | cons head _ inductionHypothesis =>
    cases toThirds with
    | cons first others => exact .cons ⟨head, first⟩ (inductionHypothesis others)

/-- A method is generated as it would be without the other methods of its client, but for ordinals
behind the names of custom stubs. So a method without a custom serializer is generated alike
whatever other methods there are, and in what order, and the methods of two lists one behind the
other are those of the lists, up to such ordinals in those of the second. -/
theorem methods_are_independent (client : Client) :
    List.Forall₂ (fun method definition =>
        ∃ alone, DefinedAlone client method alone ∧ Renumbered method alone definition)
      client.eligibleMethods (clientUnit client).body.methods ∧
    (∀ others method first second, method.serializer ≠ .custom →
      (method, first) ∈ client.eligibleMethods.zip (clientUnit client).body.methods →
      (method, second) ∈ (withMethods client others).eligibleMethods.zip
        (clientUnit (withMethods client others)).body.methods →
      first = second) ∧
    ∀ before after, ∃ behind,
      (clientUnit (withMethods client (before ++ after))).body.methods =
        (clientUnit (withMethods client before)).body.methods ++ behind ∧
      behind.length = (clientUnit (withMethods client after)).body.methods.length ∧
      List.Forall₂ (fun method pair => SameUpToOrdinals client method pair.1 pair.2)
        (withMethods client after).eligibleMethods
        (behind.zip (clientUnit (withMethods client after)).body.methods) := by
  have generated (methods : List Method) (stubs : List Prototype) :
      List.Forall₂ (Generated client (methodsAndStubs client stubs methods).2)
        (methods.filter Method.isEligible) (methodsAndStubs client stubs methods).1 :=
    forall₂_generated client stubs methods
  -- Of its client a method only sees fields that other methods leave alone.
  have fields (methods : List Method) (stubs : List Prototype) (list : List Method) :
      methodsAndStubs (withMethods client methods) stubs list =
        methodsAndStubs client stubs list := by
    induction list generalizing stubs with
    | nil => rfl
    | cons method list inductionHypothesis =>
      have same (endpoint : Endpoint) (names : StubNames) :
          methodDef (withMethods client methods) method endpoint names =
            methodDef client method endpoint names := methodDef_congr rfl rfl
      simp only [methodsAndStubs, inductionHypothesis, same]
  have methods_eq (methods : List Method) :
      (clientUnit (withMethods client methods)).body.methods =
        (methodsAndStubs client [] methods).1 := by
    rw [← fields methods]
    rfl
  refine ⟨?_, ?_, ?_⟩
  · exact (generated client.methods []).imp fun _ _ each => each.renumbered
  · intro others method first second other inFirst inSecond
    rw [methods_eq] at inSecond
    have firstGenerated := List.forall₂_zip (generated client.methods []) inFirst
    have secondGenerated := List.forall₂_zip (generated others []) inSecond
    obtain ⟨alone, _, renumbered, likewise⟩ := firstGenerated.sameUpToOrdinals secondGenerated
    rw [renumbered.eq_of_not_custom other, likewise.eq_of_not_custom other]
  · intro before after
    have behind := generated after (methodsAndStubs client [] before).2
    have part := generated after []
    refine ⟨(methodsAndStubs client (methodsAndStubs client [] before).2 after).1, ?_, ?_, ?_⟩
    · rw [methods_eq, methods_eq, methodsAndStubs_append]
    · rw [methods_eq, ← behind.length_eq, part.length_eq]
    · rw [methods_eq]
      refine (forall₂_zip_both behind part).imp fun _ _ both => ?_
      exact both.1.sameUpToOrdinals both.2

end TypedClients.Generation
