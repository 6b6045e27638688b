import TypedClients.Proofs.Generation.DefiniteReturn
import TypedClients.Proofs.Generation.Request
import TypedClients.Proofs.Generation.ResultKind

/-!
# Values that are given back

A method gives back the value of the response or, where there is none, its fallback: for a status
that reports a failure, and at its end. Both are chosen by the type of the value, so that they fit
it and each other. The `?` that a type may have outside is looked through to recognise the type,
but not to see an array, which is why a nullable array that is deserialized falls back on no
empty array.

The values are listed with the conditions under which they are returned, statement by statement, and
each of them is written out: the awaited call that reads the response, and the constant that stands
for nothing.
-/

namespace TypedClients.Generation

open CSharp

/-- A call that makes a value of a type from the text of the content. The type is an argument of the
call, or the result of the partial method that is called. -/
inductive Deserializes (client : Client) (type : String) : Serializer → Expr → Prop where
  | newtonsoft : Deserializes client type .newtonsoft
      (.call (.member (.name "Newtonsoft.Json.JsonConvert") "DeserializeObject") [type]
        [.name "content"])
  | systemTextJson : Deserializes client type .systemTextJson
      (.call (.member (.name "System.Text.Json.JsonSerializer") "Deserialize") [type]
        [.name "content"])
  | custom {stub : Prototype} (declared : stub ∈ (clientUnit client).body.partialMethods)
      (takes : stub.signature.params.map Param.type = ["string"])
      (gives : stub.signature.returnType = type) :
      Deserializes client type .custom (.callName stub.signature.name [.name "content"])

/-- What is given back in place of a value that is deserialized. -/
def emptyValue : TypeSyntax → String
  | .array element => "System.Array.Empty<" ++ element.render ++ ">()"
  | _ => "default"

/-- An expression awaits the content of the response in one of the forms that it can be read in. The
cancellation token of the method is passed on where the runtime can take it. -/
def ReadsContent (client : Client) (method : Method) (reader : String) (expr : Expr) : Prop :=
  expr = .await (.call (.member (.member (.name "response") "Content") reader) []
    ((if client.targetsModernRuntime then method.cancellationParameter? else none).toList.map
      fun token => .name (escapedIdentifier token.name)))

/-- The fallback of a method and the value of its response, as they fit the type of its value. -/
structure FitsType (client : Client) (method : Method) (type : TypeSyntax)
    (fallback produced : Expr) : Prop where
  /-- Getting there means success, and a truth value says so. -/
  truth : type.withoutNullable.IsTruth ↔ fallback.print = "false" ∧ produced.print = "true"
  /-- A text is the content as it came. -/
  text : type.withoutNullable.IsText ↔ fallback.print = "string.Empty" ∧
    ReadsContent client method "ReadAsStringAsync" produced
  /-- So is an array of bytes. -/
  bytes : type.withoutNullable.IsBytes ↔ fallback.print = "System.Array.Empty<byte>()" ∧
    ReadsContent client method "ReadAsByteArrayAsync" produced
  /-- Every other value is deserialized as a value of the type, as it is written. -/
  other : ¬ type.withoutNullable.IsTruth → ¬ type.withoutNullable.IsText →
    ¬ type.withoutNullable.IsBytes → fallback.print = emptyValue type ∧
      Deserializes client type.render method.serializer produced

/-- The conditions on which the value of a response is given back. -/
def valueConditions : ResultKind → List Expr
  | .deserialized _ =>
    [hasContent, .not (.callMember (.name "string") "IsNullOrEmpty" [.name "content"])]
  | _ => []

/-- The returns of a method with a value, each behind its conditions. The fallback stands in front
of the value of the response for a refused status, unless the method throws, and behind it unless
the method throws and has that value on no condition. -/
def returnsWith (method : Method) (fallback : Expr) (conditions : List Expr) (produced : Expr) :
    List (List Expr × Expr) :=
  (if method.throwsOnFailure then [] else [([refusedStatus], fallback)]) ++
    (conditions, produced) ::
      (if method.throwsOnFailure && conditions.isEmpty then [] else [([], fallback)])

section Returns

variable {method : Method} {shape : ReturnShape} {kind : ResultKind}

/-- The examination of the status returns the fallback for a refused status, or it throws and
returns nothing. -/
theorem returns_statusCheck :
    (statusCheck method (some kind)).returns =
      if method.throwsOnFailure then [] else [([refusedStatus], kind.fallback)] := by
  cases throws : method.throwsOnFailure <;> simp [statusCheck, throws, refusedStatus]

/-- The statement that gives the result returns one value, under the conditions that belong to its
kind. -/
theorem returns_giveResult (client : Client) (method : Method) (names : StubNames)
    (type : TypeSyntax) :
    (giveResult client method names type).returns =
      [(valueConditions (ResultKind.ofType type), responseValue client method names type)] := by
  unfold giveResult responseValue
  generalize ResultKind.ofType type = kind
  cases kind <;> rfl

/-- The end of a method is reached unless the method throws and has its value on no condition. -/
theorem returnsOf_finalReturn (found : resultKind? shape = some kind) :
    returnsOf (finalReturn method shape) =
      if method.throwsOnFailure && (valueConditions kind).isEmpty then []
      else [([], kind.fallback)] := by
  have certain : (valueConditions kind).isEmpty = !kind.mayGiveNothing := by cases kind <;> rfl
  cases throws : method.throwsOnFailure <;> cases falls : kind.mayGiveNothing <;>
    simp [finalReturn, found, certain, throws, falls]

/-- The returns of the body of a method with a value. -/
theorem returnsOf_methodBody {endpoint : Endpoint} {type : TypeSyntax} (client : Client)
    (method : Method) (names : StubNames) (typed : endpoint.returnShape.value = some type) :
    returnsOf (methodBody client method endpoint names) =
      returnsWith method (ResultKind.ofType type).fallback
        (valueConditions (ResultKind.ofType type)) (responseValue client method names type) := by
  have kind : resultKind? endpoint.returnShape = some (ResultKind.ofType type) := by
    simp [resultKind?, typed]
  have response : returnsOf (responseStmts client method endpoint.returnShape names) =
      (if method.throwsOnFailure then []
        else [([refusedStatus], (ResultKind.ofType type).fallback)]) ++
        [(valueConditions (ResultKind.ofType type), responseValue client method names type)] := by
    simp [responseStmts, typed, kind, returns_statusCheck, returns_giveResult]
  rw [returnsOf_methodBody_eq_append, response, returnsOf_finalReturn kind, returnsWith,
    List.append_assoc, List.singleton_append]

end Returns

section Values

variable {client : Client} {method : Method} {names : StubNames} {type : TypeSyntax}

/-- What reads the content is a read of the content. -/
theorem readsContent_iff {reader : String} {expr : Expr} :
    ReadsContent client method reader expr ↔ expr = readContent client method reader := by
  have arguments : ((if client.targetsModernRuntime then method.cancellationParameter?
      else none).toList.map fun token => Expr.name (escapedIdentifier token.name)) =
        readArguments client method := by
    unfold readArguments cancellationArgument
    split
    · cases method.cancellationParameter? <;> rfl
    · rfl
  rw [ReadsContent, arguments]
  rfl

/-- An empty array is printed with its element type behind the call that makes it. -/
theorem print_emptyArray (element : String) :
    (emptyArray element).print = "System.Array.Empty<" ++ element ++ ">()" := by
  simp [emptyArray, Expr.print, printTypeArguments, printAll, ← String.toList_inj]

/-- Nothing else falls back on what is printed like the fallback of truth values or of texts. -/
theorem print_fallback_eq_iff {kind known : ResultKind} (scalar : known = .truth ∨ known = .text) :
    kind.fallback.print = known.fallback.print ↔ kind = known := by
  rcases scalar with rfl | rfl <;> rcases kind with _ | _ | _ | _ | element <;>
    simp [ResultKind.fallback, print_emptyArray, Expr.print, Literal.print, ← String.toList_inj]

/-- Only byte arrays are read as such from the response. -/
theorem responseValue_eq_bytes_iff :
    responseValue client method names type = readContent client method "ReadAsByteArrayAsync" ↔
      ResultKind.ofType type = .bytes := by
  unfold responseValue
  cases ResultKind.ofType type with
  | truth => simp [readContent]
  | text => simp [readContent, Expr.callMember]
  | bytes => simp
  | deserialized _ => cases method.serializer <;> simp [deserializeCall, readContent, Expr.callName]

/-- The fallback of a type and the value of the response fit the type. The cases are the kinds of
results, each with the types for which it is chosen. -/
theorem fitsType (wellNamed : type.WellNamed)
    (reads : (ResultKind.ofType type).mayGiveNothing = true →
      Deserializes client type.render method.serializer
        (deserializeCall method.serializer names type.render)) :
    FitsType client method type (ResultKind.ofType type).fallback
      (responseValue client method names type) := by
  have bareNamed : type.withoutNullable.WellNamed := by
    cases wellNamed with
    | nullable inner => exact inner
    | named rule inner => exact .named rule inner
    | array inner => exact .array inner
  constructor
  case truth =>
    have falls : (ResultKind.ofType type).fallback.print = "false" ↔ _ :=
      print_fallback_eq_iff (Or.inl rfl)
    rw [falls, ← ResultKind.ofType_eq_truth_iff]
    refine ⟨fun truth => ⟨truth, ?_⟩, fun fits => fits.1⟩
    rw [responseValue, truth]
    rfl
  case text =>
    have falls : (ResultKind.ofType type).fallback.print = "string.Empty" ↔ _ :=
      print_fallback_eq_iff (Or.inr rfl)
    rw [falls, ← ResultKind.ofType_eq_text_iff, readsContent_iff]
    refine ⟨fun text => ⟨text, ?_⟩, fun fits => fits.1⟩
    rw [responseValue, text]
  case bytes =>
    rw [readsContent_iff, responseValue_eq_bytes_iff, ← ResultKind.ofType_eq_bytes_iff bareNamed]
    refine ⟨fun bytes => ⟨?_, bytes⟩, fun fits => fits.2⟩
    rw [bytes]
    exact print_emptyArray "byte"
  case other =>
    intro noTruth noText noBytes
    rw [← ResultKind.ofType_eq_truth_iff] at noTruth
    rw [← ResultKind.ofType_eq_text_iff] at noText
    rw [← ResultKind.ofType_eq_bytes_iff bareNamed] at noBytes
    have kind := ResultKind.ofType_of_other noTruth noText noBytes
    constructor
    · rw [kind]
      cases type with
      | array element => exact print_emptyArray element.render
      | named | nullable => rfl
    · rw [responseValue, kind]
      exact reads (by rw [kind]; rfl)

end Values

/-- Every return of a generated method with a value gives back the value of the response, or the
fallback that is reported for its return type. Both fit the type of the value that the text of the
return type was read as: how the text is spelled plays no part, and neither do the other settings of
the method or its client. -/
theorem returned_values_fit (client : Client) :
    List.Forall₂ (fun method definition => ∀ endpoint, method.endpoint? = some endpoint →
        ∀ text type, ReturnShape.resolve text = .ok endpoint.returnShape →
          endpoint.returnShape.value = some type →
            ∃ fallback produced,
              fallbackText? endpoint.returnShape = some fallback.print ∧
              returnsOf definition.body = returnsWith method fallback
                (valueConditions (ResultKind.ofType type)) produced ∧
              FitsType client method type fallback produced)
      client.eligibleMethods (clientUnit client).body.methods := by
  refine (forall₂_generated client [] client.methods).imp fun method definition generated => ?_
  obtain ⟨endpoint, declared, found, kept⟩ := generated
  intro other same text type resolved typed
  obtain rfl : endpoint = other := Option.some.inj (found.symm.trans same)
  have wellNamed := (ReturnShape.wellNamed_of_resolve resolved).value type typed
  refine ⟨_, _, by simp [fallbackText?, resultKind?, typed],
    returnsOf_methodBody client method _ typed, fitsType wellNamed fun read => ?_⟩
  cases serializer : method.serializer with
  | newtonsoft => exact .newtonsoft
  | systemTextJson => exact .systemTextJson
  | custom =>
    obtain ⟨stub, member, met⟩ := exists_deserializeStub
      (deserializeRequest_eq_some.mpr ⟨serializer, type, typed, read, rfl⟩)
    have present : stub ∈ (clientUnit client).body.partialMethods :=
      List.mem_append_right _ (kept.subset member)
    have called := Deserializes.custom present met.takes met.gives
    simpa only [met.named, deserializeCall] using called

/-- An array of bytes under an alias, in capitals, and with a `?` outside. -/
def scanType : TypeSyntax :=
  .nullable (.array (.named "global::System.BYTE" []))

/-- A method that does not throw and gives such an array. -/
def scanMethod : Method where
  name := "ScanAsync"
  parameters := []
  role := .ok ⟨.get, "/scan", ⟨"Task", some scanType⟩⟩
  throwsOnFailure := false
  serializer := .custom
  slowCallThreshold := 0
  contentSuppressed := false

/-- A client with that method alone. -/
def scanClient : Client where
  scope := ""
  className := "Scanner"
  imports := []
  methods := [scanMethod]
  serializer := .custom
  slowCallThreshold := 0
  targetsModernRuntime := true

/-- The method for the scan has three returns, and the values fit its type, which is an array of
bytes by a qualified name in letters of another case. -/
theorem scan_values_fit :
    scanMethod.endpoint? = some ⟨.get, "/scan", ⟨"Task", some scanType⟩⟩ ∧
      ReturnShape.resolve "Task< global::System.BYTE [ ]? >" = .ok ⟨"Task", some scanType⟩ ∧
      ∃ definition fallback produced, (clientUnit scanClient).body.methods = [definition] ∧
        returnsOf definition.body =
          [([refusedStatus], fallback), ([], produced), ([], fallback)] ∧
        fallback.print = "System.Array.Empty<byte>()" ∧
        produced = .await (.call
          (.member (.member (.name "response") "Content") "ReadAsByteArrayAsync") [] []) := by
  have value : scanType.WellNamed := .nullable (.array (.named (by decide +kernel) (by simp)))
  have wellNamed : TypeSyntax.WellNamed (.named "Task" [scanType]) :=
    .named (by decide +kernel) (by simp [value])
  have resolved : ReturnShape.resolve "Task< global::System.BYTE [ ]? >" =
      .ok ⟨"Task", some scanType⟩ :=
    ReturnShape.resolve_eq_ok.mpr ⟨TypeSyntax.parse_eq_ok.mpr
      (wellNamed.spells.respaced (by decide +kernel)), by decide⟩
  have stands : StandsFor "System.Byte" ("global::" ++ "System.BYTE") := .aliased (by decide)
  have bytes : scanType.withoutNullable.IsBytes :=
    ⟨_, rfl, _, rfl, "System.Byte", by simp, stands⟩
  have kind : ResultKind.ofType scanType = .bytes :=
    (ResultKind.ofType_eq_bytes_iff (by cases value; assumption)).mpr bytes
  have eligible : scanClient.eligibleMethods = [scanMethod] := rfl
  have each := returned_values_fit scanClient
  rw [eligible] at each
  obtain ⟨definition, others, first, rest, generated⟩ := List.forall₂_cons_left_iff.mp each
  obtain rfl := List.forall₂_nil_left_iff.mp rest
  obtain ⟨fallback, produced, _, returns, fits⟩ := first _ rfl _ _ resolved rfl
  rw [kind] at returns
  exact ⟨rfl, resolved, definition, fallback, produced, generated, returns, fits.bytes.mp bytes⟩

end TypedClients.Generation
