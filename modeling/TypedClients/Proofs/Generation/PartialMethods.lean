import TypedClients.Proofs.Generation.Calls
import TypedClients.Proofs.Generation.ClientUnit

/-!
# Partial methods of a client

A generated class declares exactly the partial methods that it calls. Two declarations are never
overloads with the same parameter types: stubs are told apart where they are asked for, and no
stub is called like a hook. A call in a method finds a declaration with the types of that method,
also where an overload of the method has declared the name for other types before.

A call fits a declaration by its name, by the number of its arguments and by their types, which are
read off the request that the method made for the stub.
-/

namespace TypedClients.Generation

open CSharp

/-- A declaration that fits a call in a method: it has the called name, and the types of the hook,
of the content or of the value of that method. -/
inductive Fits (client : Client) (method : Method) : Call → Prototype → Prop where
  | error {prototype : Prototype}
      (typed : overload prototype = (errorHook, ["string", "string", "System.Exception"]))
      (gives : prototype.signature.returnType = "void") :
      Fits client method (errorCall client method) prototype
  | slowCall {prototype : Prototype}
      (typed : overload prototype = (slowCallHook, ["string", "string", "long"]))
      (gives : prototype.signature.returnType = "void") :
      Fits client method (slowCall client method) prototype
  | serialize {prototype : Prototype} {content : Parameter} (custom : method.serializer = .custom)
      (chosen : method.contentParameter? = some content)
      (takes : prototype.signature.params.map Param.type = [content.typeText])
      (gives : prototype.signature.returnType = "string") :
      Fits client method ⟨prototype.signature.name, [parameterExpr content]⟩ prototype
  | deserialize {prototype : Prototype} {endpoint : Endpoint} {value : TypeSyntax}
      (custom : method.serializer = .custom) (found : method.endpoint? = some endpoint)
      (typed : endpoint.returnShape.value = some value)
      (takes : prototype.signature.params.map Param.type = ["string"])
      (gives : prototype.signature.returnType = value.render) :
      Fits client method ⟨prototype.signature.name, [.name "content"]⟩ prototype

section Method

variable {client : Client} {method : Method} {endpoint : Endpoint} {names : StubNames}
variable {request : StubRequest} {stub : Prototype}

/-- A stub that serializes the content of a method fits the call that serializes it. -/
theorem Fits.of_serialize (asked : serializeRequest? method = some request)
    (met : request.MetBy (names.serialize.getD "") stub) {content : Parameter}
    (chosen : method.contentParameter? = some content) :
    Fits client method (serializeStubCall names content) stub := by
  obtain ⟨custom, parameter, found, _, rfl⟩ := serializeRequest_eq_some.mp asked
  obtain rfl : parameter = content := Option.some.inj (found.symm.trans chosen)
  have fitting : Fits client method _ stub := .serialize custom chosen met.takes met.gives
  simpa only [met.named, serializeStubCall] using fitting

/-- A stub that deserializes the value of a method fits the call that deserializes it. -/
theorem Fits.of_deserialize (found : method.endpoint? = some endpoint)
    (asked : deserializeRequest? method endpoint.returnShape = some request)
    (met : request.MetBy (names.deserialize.getD "") stub) :
    Fits client method (deserializeStubCall names) stub := by
  obtain ⟨custom, value, typed, _, rfl⟩ := deserializeRequest_eq_some.mp asked
  have fitting : Fits client method _ stub := .deserialize custom found typed met.takes met.gives
  simpa only [met.named, deserializeStubCall] using fitting

/-- A method calls the stubs that answer it, with arguments that fit what they declare. So no stub
is declared for a call that is not there. -/
theorem StubNames.Answered.called (found : method.endpoint? = some endpoint)
    (answered : names.Answered method endpoint.returnShape stub) :
    ∃ call ∈ callsIn (methodBody client method endpoint names), Fits client method call stub := by
  cases answered with
  | serialize asked met =>
    obtain ⟨_, content, chosen, _⟩ := serializeRequest_eq_some.mp asked
    refine ⟨serializeStubCall names content, ?_, .of_serialize asked met chosen⟩
    exact mem_callsIn_methodBody.mpr
      (Or.inl (mem_callsIn_contentStmts.mpr ⟨_, content, asked, chosen, rfl⟩))
  | deserialize asked met =>
    refine ⟨deserializeStubCall names, ?_, .of_deserialize found asked met⟩
    exact mem_callsIn_methodBody.mpr
      (Or.inr (Or.inl (mem_callsIn_responseStmts.mpr ⟨_, asked, rfl⟩)))

/-- The hook for slow calls is declared when a method that is generated is timed. -/
theorem reportsSlowCalls_of_timed (eligible : method ∈ client.eligibleMethods)
    (timed : 0 < method.slowCallThreshold) : client.reportsSlowCalls = true := by
  have some_timed : (client.eligibleMethods.any fun other => other.slowCallThreshold > 0) = true :=
    List.any_eq_true.mpr ⟨method, eligible, decide_eq_true timed⟩
  simp [Client.reportsSlowCalls, some_timed]

/-- Every call of a generated method finds a declaration that fits it: a hook among the hooks, and a
stub among those that were there when the method was done. -/
theorem Generated.declared {stubs : List Prototype} {definition : MethodDef}
    (eligible : method ∈ client.eligibleMethods)
    (generated : Generated client stubs method definition) :
    ∀ call ∈ callsIn definition.body, ∃ prototype ∈ hooks client ++ stubs,
      Fits client method call prototype := by
  obtain ⟨endpoint, before, found, kept⟩ := generated
  intro call called
  have own {stub : Prototype}
      (member : stub ∈ declareStubs before method endpoint.returnShape) :
      stub ∈ hooks client ++ stubs := List.mem_append_right _ (kept.subset member)
  rcases mem_callsIn_methodBody.mp called with content | response | rfl | ⟨timed, rfl⟩
  · obtain ⟨request, parameter, asked, chosen, rfl⟩ := mem_callsIn_contentStmts.mp content
    obtain ⟨stub, member, met⟩ := exists_serializeStub asked
    exact ⟨stub, own member, .of_serialize asked met chosen⟩
  · obtain ⟨request, asked, rfl⟩ := mem_callsIn_responseStmts.mp response
    obtain ⟨stub, member, met⟩ := exists_deserializeStub asked
    exact ⟨stub, own member, .of_deserialize found asked met⟩
  · exact ⟨_, List.mem_append_left _ List.mem_cons_self, .error rfl rfl⟩
  · have reports := reportsSlowCalls_of_timed eligible timed
    have hook : partialMethod "void" slowCallHook
        [⟨"string", "methodName"⟩, ⟨"string", "path"⟩, ⟨"long", "connectionDuration"⟩] ∈
          hooks client := by
      simp [hooks, reports]
    exact ⟨_, List.mem_append_left _ hook, .slowCall rfl rfl⟩

end Method

/-- The hooks are not overloads of each other. -/
theorem hooks_nodup (client : Client) : ((hooks client).map overload).Nodup := by
  have different : errorHook ≠ slowCallHook := by simp [errorHook, slowCallHook]
  unfold hooks
  split
  · simp [overload, partialMethod, different]
  · simp

/-- The name of a stub is not that of a hook. -/
theorem StubNames.Answered.not_hook {stubs : List Prototype} {method : Method}
    {shape : ReturnShape} {stub : Prototype}
    (answered : (stubNames stubs method shape).Answered method shape stub) :
    stub.signature.name ∉ [errorHook, slowCallHook] := by
  cases answered with
  | serialize asked met => exact met.named ▸ serializeName_not_hook asked
  | deserialize asked met => exact met.named ▸ deserializeName_not_hook asked

/-- The name of a hook is one of two. -/
theorem hook_name {client : Client} {hook : Prototype} (member : hook ∈ hooks client) :
    hook.signature.name ∈ [errorHook, slowCallHook] := by
  rcases List.mem_cons.mp member with rfl | other
  · exact List.mem_cons_self
  · split at other
    · obtain rfl := List.mem_singleton.mp other
      exact List.mem_cons_of_mem _ List.mem_cons_self
    · cases other

/-- The partial methods of a generated class have distinct overloads. Each call by a simple name
in a method finds one that fits it, and each that is not a hook is called by some method. -/
theorem partialMethods_closed (client : Client) :
    ((clientUnit client).body.partialMethods.map overload).Nodup ∧
      List.Forall₂ (fun method definition => ∀ call ∈ callsIn definition.body,
          ∃ prototype ∈ (clientUnit client).body.partialMethods, Fits client method call prototype)
        client.eligibleMethods (clientUnit client).body.methods ∧
      ∀ prototype ∈ (clientUnit client).body.partialMethods, prototype ∉ hooks client →
        ∃ method definition,
          (method, definition) ∈ client.eligibleMethods.zip (clientUnit client).body.methods ∧
          ∃ call ∈ callsIn definition.body, Fits client method call prototype := by
  refine ⟨?_, ?_, ?_⟩
  · simp only [clientUnit, List.map_append]
    refine List.nodup_append.mpr ⟨hooks_nodup client, ?_, ?_⟩
    · exact methodsAndStubs_nodup client client.methods List.nodup_nil
    · intro hookSide hookMember stubSide stubMember same
      obtain ⟨hook, isHook, rfl⟩ := List.mem_map.mp hookMember
      obtain ⟨stub, isStub, rfl⟩ := List.mem_map.mp stubMember
      rcases mem_methodsAndStubs isStub with before | ⟨_, _, _, _, _, answered⟩
      · cases before
      · have name : hook.signature.name = stub.signature.name := congrArg Prod.fst same
        exact answered.not_hook (name ▸ hook_name isHook)
  · have each := (List.forall₂_and_left _ _).mpr
      ⟨fun _ eligible => eligible, forall₂_generated client [] client.methods⟩
    exact each.imp fun _ _ ⟨eligible, generated⟩ => generated.declared eligible
  · intro prototype present notHook
    rcases List.mem_append.mp present with isHook | isStub
    · exact absurd isHook notHook
    · rcases mem_methodsAndStubs isStub with before | ⟨method, _, _, found, paired, answered⟩
      · cases before
      · exact ⟨method, _, paired, answered.called found⟩

end TypedClients.Generation
