import TypedClients.Proofs.Generation.Interpolation
import TypedClients.Proofs.Generation.PartialMethods

/-!
# Stubs that methods share

Stubs are named after the methods that call them, so that overloads of one method can share them.
A stub that serializes belongs to one method name: it always gives a text, so none is ever refused
for its result. One that deserializes takes an ordinal where an overload of the method has another
result, and behind the ordinal the name may be what another method asks for. Two method names
can come to share a stub in this way exactly when one of them is the other with a number behind.
-/

namespace TypedClients.Generation

open CSharp Extraction Text

/-- A generated method of the given name calls a partial method of its class. -/
def CallsStub (client : Client) (name : String) (stub : Prototype) : Prop :=
  ∃ method definition,
    (method, definition) ∈ client.eligibleMethods.zip (clientUnit client).body.methods ∧
      method.name = name ∧ ∃ call ∈ callsIn definition.body, Fits client method call stub

/-- A stub of a client that generated methods of both names call. -/
structure SharedStub (client : Client) (first second : String) (stub : Prototype) : Prop where
  declared : stub ∈ (clientUnit client).body.partialMethods
  not_hook : stub ∉ hooks client
  calledByFirst : CallsStub client first stub
  calledBySecond : CallsStub client second stub

/-- The names that a stub of a method may have. -/
inductive StubName (method : String) : String → Prop where
  | serialize : StubName method ("Serialize" ++ method)
  | deserialize {name : String}
      (numbered : name = "Deserialize" ++ method ∨ Numbered ("Deserialize" ++ method) name) :
      StubName method name

/-- Under a name that stubs of methods with two names may have, a stub deserializes, and one of the
names is the other with a number behind. -/
theorem StubName.comparable {first second name : String} (ofFirst : StubName first name)
    (ofSecond : StubName second name) (different : first ≠ second) :
    (∃ rest, name = "Deserialize" ++ rest) ∧ (Numbered first second ∨ Numbered second first) := by
  have begins {method name : String}
      (numbered : name = "Deserialize" ++ method ∨ Numbered ("Deserialize" ++ method) name) :
      ∃ rest, name = "Deserialize" ++ rest := by
    rcases numbered with rfl | ⟨number, _, rfl⟩
    · exact ⟨method, rfl⟩
    · exact ⟨method ++ toString number, String.append_assoc⟩
  have apart {left right : String} : "Serialize" ++ left ≠ "Deserialize" ++ right := by
    simp [← String.toList_inj]
  cases ofFirst with
  | serialize =>
    generalize same : "Serialize" ++ first = name at ofSecond
    cases ofSecond with
    | serialize => exact absurd (by simpa using same) different
    | deserialize numbered =>
      obtain ⟨rest, other⟩ := begins numbered
      exact absurd (same.trans other) apart
  | deserialize fromFirst =>
    refine ⟨begins fromFirst, ?_⟩
    cases ofSecond with
    | serialize =>
      obtain ⟨rest, other⟩ := begins fromFirst
      exact absurd other apart
    | deserialize fromSecond =>
      have compared := Numbered.comparable fromFirst fromSecond (by simpa using different)
      simpa only [Numbered.append_iff] using compared

section Client

variable {client : Client} {method : Method} {stub : Prototype}

/-- A stub that is named as one that serializes gives a text. -/
theorem gives_text {rest : String} {methods : List Method}
    (present : stub ∈ (methodsAndStubs client [] methods).2)
    (named : stub.signature.name = "Serialize" ++ rest) : stub.signature.returnType = "string" := by
  rcases mem_methodsAndStubs present with before | ⟨_, endpoint, declared, _, _, answered⟩
  · cases before
  · cases answered with
    | serialize asked met =>
      obtain ⟨_, content, _, _, rfl⟩ := serializeRequest_eq_some.mp asked
      exact met.gives
    | deserialize asked met =>
      obtain ⟨_, value, _, _, rfl⟩ := deserializeRequest_eq_some.mp asked
      rw [stubNames_deserialize asked] at met
      obtain ⟨ordinal, chosen⟩ := StubRequest.chosenName_begins _ _
      have name := named.symm.trans (met.named.trans chosen)
      simp [← String.toList_inj] at name

/-- A call is of the name of what fits it. -/
theorem Fits.called {call : Call} (fits : Fits client method call stub) :
    call.callee = stub.signature.name := by
  cases fits with
  | error typed _ => exact (congrArg Prod.fst typed).symm
  | slowCall typed _ => exact (congrArg Prod.fst typed).symm
  | serialize => rfl
  | deserialize => rfl

/-- A stub that a generated method calls has one of the names of its stubs: its own name with a word
in front, and perhaps a number behind. -/
theorem Generated.stubName {definition : MethodDef} {call : Call}
    (generated : Generated client (methodsAndStubs client [] client.methods).2 method definition)
    (called : call ∈ callsIn definition.body) (fits : Fits client method call stub)
    (not_hook : stub.signature.name ∉ [errorHook, slowCallHook]) :
    StubName method.name stub.signature.name := by
  obtain ⟨endpoint, declared, found, kept⟩ := generated
  rw [← fits.called] at not_hook ⊢
  rcases mem_callsIn_methodBody.mp called with content | response | rfl | ⟨_, rfl⟩
  · obtain ⟨request, parameter, asked, _, rfl⟩ := mem_callsIn_contentStmts.mp content
    have name : (stubNames declared method endpoint.returnShape).serialize.getD "" =
        request.chosenName declared := stubNames_serialize asked
    obtain ⟨_, _, _, _, rfl⟩ := serializeRequest_eq_some.mp asked
    rw [serializeStubCall, name, StubRequest.chosenName_of_agreeing fun stub before named => ?_]
    · exact .serialize
    · have present := kept.subset ((prefix_declareStubs _ _ _).subset before)
      exact gives_text present named
  · obtain ⟨request, asked, rfl⟩ := mem_callsIn_responseStmts.mp response
    have name : (stubNames declared method endpoint.returnShape).deserialize.getD "" = _ :=
      stubNames_deserialize asked
    obtain ⟨_, _, _, _, rfl⟩ := deserializeRequest_eq_some.mp asked
    rw [deserializeStubCall, name]
    exact .deserialize (StubRequest.chosenName_numbered _ _)
  · simp [errorCall] at not_hook
  · simp [slowCall] at not_hook

/-- A stub that methods of a name call, and that is no hook, has one of the names of their stubs. -/
theorem CallsStub.stubName {name : String} (calls : CallsStub client name stub)
    (declared : stub ∈ (clientUnit client).body.partialMethods) (not_hook : stub ∉ hooks client) :
    StubName name stub.signature.name := by
  obtain ⟨method, definition, paired, rfl, call, called, fits⟩ := calls
  have generated := List.forall₂_zip (forall₂_generated client [] client.methods) paired
  refine generated.stubName called fits ?_
  rcases List.mem_append.mp declared with isHook | isStub
  · exact absurd isHook not_hook
  · rcases mem_methodsAndStubs isStub with before | ⟨_, _, _, _, _, answered⟩
    · cases before
    · exact answered.not_hook

/-- The only stub of a name is the one that is called by that name. -/
theorem CallsStub.of_only {name : String}
    (only : ∀ other ∈ (clientUnit client).body.partialMethods,
      other.signature.name = stub.signature.name → other = stub)
    (called : ∃ pair ∈ client.eligibleMethods.zip (clientUnit client).body.methods,
      pair.1.name = name ∧ stub.signature.name ∈ (callsIn pair.2.body).map Call.callee) :
    CallsStub client name stub := by
  obtain ⟨⟨method, definition⟩, paired, named, called⟩ := called
  obtain ⟨call, member, callee⟩ := List.mem_map.mp called
  have generated := List.forall₂_zip (forall₂_generated client [] client.methods) paired
  obtain ⟨other, declares, fits⟩ := generated.declared (List.of_mem_zip paired).1 call member
  obtain rfl := only other declares (fits.called.symm.trans callee)
  exact ⟨method, definition, paired, named, call, member, fits⟩

/-- A method that reads its value with a stub calls the one that is chosen after the methods before
it. -/
theorem CallsStub.of_split {before after : List Method} {endpoint : Endpoint}
    {request : StubRequest} (split : client.methods = before ++ method :: after)
    (found : method.endpoint? = some endpoint)
    (asked : deserializeRequest? method endpoint.returnShape = some request)
    (met : request.MetBy (request.chosenName (declareOptional (methodsAndStubs client [] before).2
      (serializeRequest? method))) stub) :
    CallsStub client method.name stub := by
  have name : (stubNames (methodsAndStubs client [] before).2 method
      endpoint.returnShape).deserialize.getD "" = _ := stubNames_deserialize asked
  rw [← name] at met
  refine ⟨method, methodDef client method endpoint _, ?_, rfl,
    StubNames.Answered.called found (.deserialize asked met)⟩
  have lengths := (forall₂_generated client [] before).length_eq
  simp only [clientUnit, Client.eligibleMethods, split, methodsAndStubs_append, methodsAndStubs,
    found, List.filter_append, filter_of_some found, List.zip_append lengths,
    List.zip_cons_cons]
  exact List.mem_append_right _ List.mem_cons_self

end Client

/-! ## Overloads with a result each -/

/-- A type for each index. -/
def itemType (index : Nat) : TypeSyntax :=
  .named ("Item" ++ toString index) []

/-- The type for an index is spelled with the digits of the index. -/
theorem render_itemType (index : Nat) : (itemType index).render = "Item" ++ toString index := by
  simp [itemType, TypeSyntax.render]

/-- The name of such a type is looked up in small letters, with nothing taken away from its front.
So it is none of the names that are recognised. -/
theorem recognisedName_item (rest : String) :
    recognisedName ("Item" ++ rest) = "item" ++ folded rest := by
  rw [← String.toList_inj]
  simp [recognisedName, folded, withoutStart, behind?]

/-- No item is recognised as a type of another kind. -/
theorem ofType_itemType (index : Nat) :
    ResultKind.ofType (itemType index) = .deserialized none := by
  have plain : (itemType index).withoutNullable = itemType index := rfl
  have other (name : String) (head : name.toList.head? ≠ some 'i') :
      ¬ "item" ++ folded (toString index) = name := by
    rintro rfl
    simp at head
  simp only [ResultKind.ofType, plain, render_itemType, recognisedName_item,
    other "bool" (by decide), other "boolean" (by decide), other "system.boolean" (by decide),
    other "string" (by decide), other "system.string" (by decide), other "byte[]" (by decide),
    other "system.byte[]" (by decide), or_self, if_false]
  rfl

/-- An overload of a method that takes and gives an item, with a custom serializer. -/
def itemMethod (name : String) (index : Nat) : Method where
  name
  parameters := [⟨"item", (itemType index).render, .query, none, none⟩]
  role := .ok ⟨.get, "/items", ⟨"Task", some (itemType index)⟩⟩
  throwsOnFailure := false
  serializer := .custom
  slowCallThreshold := 0
  contentSuppressed := false

/-- The stub that such an overload asks for. -/
def itemRequest (name : String) (index : Nat) : StubRequest where
  returnType := "Item" ++ toString index
  baseName := "Deserialize" ++ name
  params := [⟨"string", "content"⟩]

/-- The stub of the overload at an index, when all of them have been declared in order. -/
def itemStub (name : String) (index : Nat) : Prototype :=
  partialMethod ("Item" ++ toString index) (candidateName ("Deserialize" ++ name) index)
    [⟨"string", "content"⟩]

/-- The stubs of the first overloads of a method. -/
def itemStubs (name : String) (count : Nat) : List Prototype :=
  (List.range count).map (itemStub name)

/-- Such an overload sends no content, so it asks for no stub to write one. -/
theorem serializeRequest_itemMethod (name : String) (index : Nat) :
    serializeRequest? (itemMethod name index) = none := rfl

/-- Such an overload asks for a stub to read its item. -/
theorem deserializeRequest_itemMethod (name : String) (index : Nat) :
    deserializeRequest? (itemMethod name index) ⟨"Task", some (itemType index)⟩ =
      some (itemRequest name index) :=
  deserializeRequest_eq_some.mpr ⟨rfl, itemType index, rfl, by rw [ofType_itemType]; rfl,
    by rw [render_itemType]; rfl⟩

/-- Such an overload adds to the stubs what its one request adds. -/
theorem methodsAndStubs_itemMethod (client : Client) (stubs : List Prototype) (name : String)
    (index : Nat) :
    (methodsAndStubs client stubs [itemMethod name index]).2 =
      (itemRequest name index).declareIn stubs := by
  have found : (itemMethod name index).endpoint? =
      some ⟨.get, "/items", ⟨"Task", some (itemType index)⟩⟩ := rfl
  simp only [methodsAndStubs, found, declareStubs, serializeRequest_itemMethod,
    deserializeRequest_itemMethod, declareOptional]

/-- The stubs of one overload more are one stub more, behind the others. -/
theorem itemStubs_succ (name : String) (count : Nat) :
    itemStubs name (count + 1) = itemStubs name count ++ [itemStub name count] := by
  simp [itemStubs, List.range_succ]

/-- The stubs of the first overloads are those at the indices below their number. -/
theorem mem_itemStubs {name : String} {count : Nat} {stub : Prototype} :
    stub ∈ itemStubs name count ↔ ∃ index < count, itemStub name index = stub := by
  simp [itemStubs]

/-- No two of these stubs are of one overload, since their names differ in the ordinal. -/
theorem itemStubs_nodup (name : String) (count : Nat) :
    ((itemStubs name count).map overload).Nodup := by
  rw [itemStubs, List.map_map]
  refine List.nodup_range.map fun first second same => ?_
  exact candidateName_injective _ (congrArg Prod.fst same)

/-- A candidate name of the overloads is refused where it is that of a stub with another item. -/
theorem fits_itemStubs (name other : String) (count index place : Nat) :
    (itemRequest other index).fits (itemStubs name count)
        (candidateName ("Deserialize" ++ name) place) = true ↔
      (place < count → place = index) := by
  rw [StubRequest.fits_iff (itemStubs_nodup name count)]
  constructor
  · intro same below
    exact append_toString_injective "Item"
      (same (itemStub name place) (mem_itemStubs.mpr ⟨place, below, rfl⟩) rfl)
  · intro same stub declared collides
    obtain ⟨own, below, rfl⟩ := mem_itemStubs.mp declared
    obtain rfl := candidateName_injective _ (congrArg Prod.fst collides)
    exact congrArg (fun number => "Item" ++ toString number) (same below)

/-- One more overload is given the next name: under those before it there are other results. -/
theorem chosenName_itemStubs (name : String) (count : Nat) :
    (itemRequest name count).chosenName (itemStubs name count) =
      candidateName ("Deserialize" ++ name) count := by
  refine StubRequest.chosenName_eq (by simp [itemStubs]) ?_ fun earlier before fits => ?_
  · exact (fits_itemStubs name name count count count).mpr fun _ => rfl
  · have same := (fits_itemStubs name name count count earlier).mp fits before
    omega

/-- One more overload puts its stub behind those before it. -/
theorem declareIn_itemStubs (name : String) (count : Nat) :
    (itemRequest name count).declareIn (itemStubs name count) = itemStubs name (count + 1) := by
  have free : (itemRequest name count).found? (itemStubs name count)
      (candidateName ("Deserialize" ++ name) count) = none := by
    refine List.find?_eq_none.mpr fun stub declared collides => ?_
    obtain ⟨index, below, rfl⟩ := mem_itemStubs.mp declared
    have same := (StubRequest.collides_iff _ _ _).mp collides
    have equal := candidateName_injective _ (congrArg Prod.fst same)
    omega
  simp only [StubRequest.declareIn, chosenName_itemStubs, free, itemStubs_succ]
  rfl

/-- The stubs of several overloads of one method have the candidate names in order. -/
theorem stubs_of_overloads (client : Client) (name : String) (count : Nat) :
    (methodsAndStubs client [] ((List.range count).map (itemMethod name))).2 =
      itemStubs name count := by
  induction count with
  | zero => rfl
  | succ count inductionHypothesis =>
    simp only [List.range_succ, List.map_append, List.map_singleton, methodsAndStubs_append,
      inductionHypothesis, methodsAndStubs_itemMethod, declareIn_itemStubs]

/-- A client of overloads of one method, and of further methods. -/
def overloadClient (name : String) (count : Nat) (others : List Method) : Client where
  scope := ""
  className := "Store"
  imports := []
  methods := (List.range count).map (itemMethod name) ++ others
  serializer := .custom
  slowCallThreshold := 0
  targetsModernRuntime := false

section Overloads

variable {first second : String} {last : Nat}

/-- When another method is given the name of the stub of the last overload, they share it, because
the stub has the types that the other method asks for. -/
theorem sharedStub_of_chosenName {client : Client} (between : List Method)
    (split : client.methods =
      (List.range (last + 1)).map (itemMethod first) ++ (between ++ [itemMethod second last]))
    (chosen : (itemRequest second last).chosenName
        (methodsAndStubs client (itemStubs first (last + 1)) between).2 =
      candidateName ("Deserialize" ++ first) last) :
    SharedStub client first second (itemStub first last) := by
  have present : itemStub first last ∈ (methodsAndStubs client [] client.methods).2 := by
    rw [split, methodsAndStubs_append, stubs_of_overloads]
    exact (prefix_methodsAndStubs _ _ _).subset (mem_itemStubs.mpr ⟨last, by omega, rfl⟩)
  constructor
  case declared => exact List.mem_append_right _ present
  case not_hook =>
    have free : (itemRequest second last).chosenName
        (methodsAndStubs client (itemStubs first (last + 1)) between).2 ∉ _ :=
      StubRequest.chosenName_not_hook (Or.inr rfl) _
    rw [chosen] at free
    exact fun isHook => free (hook_name isHook)
  case calledByFirst =>
    rw [List.range_succ, List.map_append, List.map_singleton, List.append_assoc] at split
    refine CallsStub.of_split split rfl (deserializeRequest_itemMethod first last) ?_
    rw [stubs_of_overloads, serializeRequest_itemMethod, declareOptional, chosenName_itemStubs]
    exact ⟨rfl, rfl, rfl⟩
  case calledBySecond =>
    rw [← List.append_assoc] at split
    refine CallsStub.of_split split rfl (deserializeRequest_itemMethod second last) ?_
    rw [methodsAndStubs_append, stubs_of_overloads, serializeRequest_itemMethod, declareOptional,
      chosen]
    exact ⟨rfl, rfl, rfl⟩

/-- A method that is called like an overload with its ordinal takes the stub of that overload. -/
theorem sharedStub_of_ordinal (ordinal : Nat)
    (named : second = first ++ toString (ordinal + 2)) :
    SharedStub (overloadClient first (ordinal + 2) [itemMethod second (ordinal + 1)]) first second
      (itemStub first (ordinal + 1)) := by
  have base : (itemRequest second (ordinal + 1)).baseName =
      candidateName ("Deserialize" ++ first) (ordinal + 1) := by
    rw [itemRequest, candidateName, String.append_assoc, named]
  refine sharedStub_of_chosenName [] rfl ?_
  rw [← base]
  refine StubRequest.chosenName_eq (Nat.zero_le _) ?_ fun _ before =>
    absurd before (Nat.not_lt_zero _)
  rw [candidateName, base]
  exact (fits_itemStubs first second (ordinal + 2) (ordinal + 1) (ordinal + 1)).mpr fun _ => rfl

/-- A method that is called like another one with a one behind takes the twelfth stub of that
method as the second stub of its own. -/
theorem sharedStub_of_one (named : second = first ++ toString 1) :
    SharedStub (overloadClient first 12 [itemMethod second 12, itemMethod second 11]) first second
      (itemStub first 11) := by
  have twelfth : candidateName ("Deserialize" ++ second) 1 =
      candidateName ("Deserialize" ++ first) 11 := by
    rw [candidateName, candidateName, named]
    simp only [String.append_assoc]
    rfl
  have other (index : Nat) :
      candidateName ("Deserialize" ++ first) index ≠ "Deserialize" ++ second := by
    rw [named, ← String.append_assoc]
    exact candidateName_ne_one _ index
  -- The first stub of the second method has its own name, as no stub of the first has this name.
  have own : (itemRequest second 12).chosenName (itemStubs first 12) = "Deserialize" ++ second := by
    refine StubRequest.chosenName_of_agreeing fun stub declared same => ?_
    obtain ⟨index, _, rfl⟩ := mem_itemStubs.mp declared
    exact absurd same (other index)
  have distinct := (itemRequest second 12).declareIn_nodup (itemStubs_nodup first 12)
  refine sharedStub_of_chosenName [itemMethod second 12] rfl ?_
  rw [methodsAndStubs_itemMethod, ← twelfth]
  refine StubRequest.chosenName_eq ?tried ?free fun earlier before => ?refused
  case tried =>
    have some : 1 ≤ (itemStubs first 12).length := by simp [itemStubs]
    exact some.trans ((itemRequest second 12).prefix_declareIn (itemStubs first 12)).length_le
  case free =>
    refine (StubRequest.fits_iff distinct).mpr fun stub declared collides => ?_
    have name : stub.signature.name = candidateName ("Deserialize" ++ first) 11 :=
      (congrArg Prod.fst collides).trans twelfth
    rcases StubRequest.mem_declareIn declared with before | met
    · obtain ⟨index, _, rfl⟩ := mem_itemStubs.mp before
      obtain rfl := candidateName_injective _ name
      rfl
    · exact absurd (name.symm.trans (met.named.trans own)) (other 11)
  case refused =>
    -- That first stub stands in the way of the candidate without a number: it gives another item.
    intro fits
    obtain rfl : earlier = 0 := by omega
    obtain ⟨stub, declared, met⟩ := (itemRequest second 12).exists_metBy (itemStubs first 12)
    have collides : overload stub = ("Deserialize" ++ second, ["string"]) :=
      Prod.ext (met.named.trans own) met.takes
    have same := (StubRequest.fits_iff distinct).mp fits stub declared collides
    have equal := append_toString_injective "Item" (met.gives.symm.trans same)
    omega

/-- Some client has a stub that methods with a name and with a number behind it share. -/
theorem exists_sharedStub (numbered : Numbered first second) :
    ∃ client stub, SharedStub client first second stub := by
  obtain ⟨number, positive, named⟩ := numbered
  match number, positive with
  | 1, _ => exact ⟨_, _, sharedStub_of_one named⟩
  | ordinal + 2, _ => exact ⟨_, _, sharedStub_of_ordinal ordinal named⟩

end Overloads

/-- No stub that serializes is shared by methods of different names. One that deserializes can be
shared exactly when one of the names is the other with a number behind. -/
theorem stubs_shared_iff {first second : String} (different : first ≠ second) :
    (∀ client stub, SharedStub client first second stub →
        ∃ rest, stub.signature.name = "Deserialize" ++ rest) ∧
      ((∃ client stub, SharedStub client first second stub) ↔
        Numbered first second ∨ Numbered second first) := by
  have compared {client : Client} {stub : Prototype}
      (shared : SharedStub client first second stub) :=
    (shared.calledByFirst.stubName shared.declared shared.not_hook).comparable
      (shared.calledBySecond.stubName shared.declared shared.not_hook) different
  refine ⟨fun _ _ shared => (compared shared).1, ?_, ?_⟩
  · rintro ⟨_, _, shared⟩
    exact (compared shared).2
  · rintro (numbered | numbered)
    · exact exists_sharedStub numbered
    · obtain ⟨client, stub, shared⟩ := exists_sharedStub numbered
      exact ⟨client, stub, shared.declared, shared.not_hook, shared.calledBySecond,
        shared.calledByFirst⟩

/-- Methods of two names that are not alike never share a stub. -/
theorem list_and_get_share_no_stub :
    "ListAsync" ≠ "GetAsync" ∧ ¬ ∃ client stub, SharedStub client "ListAsync" "GetAsync" stub := by
  have different : "ListAsync" ≠ "GetAsync" := by decide
  refine ⟨different, fun shared => ?_⟩
  rcases (stubs_shared_iff different).2.mp shared with ⟨_, _, same⟩ | ⟨_, _, same⟩ <;>
    simp [← String.toList_inj] at same

/-- A class with two overloads of a method, and a method that is called like the stub of the
second overload. -/
def orders : ClassDeclaration where
  scope := ""
  imports := []
  name := "Orders"
  attributes := [⟨"ApiClientGenerator", [⟨some "Serialization", .symbol "Serialization.Custom"⟩]⟩]
  methods :=
    [⟨"GetAsync", "Task<Item>", [literalAttribute "Get" "/items"], []⟩,
     ⟨"GetAsync", "Task<Order>", [literalAttribute "Get" "/\x7bid\x7d"], [⟨"id", "int", []⟩]⟩,
     ⟨"GetAsync2", "Task<Order>", [literalAttribute "Get" "/latest"], []⟩]

/-- The third method takes the stub of the second one, whose name it does not have. -/
theorem orders_share_a_stub :
    "GetAsync" ≠ "GetAsync2" ∧
      ∃ stub, SharedStub (extractClient orders .standard) "GetAsync" "GetAsync2" stub := by
  refine ⟨by decide, partialMethod "Order" "DeserializeGetAsync2" [⟨"string", "content"⟩], ?_⟩
  have only : ∀ other ∈ (clientUnit (extractClient orders .standard)).body.partialMethods,
      other.signature.name = "DeserializeGetAsync2" →
        other = partialMethod "Order" "DeserializeGetAsync2" [⟨"string", "content"⟩] := by
    decide +kernel
  constructor
  case declared => decide +kernel
  case not_hook => decide +kernel
  case calledByFirst => exact .of_only only (by decide +kernel)
  case calledBySecond => exact .of_only only (by decide +kernel)

end TypedClients.Generation
