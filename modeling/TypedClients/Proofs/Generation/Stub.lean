import Mathlib.Data.List.Nodup
import Mathlib.Data.List.Perm.Subperm
import TypedClients.Generation.Stub
import TypedClients.Proofs.Text.Numbered

/-!
# Meeting a request for a stub

A request is always met: among its candidate names there is one more than there are stubs, so one
of them is free or has a stub with the same result, and the first such one is chosen. Afterwards
there is a stub under the chosen name with the parameter types and the result that were asked for,
everything declared before is still there, and no two stubs have both the name and the parameter
types in common.
-/

namespace TypedClients.Generation

open CSharp Text

/-- By what overloads of a method are told apart: the name and the types of the parameters. -/
def overload (prototype : Prototype) : String × List String :=
  (prototype.signature.name, prototype.signature.params.map Param.type)

/-- A stub that answers a request under a name. -/
structure StubRequest.MetBy (request : StubRequest) (name : String) (stub : Prototype) : Prop where
  named : stub.signature.name = name
  takes : stub.signature.params.map Param.type = request.params.map Param.type
  gives : stub.signature.returnType = request.returnType

/-- The name that is tried at an index. -/
def candidateName (base : String) : Nat → String
  | 0 => base
  | ordinal + 1 => base ++ toString (ordinal + 2)

/-- Two candidates for the name of a stub differ when their ordinals do: the digits are read back
from behind the base. -/
theorem candidateName_injective (base : String) {first second : Nat}
    (same : candidateName base first = candidateName base second) : first = second := by
  cases first with
  | zero =>
    cases second with
    | zero => rfl
    | succ ordinal => exact absurd same (ne_append_toString base _)
  | succ ordinal =>
    cases second with
    | zero => exact absurd same.symm (ne_append_toString base _)
    | succ other =>
      have equal := append_toString_injective base same
      omega

/-- No name has the ordinal one. -/
theorem candidateName_ne_one (base : String) (index : Nat) :
    candidateName base index ≠ base ++ toString 1 := by
  cases index with
  | zero => exact ne_append_toString base 1
  | succ ordinal =>
    intro same
    have equal := append_toString_injective base same
    omega

namespace StubRequest

/-- A stub collides when its overload is the one that is asked for. -/
theorem collides_iff (request : StubRequest) (name : String) (stub : Prototype) :
    request.collides name stub = true ↔ overload stub = (name, request.params.map Param.type) := by
  simp [collides, overload]

/-- As many names are tried as there are stubs, and one more. -/
theorem candidates_eq (request : StubRequest) (stubs : List Prototype) :
    request.candidates stubs =
      (List.range (stubs.length + 1)).map (candidateName request.baseName) := by
  rw [candidates, List.range_succ_eq_map, List.map_cons, List.map_map]
  rfl

/-- The candidate names of a request are distinct. -/
theorem candidates_nodup (request : StubRequest) (stubs : List Prototype) :
    (request.candidates stubs).Nodup := by
  rw [candidates_eq]
  exact List.nodup_range.map fun _ _ same => candidateName_injective request.baseName same

/-- A candidate is the base of the request, or has a number behind it. -/
theorem candidate_numbered {request : StubRequest} {stubs : List Prototype} {name : String}
    (candidate : name ∈ request.candidates stubs) :
    name = request.baseName ∨ Numbered request.baseName name := by
  rw [candidates_eq] at candidate
  obtain ⟨index, _, rfl⟩ := List.mem_map.mp candidate
  cases index with
  | zero => exact Or.inl rfl
  | succ ordinal => exact Or.inr ⟨ordinal + 2, by omega, rfl⟩

/-- Some candidate fits. If none did, each would be the name of a declared stub, and there are
more candidates than stubs. -/
theorem exists_fitting (request : StubRequest) (stubs : List Prototype) :
    ∃ name ∈ request.candidates stubs, request.fits stubs name = true := by
  by_contra none
  have taken : request.candidates stubs ⊆ stubs.map (·.signature.name) := by
    intro name candidate
    have refused : ¬ request.fits stubs name = true := fun fits => none ⟨name, candidate, fits⟩
    cases found : request.found? stubs name with
    | none => simp [fits, found] at refused
    | some stub =>
      have collision := List.find?_some found
      have named := congrArg Prod.fst ((request.collides_iff name stub).mp collision)
      exact List.mem_map.mpr ⟨stub, List.mem_of_find?_eq_some found, named⟩
  have bound := (List.subperm_of_subset (request.candidates_nodup stubs) taken).length_le
  simp only [candidates, List.length_cons, List.length_map, List.length_range] at bound
  omega

/-- The chosen name is a candidate that fits. -/
theorem chosenName_fits (request : StubRequest) (stubs : List Prototype) :
    request.chosenName stubs ∈ request.candidates stubs ∧
      request.fits stubs (request.chosenName stubs) = true := by
  obtain ⟨name, candidate, fits⟩ := request.exists_fitting stubs
  cases chosen : (request.candidates stubs).find? (request.fits stubs) with
  | none => exact absurd fits (List.find?_eq_none.mp chosen name candidate)
  | some selected =>
    simp only [chosenName, chosen, Option.getD_some]
    exact ⟨List.mem_of_find?_eq_some chosen, List.find?_some chosen⟩

/-- The chosen name is the base of the request, or has a number behind it. -/
theorem chosenName_numbered (request : StubRequest) (stubs : List Prototype) :
    request.chosenName stubs = request.baseName ∨
      Numbered request.baseName (request.chosenName stubs) :=
  candidate_numbered (request.chosenName_fits stubs).1

/-- A name that is chosen for a stub is the base of the request, perhaps with an ordinal. -/
theorem chosenName_ordinal (request : StubRequest) (stubs : List Prototype) :
    request.chosenName stubs = request.baseName ∨
      ∃ ordinal ≥ 2, request.chosenName stubs = request.baseName ++ toString ordinal := by
  have candidate := (request.chosenName_fits stubs).1
  rw [request.candidates_eq] at candidate
  obtain ⟨index, _, chosen⟩ := List.mem_map.mp candidate
  cases index with
  | zero => exact Or.inl chosen.symm
  | succ ordinal => exact Or.inr ⟨ordinal + 2, Nat.le_add_left 2 ordinal, chosen.symm⟩

/-- The chosen name begins with the base of the request. -/
theorem chosenName_begins (request : StubRequest) (stubs : List Prototype) :
    ∃ ordinal, request.chosenName stubs = request.baseName ++ ordinal := by
  rcases request.chosenName_numbered stubs with base | ⟨number, _, numbered⟩
  · exact ⟨"", by simpa using base⟩
  · exact ⟨_, numbered⟩

/-- A stub that is found under a fitting name answers the request. -/
theorem metBy_of_found {request : StubRequest} {stubs : List Prototype} {name : String}
    {stub : Prototype} (fitting : request.fits stubs name = true)
    (found : request.found? stubs name = some stub) : request.MetBy name stub := by
  have collision := (request.collides_iff name stub).mp (List.find?_some found)
  obtain ⟨named, takes⟩ := Prod.mk.inj collision
  have gives : stub.signature.returnType = request.returnType := by
    simpa [fits, found] using fitting
  exact ⟨named, takes, gives⟩

/-- Meeting a request leaves the stubs as they are, and some stub answers it, or puts one stub
behind them that answers it and has an overload of its own. -/
theorem declareIn_cases (request : StubRequest) (stubs : List Prototype) :
    (request.declareIn stubs = stubs ∧
        ∃ stub ∈ stubs, request.MetBy (request.chosenName stubs) stub) ∨
      ∃ stub, request.declareIn stubs = stubs ++ [stub] ∧
        request.MetBy (request.chosenName stubs) stub ∧ overload stub ∉ stubs.map overload := by
  cases found : request.found? stubs (request.chosenName stubs) with
  | some stub =>
    refine Or.inl ⟨by simp [declareIn, found], stub, List.mem_of_find?_eq_some found, ?_⟩
    exact metBy_of_found (request.chosenName_fits stubs).2 found
  | none =>
    refine Or.inr ⟨_, by simp only [declareIn, found]; rfl, ⟨rfl, rfl, rfl⟩, ?_⟩
    intro member
    obtain ⟨stub, declared, same⟩ := List.mem_map.mp member
    have free := List.find?_eq_none.mp found stub declared
    exact free ((request.collides_iff _ stub).mpr same)

/-- Some stub answers a request after it was met. -/
theorem exists_metBy (request : StubRequest) (stubs : List Prototype) :
    ∃ stub ∈ request.declareIn stubs, request.MetBy (request.chosenName stubs) stub := by
  rcases request.declareIn_cases stubs with ⟨same, stub, declared, met⟩ | ⟨stub, added, met, _⟩
  · exact ⟨stub, by rw [same]; exact declared, met⟩
  · exact ⟨stub, by simp [added], met⟩

/-- Meeting a request keeps what was declared before. -/
theorem prefix_declareIn (request : StubRequest) (stubs : List Prototype) :
    stubs <+: request.declareIn stubs := by
  rcases request.declareIn_cases stubs with ⟨same, _⟩ | ⟨stub, added, _⟩
  · exact ⟨[], by rw [same, List.append_nil]⟩
  · exact ⟨[stub], added.symm⟩

/-- A stub that is there after a request was met was there before, or answers it. -/
theorem mem_declareIn {request : StubRequest} {stubs : List Prototype} {stub : Prototype}
    (declared : stub ∈ request.declareIn stubs) :
    stub ∈ stubs ∨ request.MetBy (request.chosenName stubs) stub := by
  rcases request.declareIn_cases stubs with ⟨same, _⟩ | ⟨fresh, added, met, _⟩
  · exact Or.inl (same ▸ declared)
  · rw [added] at declared
    rcases List.mem_append.mp declared with before | last
    · exact Or.inl before
    · exact Or.inr (List.mem_singleton.mp last ▸ met)

/-- Meeting a request keeps overloads distinct. -/
theorem declareIn_nodup (request : StubRequest) {stubs : List Prototype}
    (distinct : (stubs.map overload).Nodup) :
    ((request.declareIn stubs).map overload).Nodup := by
  rcases request.declareIn_cases stubs with ⟨same, _⟩ | ⟨fresh, added, _, free⟩
  · rw [same]
    exact distinct
  · rw [added, List.map_append]
    exact List.nodup_append.mpr ⟨distinct, by simp, by simpa using free⟩

/-- A name fits when no stub is refused under it, that is, when no stub of its overload has
another result. -/
theorem fits_iff {request : StubRequest} {stubs : List Prototype} {name : String}
    (distinct : (stubs.map overload).Nodup) :
    request.fits stubs name = true ↔
      ∀ stub ∈ stubs, overload stub = (name, request.params.map Param.type) →
        stub.signature.returnType = request.returnType := by
  simp only [fits, Option.all_eq_true, beq_iff_eq]
  constructor
  · intro same stub declared collides
    cases found : request.found? stubs name with
    | none =>
      have free := List.find?_eq_none.mp found stub declared
      exact absurd ((request.collides_iff name stub).mpr collides) free
    | some other =>
      have collided := (request.collides_iff name other).mp (List.find?_some found)
      have declares := List.mem_of_find?_eq_some found
      obtain rfl := List.inj_on_of_nodup_map distinct declared declares
        (collides.trans collided.symm)
      exact same stub found
  · intro same stub found
    have collided := (request.collides_iff name stub).mp (List.find?_some found)
    exact same stub (List.mem_of_find?_eq_some found) collided

/-- The chosen name is the first one that fits. -/
theorem chosenName_eq {request : StubRequest} {stubs : List Prototype} {index : Nat}
    (tried : index ≤ stubs.length)
    (free : request.fits stubs (candidateName request.baseName index) = true)
    (refused : ∀ earlier < index,
      ¬ request.fits stubs (candidateName request.baseName earlier) = true) :
    request.chosenName stubs = candidateName request.baseName index := by
  have found : (List.range (stubs.length + 1)).find?
      (request.fits stubs ∘ candidateName request.baseName) = some index := by
    rw [List.find?_range_eq_some]
    refine ⟨free, List.mem_range.mpr (by omega), fun earlier before => ?_⟩
    simpa using refused earlier before
  rw [chosenName, candidates_eq, List.find?_map, found]
  rfl

/-- The base of a request is chosen when no stub of that name has another result. -/
theorem chosenName_of_agreeing {request : StubRequest} {stubs : List Prototype}
    (agree : ∀ stub ∈ stubs,
      stub.signature.name = request.baseName → stub.signature.returnType = request.returnType) :
    request.chosenName stubs = request.baseName := by
  refine chosenName_eq (Nat.zero_le _) ?_ fun earlier before => absurd before (Nat.not_lt_zero _)
  simp only [fits, Option.all_eq_true, beq_iff_eq]
  intro stub found
  have collides := (request.collides_iff _ stub).mp (List.find?_some found)
  exact agree stub (List.mem_of_find?_eq_some found) (congrArg Prod.fst collides)

end StubRequest

/-- A method asks for a stub that serializes when its serializer is custom and its content is
sent as it is. The stub takes the type of the content as it was declared and gives a text. -/
theorem serializeRequest_eq_some {method : Method} {request : StubRequest} :
    serializeRequest? method = some request ↔
      method.serializer = .custom ∧ ∃ content, method.contentParameter? = some content ∧
        content.binding = .body ∧
        request = ⟨"string", "Serialize" ++ method.name, [⟨content.typeText, "value"⟩]⟩ := by
  unfold serializeRequest?
  constructor
  · intro asked
    split at asked
    · rename_i content custom chosen
      split at asked
      · rename_i bound
        cases asked
        exact ⟨custom, content, chosen, bound, rfl⟩
      · cases asked
    · cases asked
  · rintro ⟨custom, content, chosen, bound, rfl⟩
    simp [custom, chosen, bound]

/-- A method asks for a stub that deserializes when its serializer is custom and its value is
read from the content. The stub takes a text and gives the type of the value. -/
theorem deserializeRequest_eq_some {method : Method} {shape : ReturnShape}
    {request : StubRequest} :
    deserializeRequest? method shape = some request ↔
      method.serializer = .custom ∧ ∃ value, shape.value = some value ∧
        (ResultKind.ofType value).mayGiveNothing = true ∧
        request = ⟨value.render, "Deserialize" ++ method.name, [⟨"string", "content"⟩]⟩ := by
  unfold deserializeRequest?
  constructor
  · intro asked
    split at asked
    · rename_i value custom typed
      split at asked
      · rename_i read
        cases asked
        exact ⟨custom, value, typed, read, rfl⟩
      · cases asked
    · cases asked
  · rintro ⟨custom, value, typed, read, rfl⟩
    simp [custom, typed, read]

section Method

variable {stubs : List Prototype} {method : Method} {shape : ReturnShape} {stub : Prototype}

/-- A stub that answers a request of a method, under the name by which the method calls it. -/
inductive StubNames.Answered (names : StubNames) (method : Method) (shape : ReturnShape)
    (stub : Prototype) : Prop where
  | serialize {request : StubRequest} (asked : serializeRequest? method = some request)
      (met : request.MetBy (names.serialize.getD "") stub)
  | deserialize {request : StubRequest} (asked : deserializeRequest? method shape = some request)
      (met : request.MetBy (names.deserialize.getD "") stub)

/-- The stubs that are there stay in front when a request may add one. -/
theorem prefix_declareOptional (stubs : List Prototype) (request : Option StubRequest) :
    stubs <+: declareOptional stubs request := by
  cases request with
  | none => exact List.prefix_refl stubs
  | some request => exact request.prefix_declareIn stubs

/-- Distinct stubs stay distinct when a request may add one. -/
theorem declareOptional_nodup (request : Option StubRequest)
    (distinct : (stubs.map overload).Nodup) :
    ((declareOptional stubs request).map overload).Nodup := by
  cases request with
  | none => exact distinct
  | some request => exact request.declareIn_nodup distinct

/-- The stubs of one more method are put behind those declared before. -/
theorem prefix_declareStubs (stubs : List Prototype) (method : Method) (shape : ReturnShape) :
    stubs <+: declareStubs stubs method shape :=
  (prefix_declareOptional stubs _).trans (prefix_declareOptional _ _)

/-- The stubs of one more method keep overloads distinct. -/
theorem declareStubs_nodup (method : Method) (shape : ReturnShape)
    (distinct : (stubs.map overload).Nodup) :
    ((declareStubs stubs method shape).map overload).Nodup :=
  declareOptional_nodup _ (declareOptional_nodup _ distinct)

/-- A stub that is there after a request that may not be there was there before, or answers it. -/
theorem mem_declareOptional {asked : Option StubRequest}
    (present : stub ∈ declareOptional stubs asked) :
    stub ∈ stubs ∨ ∃ request, asked = some request ∧
      request.MetBy (request.chosenName stubs) stub := by
  cases asked with
  | none => exact Or.inl present
  | some request =>
    rcases StubRequest.mem_declareIn present with before | met
    · exact Or.inl before
    · exact Or.inr ⟨request, rfl, met⟩

/-- The name of the stub that serializes is the one chosen for the request. -/
theorem stubNames_serialize {request : StubRequest}
    (asked : serializeRequest? method = some request) :
    (stubNames stubs method shape).serialize.getD "" = request.chosenName stubs := by
  simp only [stubNames, asked, Option.map_some, Option.getD_some]

/-- The name of the stub that deserializes is chosen after the one that serializes is declared. -/
theorem stubNames_deserialize {request : StubRequest}
    (asked : deserializeRequest? method shape = some request) :
    (stubNames stubs method shape).deserialize.getD "" =
      request.chosenName (declareOptional stubs (serializeRequest? method)) := by
  simp only [stubNames, asked, Option.map_some, Option.getD_some]

/-- A method that serializes its content with a stub finds that stub declared. -/
theorem exists_serializeStub {request : StubRequest}
    (asked : serializeRequest? method = some request) :
    ∃ stub ∈ declareStubs stubs method shape,
      request.MetBy ((stubNames stubs method shape).serialize.getD "") stub := by
  obtain ⟨stub, declared, met⟩ := request.exists_metBy stubs
  have present : stub ∈ declareOptional stubs (serializeRequest? method) := by
    rwa [asked, declareOptional]
  rw [stubNames_serialize asked]
  exact ⟨stub, (prefix_declareOptional _ _).subset present, met⟩

/-- A method that deserializes its value with a stub finds that stub declared. -/
theorem exists_deserializeStub {request : StubRequest}
    (asked : deserializeRequest? method shape = some request) :
    ∃ stub ∈ declareStubs stubs method shape,
      request.MetBy ((stubNames stubs method shape).deserialize.getD "") stub := by
  obtain ⟨stub, declared, met⟩ :=
    request.exists_metBy (declareOptional stubs (serializeRequest? method))
  have present : stub ∈ declareStubs stubs method shape := by
    rwa [declareStubs, asked, declareOptional]
  rw [stubNames_deserialize asked]
  exact ⟨stub, present, met⟩

/-- A stub that is there after those of one more method was there before, or answers that
method. -/
theorem mem_declareStubs (present : stub ∈ declareStubs stubs method shape) :
    stub ∈ stubs ∨ (stubNames stubs method shape).Answered method shape stub := by
  rcases mem_declareOptional present with first | ⟨request, asked, met⟩
  · rcases mem_declareOptional first with before | ⟨request, asked, met⟩
    · exact Or.inl before
    · rw [← stubNames_serialize asked] at met
      exact Or.inr (.serialize asked met)
  · rw [← stubNames_deserialize asked] at met
    exact Or.inr (.deserialize asked met)

end Method

end TypedClients.Generation
