import Mathlib.Data.Nat.Find
import TypedClients.Proofs.Generation.Stub

/-!
# The search for the name of a stub

The name under which a request is met is searched for in rounds. Each round looks at one name. It
ends the search where no stub of that name has the parameter types of the request, by a new stub,
and where one has its result too, by sharing it. Otherwise the next round looks at the base of the
request with the next ordinal behind it.

Nothing in a round bounds the search. It ends because the names of different rounds are different,
and each round that does not end it finds its name among the stubs: so there are no more such
rounds than stubs. Where the search ends is what the request comes to.
-/

namespace TypedClients.Generation

open CSharp

namespace StubRequest

/-- Where a search is: the name that is looked at, and the ordinal that it has if it is not the
base. -/
structure Search where
  ordinal : Nat
  name : String

/-- The stubs when a search has ended, and the name under which the request is met. -/
structure Met where
  stubs : List Prototype
  name : String

/-- The search begins with the base of the request. -/
def begin (request : StubRequest) : Search :=
  ⟨1, request.baseName⟩

/-- One round of the search. -/
def round (request : StubRequest) (stubs : List Prototype) (search : Search) : Search ⊕ Met :=
  match request.found? stubs search.name with
  | none =>
    .inr ⟨stubs ++ [partialMethod request.returnType search.name request.params], search.name⟩
  | some stub =>
    if stub.signature.returnType = request.returnType then .inr ⟨stubs, search.name⟩
    else .inl ⟨search.ordinal + 1, request.baseName ++ toString (search.ordinal + 1)⟩

/-- A search ends after some rounds. -/
inductive Ends (request : StubRequest) (stubs : List Prototype) : Search → Nat → Met → Prop where
  | last {search : Search} {met : Met} (ended : request.round stubs search = .inr met) :
      Ends request stubs search 1 met
  | further {search next : Search} {rounds : Nat} {met : Met}
      (refused : request.round stubs search = .inl next)
      (others : Ends request stubs next rounds met) :
      Ends request stubs search (rounds + 1) met

variable {request : StubRequest} {stubs : List Prototype}

/-- A search ends in one way only. -/
theorem Ends.unique {search : Search} {rounds other : Nat} {met alsoMet : Met}
    (ends : request.Ends stubs search rounds met)
    (alsoEnds : request.Ends stubs search other alsoMet) : rounds = other ∧ met = alsoMet := by
  induction ends generalizing other with
  | last ended =>
    cases alsoEnds with
    | last again => exact ⟨rfl, Sum.inr.inj (ended.symm.trans again)⟩
    | further refused _ => cases ended.symm.trans refused
  | further refused _ inductionHypothesis =>
    cases alsoEnds with
    | last ended => cases refused.symm.trans ended
    | further again others =>
      obtain rfl := Sum.inl.inj (refused.symm.trans again)
      obtain ⟨rfl, same⟩ := inductionHypothesis others
      exact ⟨rfl, same⟩

/-- The search when it looks at the name of an index. -/
def searchAt (request : StubRequest) (index : Nat) : Search :=
  ⟨index + 1, candidateName request.baseName index⟩

/-- A round goes on to the next index where the name does not fit. -/
theorem round_of_refused {index : Nat}
    (refused : ¬ request.fits stubs (candidateName request.baseName index) = true) :
    request.round stubs (request.searchAt index) = .inl (request.searchAt (index + 1)) := by
  simp only [round, searchAt]
  cases found : request.found? stubs (candidateName request.baseName index) with
  | none => simp [fits, found] at refused
  | some stub =>
    have other : ¬ stub.signature.returnType = request.returnType := by
      simpa [fits, found] using refused
    simp [other, candidateName]

/-- A round ends the search where the name is the one that is chosen. -/
theorem round_of_chosen {search : Search} (chosen : search.name = request.chosenName stubs) :
    request.round stubs search = .inr ⟨request.declareIn stubs, request.chosenName stubs⟩ := by
  have fitting := (request.chosenName_fits stubs).2
  simp only [round, declareIn, chosen]
  cases found : request.found? stubs (request.chosenName stubs) with
  | none => simp
  | some stub =>
    have same : stub.signature.returnType = request.returnType := by
      simpa [fits, found] using fitting
    simp [same]

/-- The chosen name is at the first index that fits, and there are at least as many stubs as
indices before it. -/
theorem exists_first_fitting (request : StubRequest) (stubs : List Prototype) :
    ∃ index ≤ stubs.length,
      request.chosenName stubs = candidateName request.baseName index ∧
        ∀ earlier < index,
          ¬ request.fits stubs (candidateName request.baseName earlier) = true := by
  obtain ⟨name, candidate, fitting⟩ := request.exists_fitting stubs
  rw [candidates_eq] at candidate
  obtain ⟨tried, among, rfl⟩ := List.mem_map.mp candidate
  have below : tried < stubs.length + 1 := List.mem_range.mp among
  have exists_index :
      ∃ index, request.fits stubs (candidateName request.baseName index) = true := ⟨tried, fitting⟩
  have first := Nat.find_min' exists_index fitting
  have bound : Nat.find exists_index ≤ stubs.length := by omega
  exact ⟨Nat.find exists_index, bound,
    chosenName_eq bound (Nat.find_spec exists_index) fun _ => Nat.find_min exists_index,
    fun _ => Nat.find_min exists_index⟩

/-- From an index the search goes on to the first one that fits. The induction is on the number of
indices between them. -/
theorem ends_from {index : Nat}
    (chosen : request.chosenName stubs = candidateName request.baseName index)
    (refused : ∀ earlier < index,
      ¬ request.fits stubs (candidateName request.baseName earlier) = true)
    {between start : Nat} (distance : start + between = index) :
    request.Ends stubs (request.searchAt start) (between + 1)
      ⟨request.declareIn stubs, request.chosenName stubs⟩ := by
  induction between generalizing start with
  | zero =>
    obtain rfl : start = index := distance
    exact .last (round_of_chosen chosen.symm)
  | succ between inductionHypothesis =>
    have goesOn := round_of_refused (refused start (by omega))
    exact .further goesOn (inductionHypothesis (by omega))

/-- What a search comes to when it has met its request. -/
structure Answers (request : StubRequest) (stubs : List Prototype) (met : Met) : Prop where
  /-- At most one stub is new, and it stands behind the others. -/
  grown : met.stubs = stubs ∨ ∃ stub, met.stubs = stubs ++ [stub]
  distinct : (met.stubs.map overload).Nodup
  once : (met.stubs.map overload).count (met.name, request.params.map Param.type) = 1
  gives : ∀ stub ∈ met.stubs, overload stub = (met.name, request.params.map Param.type) →
    stub.signature.returnType = request.returnType
  numbered : met.name = request.baseName ∨
    ∃ ordinal ≥ 2, met.name = request.baseName ++ toString ordinal

/-- Where no two stubs have an overload in common, the chosen name and the stubs after the request
answer it. -/
theorem declareIn_answers (request : StubRequest) (distinct : (stubs.map overload).Nodup) :
    request.Answers stubs ⟨request.declareIn stubs, request.chosenName stubs⟩ := by
  have kept := request.declareIn_nodup distinct
  obtain ⟨answer, declared, met⟩ := request.exists_metBy stubs
  have own : overload answer = (request.chosenName stubs, request.params.map Param.type) :=
    Prod.ext met.named met.takes
  constructor
  case grown =>
    rcases request.declareIn_cases stubs with ⟨same, _⟩ | ⟨stub, added, _⟩
    · exact Or.inl same
    · exact Or.inr ⟨stub, added⟩
  case distinct => exact kept
  case once => exact List.count_eq_one_of_mem kept (own ▸ List.mem_map_of_mem declared)
  case gives =>
    intro stub present same
    obtain rfl := List.inj_on_of_nodup_map kept present declared (same.trans own.symm)
    exact met.gives
  case numbered => exact request.chosenName_ordinal stubs

/-- The search for a stub ends, in one way and after at most one round more than there are stubs.
It comes to the stubs and the name that the request is met with. -/
theorem search_ends (request : StubRequest) {stubs : List Prototype}
    (distinct : (stubs.map overload).Nodup) :
    ∃ rounds met, request.Ends stubs request.begin rounds met ∧ rounds ≤ stubs.length + 1 ∧
      (∀ other alsoMet, request.Ends stubs request.begin other alsoMet →
        other = rounds ∧ alsoMet = met) ∧
      met = ⟨request.declareIn stubs, request.chosenName stubs⟩ ∧ request.Answers stubs met := by
  obtain ⟨index, bound, chosen, refused⟩ := request.exists_first_fitting stubs
  have ends : request.Ends stubs request.begin (index + 1)
      ⟨request.declareIn stubs, request.chosenName stubs⟩ :=
    ends_from chosen refused (Nat.zero_add index)
  refine ⟨index + 1, _, ends, Nat.succ_le_succ bound, fun other alsoMet alsoEnds => ?_, rfl,
    request.declareIn_answers distinct⟩
  obtain ⟨same, result⟩ := ends.unique alsoEnds
  exact ⟨same.symm, result.symm⟩

/-- Stubs that stand in the way of a request under its base and under its base with a two. -/
def parcelStubs : List Prototype :=
  [partialMethod "Parcel" "DeserializeGetAsync" [⟨"string", "content"⟩],
   partialMethod "Label" "DeserializeGetAsync2" [⟨"string", "content"⟩],
   partialMethod "Route" "DeserializeGetAsync3" [⟨"string", "content"⟩, ⟨"int", "depth"⟩]]

/-- A request that is refused twice and then met by a new stub, under a name that another overload
has. -/
def routeRequest : StubRequest where
  returnType := "Route"
  baseName := "DeserializeGetAsync"
  params := [⟨"string", "content"⟩]

/-- The search for the stub of a route ends, with an ordinal. -/
theorem route_search_ends : (parcelStubs.map overload).Nodup ∧
    routeRequest.chosenName parcelStubs = "DeserializeGetAsync3" ∧
    ∃ rounds met, routeRequest.Ends parcelStubs routeRequest.begin rounds met ∧ rounds ≤ 4 ∧
      met.name = "DeserializeGetAsync3" ∧ routeRequest.Answers parcelStubs met := by
  have distinct : (parcelStubs.map overload).Nodup := by decide +kernel
  have named : routeRequest.chosenName parcelStubs = "DeserializeGetAsync3" := by decide +kernel
  obtain ⟨rounds, met, ends, bound, _, rfl, answers⟩ := search_ends routeRequest distinct
  exact ⟨distinct, named, rounds, _, ends, bound, named, answers⟩

end StubRequest

end TypedClients.Generation
