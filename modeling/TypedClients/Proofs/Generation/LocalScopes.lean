import Mathlib.Data.List.Forall2
import Mathlib.Data.List.Nodup
import TypedClients.Proofs.Generation.ClientUnit
import TypedClients.Proofs.Generation.References

/-!
# Scopes of generated locals

The locals of generated methods have twelve names in all. Which of them a method declares depends
on its threshold, its headers, its content and its value, and the places where it uses them depend
on the same conditions elsewhere. They agree: a method uses a local only where it is in scope and
behind its declaration, and there is no second declaration that could be meant.

Where a local is declared is read off the blocks of the method, and where it is used off its
references, so both sides are computed from the same statements.
-/

namespace TypedClients.Generation

open CSharp

/-- The names of the locals of generated methods. -/
def localNames : List String :=
  ["url", "stopwatch", "request", "response", "header", "headerText", "json", "form", "property",
   "propertyValue", "content", "e"]

/-- The names that are looked up where a parameter is written. That is its name alone, when this
is a name of the language. -/
def spokenNames (parameter : Parameter) : List String :=
  pathNames (escapedIdentifier parameter.name)

/-- What is to be said of the locals of a generated method. -/
structure ScopesLocals (method : Method) (definition : MethodDef) : Prop where
  /-- All locals have names of the twelve. -/
  named : ∀ name ∈ localsOf definition.body, name ∈ localNames
  /-- No local is declared again in its scope. -/
  unclashing : allUnclashing (blockLocals definition.body) definition.body = true
  /-- Wherever one of the twelve names stands and is not the name of a parameter, it is that of a
  local with a single declaration in scope, which comes before. -/
  behind : ∀ reference ∈ definition.references, reference.name ∈ localNames →
    (∀ parameter ∈ method.parameters, reference.name ∉ spokenNames parameter) →
      reference.BehindOne

/-- No name of a local begins with a capital. -/
theorem head?_localNames : ∀ name ∈ localNames,
    name.toList.head? ≠ some 'S' ∧ name.toList.head? ≠ some 'D' := by
  decide

/-- A stub is not called by the name of a local: its name begins with `S` or `D`, with or without an
ordinal, and no local does. -/
theorem StubRequest.chosenName_not_local {request : StubRequest} {suffix name : String}
    (base : request.baseName = "Serialize" ++ suffix ∨ request.baseName = "Deserialize" ++ suffix)
    (stubs : List Prototype) (looked : name ∈ pathNames (request.chosenName stubs)) :
    name ∉ localNames := by
  obtain ⟨ordinal, chosen⟩ := request.chosenName_begins stubs
  intro isLocal
  have lower := head?_localNames name isLocal
  rcases base with base | base
  · have begins : (request.chosenName stubs).toList.head? = some 'S' := by
      simp [chosen, base]
    exact lower.1 (head?_of_pathNames begins (by decide) (by decide) looked)
  · have begins : (request.chosenName stubs).toList.head? = some 'D' := by
      simp [chosen, base]
    exact lower.2 (head?_of_pathNames begins (by decide) (by decide) looked)

/-- What a method takes from outside has no name of a local, unless it is a parameter: hooks and
stubs have longer names, and namespaces capital letters. -/
theorem knows_nonlocal (stubs : List Prototype) (method : Method) (shape : ReturnShape) :
    Knows method shape (stubNames stubs method shape) fun name =>
      name ∉ localNames ∨ ∃ parameter ∈ method.parameters, name ∈ spokenNames parameter where
  parameter := fun parameter among _ looked => Or.inr ⟨parameter, among, looked⟩
  system := Or.inl (by decide)
  newtonsoft := Or.inl (by decide)
  transport := Or.inl (by decide)
  errorHook := Or.inl (by decide)
  slowCallHook := fun _ => Or.inl (by decide)
  serialize := by
    intro request asked name looked
    obtain ⟨_, content, _, _, form⟩ := serializeRequest_eq_some.mp asked
    rw [stubNames_serialize asked] at looked
    exact Or.inl (request.chosenName_not_local
      (Or.inl (congrArg StubRequest.baseName form)) stubs looked)
  deserialize := by
    intro request asked name looked
    obtain ⟨_, value, _, _, form⟩ := deserializeRequest_eq_some.mp asked
    rw [stubNames_deserialize asked] at looked
    exact Or.inl (request.chosenName_not_local
      (Or.inr (congrArg StubRequest.baseName form)) _ looked)

/-- The locals of a method are among the twelve names. -/
theorem mem_localNames {client : Client} {method : Method} {endpoint : Endpoint}
    {names : StubNames} {name : String}
    (member : name ∈ localsOf (methodBody client method endpoint names)) : name ∈ localNames := by
  simp only [localsOf_methodBody, List.mem_append, List.mem_cons, List.not_mem_nil, or_false,
    localsOf_startWatch, List.mem_ite_nil_right, mem_localsOf_headerBlocks,
    mem_localsOf_contentStmts, mem_localsOf_responseStmts] at member
  simp only [localNames, List.mem_cons, List.not_mem_nil, or_false]
  grind

/-- In a generated method each local is used behind its only declaration in scope. That there is one
comes from the references, and that there is one only from the scopes. -/
theorem Generated.scopesLocals {client : Client} {stubs : List Prototype} {method : Method}
    {definition : MethodDef} (generated : Generated client stubs method definition) :
    ScopesLocals method definition := by
  obtain ⟨endpoint, before, found, kept⟩ := generated
  have apart := methodBody_unclashing client method endpoint
    (stubNames before method endpoint.returnShape)
  constructor
  case named => exact fun name member => mem_localNames member
  case unclashing => exact apart
  case behind =>
    intro reference stands isLocal foreign
    have bound := methodBody_references (knows_nonlocal before method endpoint.returnShape)
      reference stands
    have declared : reference.name ∈ reference.declared := by
      rcases bound with declared | outside | ⟨parameter, among, spoken⟩
      · exact declared
      · exact absurd isLocal outside
      · exact absurd spoken (foreign parameter among)
    have visible : reference.declared ⊆ reference.scope :=
      declared_subset_of_mem _ [] _ (List.nil_subset _) (List.Subset.refl _) reference stands
    have distinct := block_nodup List.nodup_nil (by rwa [List.append_nil])
    rw [List.append_nil] at distinct
    have mentioned := List.mem_map_of_mem (f := Reference.toMention) stands
    rw [MethodDef.references, mentions_referencesIn] at mentioned
    have once := scope_nodup_of_mem _ _ distinct apart _ mentioned
    exact ⟨List.count_eq_one_of_mem once (visible declared), declared⟩

/-- In every generated method of a class the locals have names of the twelve, none is declared
again in its scope, and each use of such a name that is not that of a parameter lies behind exactly
one declaration in whose scope it is. -/
theorem locals_are_scoped (client : Client) :
    List.Forall₂ ScopesLocals client.eligibleMethods (clientUnit client).body.methods :=
  (forall₂_generated client [] client.methods).imp fun _ _ generated => generated.scopesLocals

end TypedClients.Generation
