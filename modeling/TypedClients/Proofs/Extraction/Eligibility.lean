import TypedClients.Proofs.Declaration
import TypedClients.Proofs.Extraction

/-!
# Which methods are generated

A declaration asks for a generated method by a return type that has a shape and by an attribute
that selects a verb and begins with a literal path. That is not quite enough: extraction settles
on one attribute by the names alone, the first one for the first verb that any attribute selects,
and looks for the path in this attribute and in no other. A method is therefore passed through
when an attribute whose name only begins like a verb stands in front, although another attribute
has verb and path.
-/

namespace TypedClients.Extraction

open Text

/-- An attribute selects a verb when its base name begins with that of the verb, in capital or
small letters. -/
def Selects (verb : HttpVerb) (attr : Attribute) : Prop :=
  ∃ rest, folded (attributeBaseName attr.name) = verb.attributeStart ++ rest

/-- What a declaration gives to have its method generated: a return type with a shape, and verb
and path in some attribute. -/
structure AsksForEndpoint (declared : MethodDeclaration) : Prop where
  shaped : ∃ shape, ReturnShape.resolve declared.returnType = .ok shape
  addressed : ∃ attr ∈ declared.attributes, (∃ verb, Selects verb attr) ∧
    ∃ path, attr.Begins (.literal path)

/-- The verb of a method and the attribute that is taken for it: the first verb that is selected
at all, and the first attribute that selects it. -/
structure Chosen (attributes : List Attribute) (verb : HttpVerb) (attr : Attribute) : Prop where
  selected : IsFirst (fun verb => ∃ attr ∈ attributes, Selects verb attr) HttpVerb.all verb
  selecting : IsFirst (Selects verb) attributes attr

/-- The test whether an attribute selects a verb holds of the attributes whose base name begins like
that of the verb, and of no others. -/
theorem selectsVerb_iff (verb : HttpVerb) (attr : Attribute) :
    selectsVerb verb attr = true ↔ Selects verb attr := by
  unfold selectsVerb Selects
  rw [List.isPrefixOf_iff_prefix]
  constructor
  · rintro ⟨rest, same⟩
    refine ⟨String.ofList rest, ?_⟩
    rw [← String.toList_inj, String.toList_append, String.toList_ofList, same]
  · rintro ⟨rest, same⟩
    exact ⟨rest.toList, by rw [same, String.toList_append]⟩

/-- Every verb is in the list of all verbs. -/
theorem mem_all (verb : HttpVerb) : verb ∈ HttpVerb.all := by
  cases verb <;> decide

/-- The search through verbs and attributes ends at the chosen ones. -/
theorem findVerb?_eq_some_iff {attributes : List Attribute} {verb : HttpVerb} {attr : Attribute} :
    findVerb? attributes = some (verb, attr) ↔ Chosen attributes verb attr := by
  have unselected (verb : HttpVerb) : attributes.find? (selectsVerb verb) = none ↔
      ¬ ∃ attr ∈ attributes, Selects verb attr := by
    simp [List.find?_eq_none, ← selectsVerb_iff]
  have taken {other : HttpVerb} : ((attributes.find? (selectsVerb other)).map fun attr =>
      (other, attr)) = some (verb, attr) ↔
        other = verb ∧ IsFirst (Selects verb) attributes attr := by
    rw [Option.map_eq_some_iff]
    simp only [find?_eq_some_iff_isFirst (selectsVerb_iff other), Prod.mk.injEq]
    constructor
    · rintro ⟨_, first, rfl, rfl⟩
      exact ⟨rfl, first⟩
    · rintro ⟨rfl, first⟩
      exact ⟨attr, first, rfl, rfl⟩
  -- The outer search goes through the verbs, the inner one through the attributes.
  unfold findVerb?
  rw [List.findSome?_eq_some_iff]
  simp only [taken, Option.map_eq_none_iff, unselected]
  constructor
  · rintro ⟨before, _, after, split, ⟨rfl, first⟩, none⟩
    exact ⟨⟨before, after, split, ⟨attr, first.mem, first.holds⟩, none⟩, first⟩
  · rintro ⟨⟨before, after, split, _, none⟩, first⟩
    exact ⟨before, verb, after, split, ⟨rfl, first⟩, none⟩

/-- Some attribute is chosen when one selects a verb. -/
theorem exists_chosen {attributes : List Attribute} {attr : Attribute}
    (member : attr ∈ attributes) {verb : HttpVerb} (selects : Selects verb attr) :
    ∃ verb attr, Chosen attributes verb attr := by
  have selecting : ∃ attr ∈ attributes, Selects verb attr := ⟨attr, member, selects⟩
  obtain ⟨first, selected⟩ :
      ∃ verb, IsFirst (fun verb => ∃ attr ∈ attributes, Selects verb attr) HttpVerb.all verb :=
    exists_isFirst (mem_all verb) selecting
  obtain ⟨other, present, holds⟩ := selected.holds
  obtain ⟨taken, foremost⟩ := exists_isFirst present holds
  exact ⟨first, taken, selected, foremost⟩

/-- The path of an attribute is the literal that it begins with. -/
theorem literal_eq_some_iff {attr : Attribute} {path : String} :
    attr.positional?.bind ArgumentValue.literal? = some path ↔ attr.Begins (.literal path) := by
  rw [← Attribute.positional?_eq_some_iff]
  have literal (value : ArgumentValue) : value.literal? = some path ↔ value = .literal path := by
    cases value <;> simp [ArgumentValue.literal?]
  simp [Option.bind_eq_some_iff, literal]

/-- A method has an endpoint exactly when the chosen attribute begins with its path and its
return type has the shape of the endpoint. -/
theorem resolveRole_eq_ok_iff {declared : MethodDeclaration} {endpoint : Endpoint} :
    resolveRole declared = .ok endpoint ↔
      ∃ attr, Chosen declared.attributes endpoint.verb attr ∧
        attr.Begins (.literal endpoint.pathTemplate) ∧
        ReturnShape.resolve declared.returnType = .ok endpoint.returnShape := by
  simp only [← findVerb?_eq_some_iff, ← literal_eq_some_iff]
  unfold resolveRole
  cases found : findVerb? declared.attributes with
  | none => simp
  | some selected =>
    obtain ⟨verb, attr⟩ := selected
    cases given : attr.positional?.bind ArgumentValue.literal? with
    | none => simp [given]
    | some path =>
      cases shaped : ReturnShape.resolve declared.returnType with
      | error fault => simp [given]
      | ok shape =>
        obtain ⟨_, _, _⟩ := endpoint
        simp [given, and_assoc]

/-- A method is generated when it has an endpoint. -/
theorem isEligible_extractMethod (options : ClassOptions) (declared : MethodDeclaration) :
    (extractMethod options declared).isEligible = true ↔
      ∃ endpoint, resolveRole declared = .ok endpoint := by
  rw [isEligible_iff]
  show (resolveRole declared).isOk = true ↔ _
  cases resolveRole declared <;> simp [Except.isOk, Except.toBool]

/-- A method that is generated asks for an endpoint. -/
theorem asksForEndpoint_of_isEligible {options : ClassOptions} {declared : MethodDeclaration}
    (eligible : (extractMethod options declared).isEligible = true) :
    AsksForEndpoint declared := by
  obtain ⟨endpoint, role⟩ := (isEligible_extractMethod options declared).mp eligible
  obtain ⟨attr, chosen, path, shaped⟩ := resolveRole_eq_ok_iff.mp role
  exact ⟨⟨_, shaped⟩, attr, chosen.selecting.mem, ⟨_, chosen.selecting.holds⟩, _, path⟩

/-- A method with more attributes asks for an endpoint all the more. -/
theorem AsksForEndpoint.of_subset {declared other : MethodDeclaration}
    (asks : AsksForEndpoint declared) (same : other.returnType = declared.returnType)
    (kept : declared.attributes ⊆ other.attributes) : AsksForEndpoint other := by
  obtain ⟨shaped, attr, member, selects, path⟩ := asks
  exact ⟨same ▸ shaped, attr, kept member, selects, path⟩

/-- A method is generated exactly when it asks for an endpoint and the attribute that is chosen
for it begins with a literal path. So a method that asks for an endpoint is passed through only
because of an attribute that is chosen for its name and has no path. -/
theorem generated_iff_chosen_has_path (options : ClassOptions) (declared : MethodDeclaration) :
    (extractMethod options declared).isEligible = true ↔
      AsksForEndpoint declared ∧
        ∀ verb attr, Chosen declared.attributes verb attr →
          ∃ path, attr.Begins (.literal path) := by
  constructor
  · intro eligible
    refine ⟨asksForEndpoint_of_isEligible eligible, ?_⟩
    intro verb attr chosen
    obtain ⟨endpoint, role⟩ := (isEligible_extractMethod options declared).mp eligible
    obtain ⟨other, taken, path, _⟩ := resolveRole_eq_ok_iff.mp role
    have same := (findVerb?_eq_some_iff.mpr taken).symm.trans (findVerb?_eq_some_iff.mpr chosen)
    obtain ⟨rfl, rfl⟩ := Prod.mk.inj (Option.some.inj same)
    exact ⟨_, path⟩
  · rintro ⟨⟨⟨shape, shaped⟩, other, member, ⟨_, selects⟩, _⟩, hasPath⟩
    obtain ⟨verb, attr, chosen⟩ := exists_chosen member selects
    obtain ⟨path, given⟩ := hasPath verb attr chosen
    refine (isEligible_extractMethod options declared).mpr ⟨⟨verb, path, shape⟩, ?_⟩
    exact resolveRole_eq_ok_iff.mpr ⟨attr, chosen, given, shaped⟩

/-- A method that posts to a path, with attributes in front of the one that says so. -/
def savingMethod (attributes : List Attribute) : MethodDeclaration where
  name := "SaveAsync"
  returnType := "Task"
  attributes := attributes ++ [⟨"Post", [⟨none, .literal "/items"⟩]⟩]
  parameters := []

/-- An attribute whose name begins like a verb keeps a method from being generated that asks for
an endpoint with it and without it. -/
theorem getter_hides_endpoint :
    (extractMethod ⟨.newtonsoft, false, 0⟩ (savingMethod [])).isEligible = true ∧
      AsksForEndpoint (savingMethod [⟨"Getter", []⟩]) ∧
      (extractMethod ⟨.newtonsoft, false, 0⟩ (savingMethod [⟨"Getter", []⟩])).isEligible =
        false := by
  have generated : (extractMethod ⟨.newtonsoft, false, 0⟩ (savingMethod [])).isEligible = true := by
    decide +kernel
  have asks := asksForEndpoint_of_isEligible generated
  exact ⟨generated, asks.of_subset rfl (List.subset_append_right _ _), by decide +kernel⟩

end TypedClients.Extraction
