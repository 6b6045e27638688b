import Mathlib.Data.List.Forall2
import TypedClients.GeneratedFile
import TypedClients.Proofs.Text.Blank
import TypedClients.Proofs.Text.Fold

/-!
# Spellings of attribute names

The name of an attribute may be qualified, may have the suffix `Attribute`, and may be written in
capital or small letters. What counts is the part behind the last dot and in front of the suffix,
up to the case of letters. So a class in which attributes are spelled in another way has the same
client, the same findings and the same generated file.

The suffix itself is recognised in one spelling only, and is no suffix where nothing stands in
front of it. This makes no difference: a name that ends so in another spelling is no simple name,
and nothing looks for an attribute without a name or for one that is called `Attribute`.
-/

namespace TypedClients

open Text

/-! ## Simple names -/

/-- A name that is no more than the base of an attribute name: there is nothing to be taken away
from it, in whatever case its letters are. -/
structure IsSimpleName (name : String) : Prop where
  undotted : '.' ∉ name.toList
  unspaced : ∀ c ∈ name.toList, isBlank c = false
  unsuffixed : ¬ "attribute".toList <:+ (folded name).toList

instance (name : String) : Decidable (IsSimpleName name) :=
  decidable_of_iff ('.' ∉ name.toList ∧ name.toList.all (fun c => !isBlank c) = true ∧
      ¬ "attribute".toList <:+ (folded name).toList)
    ⟨fun ⟨undotted, unspaced, unsuffixed⟩ => ⟨undotted, by simpa using unspaced, unsuffixed⟩,
      fun simple => ⟨simple.undotted, by simpa using simple.unspaced, simple.unsuffixed⟩⟩

/-- White space is no letter. -/
theorem isAlpha_of_isBlank {c : Char} (blank : isBlank c = true) : c.isAlpha = false := by
  by_contra letter
  have range : 65 ≤ c.toNat ∧ c.toNat ≤ 90 ∨ 97 ≤ c.toNat ∧ c.toNat ≤ 122 := by
    rcases Bool.or_eq_true_iff.mp (Bool.eq_true_of_not_eq_false letter) with capital | small
    · have within : 'A'.val ≤ c.val ∧ c.val ≤ 'Z'.val := of_decide_eq_true capital
      exact Or.inl within
    · obtain ⟨low, high⟩ := Bool.and_eq_true_iff.mp small
      exact Or.inr ⟨of_decide_eq_true low, of_decide_eq_true high⟩
  simp only [isBlank, Bool.or_eq_true, Bool.and_eq_true, decide_eq_true_eq, beq_iff_eq] at blank
  omega

/-- Two texts that differ in the case of letters only have the same marks. -/
theorem mark_mem_iff_of_folded {mark : Char} (unlettered : mark.isAlpha = false)
    {first second : String} (same : folded first = folded second) :
    mark ∈ first.toList ↔ mark ∈ second.toList := by
  rw [← mark_mem_folded_iff unlettered, same, mark_mem_folded_iff unlettered]

/-- A simple name in letters of another case is a simple name. -/
theorem IsSimpleName.of_folded {name core : String} (simple : IsSimpleName name)
    (same : folded core = folded name) : IsSimpleName core where
  undotted := fun dotted => simple.undotted ((mark_mem_iff_of_folded rfl same).mp dotted)
  unspaced := by
    intro c member
    cases blank : isBlank c with
    | false => rfl
    | true =>
      have moved := (mark_mem_iff_of_folded (isAlpha_of_isBlank blank) same).mp member
      exact blank.symm.trans (simple.unspaced c moved)
  unsuffixed := same ▸ simple.unsuffixed

/-! ## Other spellings -/

/-- What may stand in front of the last part of an attribute name. -/
def IsQualifier (front : String) : Prop :=
  front = "" ∨ ∃ scope, front = scope ++ "."

/-- A simple name in another spelling: in letters of either case, qualified or not, with the suffix
or without it. -/
structure SpellsAs (name other : String) : Prop where
  simple : IsSimpleName name
  spelled : ∃ qualifier core, IsQualifier qualifier ∧ folded core = folded name ∧
    (other = qualifier ++ core ∨ other = qualifier ++ (core ++ "Attribute"))

/-- A qualifier is what stands in front of the last part, when that has no dot. -/
theorem afterLast_qualified {qualifier last : String} (qualifies : IsQualifier qualifier)
    (undotted : '.' ∉ last.toList) : afterLast '.' (qualifier ++ last).toList = last.toList := by
  refine afterLast_eq_iff.mpr ⟨undotted, ?_⟩
  rcases qualifies with rfl | ⟨scope, rfl⟩
  · exact Or.inl (by simp)
  · exact Or.inr ⟨scope.toList, by simp⟩

/-- Nothing is trimmed from a text without white space. -/
theorem trimBlanks_of_unspaced {text : List Char} (unspaced : ∀ c ∈ text, isBlank c = false) :
    trimBlanks text = text :=
  trimBlanks_eq_iff.mpr
    { around := ⟨[], [], by simp⟩
      first := fun c member => unspaced c (List.mem_of_mem_head? member)
      last := fun c member => unspaced c (List.mem_of_getLast? member) }

/-- A qualifier makes no difference to the base of an attribute name. -/
theorem attributeBaseName_qualified {qualifier last : String} (qualifies : IsQualifier qualifier)
    (undotted : '.' ∉ last.toList) :
    attributeBaseName (qualifier ++ last) = attributeBaseName last := by
  have alone := afterLast_qualified (Or.inl rfl) undotted
  rw [String.empty_append] at alone
  unfold attributeBaseName
  rw [afterLast_qualified qualifies undotted, alone]

/-- The base of a name without dots and white space is what stands in front of the suffix, and the
name itself when that is nothing. -/
theorem attributeBaseName_of_unspaced {name : String} (undotted : '.' ∉ name.toList)
    (unspaced : ∀ c ∈ name.toList, isBlank c = false) :
    attributeBaseName name = ((inFrontOf? "Attribute".toList name.toList).filter
      fun short => !short.isEmpty).elim name String.ofList := by
  have alone := afterLast_qualified (Or.inl rfl) undotted
  rw [String.empty_append] at alone
  unfold attributeBaseName
  simp only [alone, trimBlanks_of_unspaced unspaced, String.ofList_toList]
  rcases inFrontOf? "Attribute".toList name.toList with _ | _ | _ <;> rfl

section Simple

variable {core : String} (simple : IsSimpleName core)
include simple

/-- A simple name has no suffix, and is its own base. -/
theorem IsSimpleName.base : attributeBaseName core = core := by
  have unsuffixed : inFrontOf? "Attribute".toList core.toList = none := by
    unfold inFrontOf?
    rw [if_neg]
    intro suffixed
    have small := (List.isSuffixOf_iff_suffix.mp suffixed).map Char.toLower
    exact simple.unsuffixed (by simpa [folded] using small)
  rw [attributeBaseName_of_unspaced simple.undotted simple.unspaced, unsuffixed]
  rfl

/-- A simple name has no dot, with the suffix behind it either. -/
theorem IsSimpleName.undotted_suffixed : '.' ∉ (core ++ "Attribute").toList := by
  simpa using simple.undotted

/-- A simple name is the base of the name with the suffix. Without a name in front of it, the
suffix is all there is. -/
theorem IsSimpleName.base_suffixed :
    attributeBaseName (core ++ "Attribute") = if core = "" then "Attribute" else core := by
  have unspaced : ∀ c ∈ (core ++ "Attribute").toList, isBlank c = false := by
    rw [String.toList_append, List.forall_mem_append]
    have suffix : "Attribute".toList.all (fun c => !isBlank c) = true := by decide
    exact ⟨simple.unspaced, fun c member => by simpa using List.all_eq_true.mp suffix c member⟩
  have front : inFrontOf? "Attribute".toList (core ++ "Attribute").toList = some core.toList := by
    simp [inFrontOf?]
  rw [attributeBaseName_of_unspaced simple.undotted_suffixed unspaced, front]
  by_cases nothing : core = ""
  · subst nothing
    rfl
  · simp [Option.filter, nothing]

end Simple

/-- A test of the base of an attribute name that does not mind the case of letters and lets through
neither the empty name nor the suffix by itself. -/
structure IsLenient (test : String → Bool) : Prop where
  caseless : ∀ {first second}, folded first = folded second → test first = test second
  empty : test "" = false
  suffix : test "Attribute" = false

/-- Such a test does not see how a simple name is spelled. -/
theorem IsLenient.ignores {test : String → Bool} (lenient : IsLenient test) {name other : String}
    (spells : SpellsAs name other) :
    test (attributeBaseName other) = test (attributeBaseName name) := by
  obtain ⟨simple, qualifier, core, qualifies, same, spelled⟩ := spells
  have alsoSimple := simple.of_folded same
  have kept : test core = test name := lenient.caseless same
  rw [simple.base, ← kept]
  rcases spelled with rfl | rfl
  · rw [attributeBaseName_qualified qualifies alsoSimple.undotted, alsoSimple.base]
  · rw [attributeBaseName_qualified qualifies alsoSimple.undotted_suffixed,
      alsoSimple.base_suffixed]
    split
    · rename_i nothing
      rw [nothing, lenient.empty, lenient.suffix]
    · rfl

/-! ## Respelled declarations -/

/-- The same attribute, perhaps with its name in another spelling. -/
structure Attribute.Respelled (attr other : Attribute) : Prop where
  name : other.name = attr.name ∨ SpellsAs attr.name other.name
  arguments : other.arguments = attr.arguments

/-- The same parameter with any of its attributes respelled. -/
structure ParameterDeclaration.Respelled (declared other : ParameterDeclaration) : Prop where
  name : other.name = declared.name
  typeText : other.typeText = declared.typeText
  attributes : List.Forall₂ Attribute.Respelled declared.attributes other.attributes

/-- The same method with any attributes of it and of its parameters respelled. -/
structure MethodDeclaration.Respelled (declared other : MethodDeclaration) : Prop where
  name : other.name = declared.name
  returnType : other.returnType = declared.returnType
  attributes : List.Forall₂ Attribute.Respelled declared.attributes other.attributes
  parameters : List.Forall₂ ParameterDeclaration.Respelled declared.parameters other.parameters

/-- The same class with any attributes of it, of its methods and of their parameters respelled. -/
structure ClassDeclaration.Respelled (declared other : ClassDeclaration) : Prop where
  scope : other.scope = declared.scope
  imports : other.imports = declared.imports
  name : other.name = declared.name
  attributes : List.Forall₂ Attribute.Respelled declared.attributes other.attributes
  methods : List.Forall₂ MethodDeclaration.Respelled declared.methods other.methods

namespace Extraction

variable {attributes others : List Attribute}

/-! ## Lookups -/

/-- Lists whose items have equal images have equal images themselves. -/
theorem map_eq_map_of_forall₂ {Source Image : Type} {related : Source → Source → Prop}
    (image : Source → Image)
    (each : ∀ {source other}, related source other → image other = image source)
    {sources others : List Source} (pairwise : List.Forall₂ related sources others) :
    others.map image = sources.map image := by
  rw [← List.forall₂_eq_eq_eq, List.forall₂_map_left_iff, List.forall₂_map_right_iff]
  exact (pairwise.imp fun _ _ same => each same).flip

/-- What two searches find: nothing, or the same attribute in either spelling. -/
def FoundAlike (found other : Option Attribute) : Prop :=
  found = none ∧ other = none ∨
    ∃ attr again, found = some attr ∧ other = some again ∧ attr.Respelled again

/-- The first attribute that passes a lenient test is at the same place in either spelling. The
induction goes along both lists of attributes. -/
theorem find?_respelled (test : String → Bool) (lenient : IsLenient test)
    (respelled : List.Forall₂ Attribute.Respelled attributes others) :
    FoundAlike (attributes.find? fun attr => test (attributeBaseName attr.name))
      (others.find? fun attr => test (attributeBaseName attr.name)) := by
  induction respelled with
  | nil => exact Or.inl ⟨rfl, rfl⟩
  | @cons attr other attributes others first _ inductionHypothesis =>
    have same : test (attributeBaseName other.name) = test (attributeBaseName attr.name) := by
      rcases first.name with kept | spells
      · rw [kept]
      · exact lenient.ignores spells
    rw [List.find?_cons, List.find?_cons, same]
    split
    · exact Or.inr ⟨attr, other, rfl, rfl, first⟩
    · exact inductionHypothesis

/-- A name that attributes are looked for by: any but the empty one and the suffix by itself. -/
def IsSought (name : String) : Prop :=
  folded name ≠ "" ∧ folded name ≠ "attribute"

instance (name : String) : Decidable (IsSought name) :=
  inferInstanceAs (Decidable (_ ∧ _))

/-- To be the attribute of a name is a lenient test: it holds of a base name in every case, and with
the suffix or without. -/
theorem isLenient_sameFolded {name : String} (sought : IsSought name) :
    IsLenient fun base => sameFolded base name where
  caseless := fun same => by simp [sameFolded, same]
  empty := by
    have unfit : folded "" ≠ folded name := fun same => sought.1 (same.symm.trans rfl)
    simpa [sameFolded] using unfit
  suffix := by
    have unfit : folded "Attribute" ≠ folded name := fun same =>
      sought.2 (same.symm.trans (by decide))
    simpa [sameFolded] using unfit

/-- To select a verb is a lenient test. -/
theorem isLenient_attributeStart (verb : HttpVerb) :
    IsLenient fun base => verb.attributeStart.toList.isPrefixOf (folded base).toList where
  caseless := fun same => by simp [same]
  empty := by cases verb <;> decide
  suffix := by cases verb <;> decide

/-- The attribute of a name is the same in either spelling. -/
theorem findAttribute?_respelled {name : String} (sought : IsSought name)
    (respelled : List.Forall₂ Attribute.Respelled attributes others) :
    FoundAlike (findAttribute? attributes name) (findAttribute? others name) :=
  find?_respelled (fun base => sameFolded base name) (isLenient_sameFolded sought) respelled

/-- The positional argument does not depend on how the attribute is spelled, as the arguments are
kept. -/
theorem positional?_respelled {attr other : Attribute} (respelled : attr.Respelled other) :
    other.positional? = attr.positional? := by
  rw [Attribute.positional?, respelled.arguments, Attribute.positional?]

/-- The value of an attribute that is looked for does not depend on how attributes are spelled. The
first one of the name stands at the same position before and after. -/
theorem attributeValue?_respelled {name : String} (sought : IsSought name)
    (respelled : List.Forall₂ Attribute.Respelled attributes others) :
    attributeValue? others name = attributeValue? attributes name := by
  unfold attributeValue?
  rcases findAttribute?_respelled sought respelled with ⟨left, right⟩ | ⟨_, _, left, right, same⟩
  · rw [left, right]
  · rw [left, right, Option.bind_some, Option.bind_some, positional?_respelled same]

/-- A literal that is looked for among attributes does not depend on how they are spelled. -/
theorem literalOption?_respelled {name : String} (sought : IsSought name)
    (respelled : List.Forall₂ Attribute.Respelled attributes others) :
    literalOption? others name = literalOption? attributes name := by
  rw [literalOption?, attributeValue?_respelled sought respelled, literalOption?]

/-- Whether a method throws on a failure does not depend on how its attributes are spelled. -/
theorem throwsOnFailure_respelled
    (respelled : List.Forall₂ Attribute.Respelled attributes others) :
    throwsOnFailure others = throwsOnFailure attributes := by
  have sought : IsSought "ThrowsExceptions" := by decide
  unfold throwsOnFailure
  rcases findAttribute?_respelled sought respelled with ⟨left, right⟩ | ⟨_, _, left, right, same⟩
  · rw [left, right]
  · simp only [left, right, positional?_respelled same]

/-- The verb of a method is the same in either spelling, and so is its attribute, up to how it is
spelled: each verb is looked for in the base names, which are the same but for their case. -/
theorem findVerb?_respelled (respelled : List.Forall₂ Attribute.Respelled attributes others) :
    findVerb? attributes = none ∧ findVerb? others = none ∨
      ∃ verb attr again, findVerb? attributes = some (verb, attr) ∧
        findVerb? others = some (verb, again) ∧ attr.Respelled again := by
  unfold findVerb?
  induction HttpVerb.all with
  | nil => exact Or.inl ⟨rfl, rfl⟩
  | cons verb verbs inductionHypothesis =>
    have found : FoundAlike (attributes.find? (selectsVerb verb))
        (others.find? (selectsVerb verb)) :=
      find?_respelled (fun base => verb.attributeStart.toList.isPrefixOf (folded base).toList)
        (isLenient_attributeStart verb) respelled
    rw [List.findSome?_cons, List.findSome?_cons]
    rcases found with ⟨left, right⟩ | ⟨attr, again, left, right, same⟩
    · rw [left, right]
      exact inductionHypothesis
    · rw [left, right]
      exact Or.inr ⟨verb, attr, again, rfl, rfl, same⟩

/-! ## Clients -/

/-- An option of a class does not depend on how the attributes of the class are spelled. -/
theorem classOption?_respelled {declared other : ClassDeclaration}
    (respelled : declared.Respelled other) (key : String) :
    classOption? other key = classOption? declared key := by
  have sought : IsSought "ApiClientGenerator" := by decide
  unfold classOption?
  rcases findAttribute?_respelled sought respelled.attributes with
    ⟨left, right⟩ | ⟨_, _, left, right, same⟩
  · rw [left, right]
  · simp only [left, right, Option.bind_some, Attribute.named?, same.arguments]

/-- The options of a class do not depend on how its attributes are spelled, whatever the defaults
are. -/
theorem classOptions_respelled {declared other : ClassDeclaration}
    (respelled : declared.Respelled other) (defaults : Defaults) :
    classOptions other defaults = classOptions declared defaults := by
  simp only [classOptions, classOption?_respelled respelled]

/-- Whether an attribute asks for a form is a matter of its arguments. -/
theorem asksForForm_respelled {attr other : Attribute} (respelled : attr.Respelled other) :
    asksForForm other = asksForForm attr := by
  rw [asksForForm, respelled.arguments, asksForForm]

/-- What a parameter is bound to does not depend on how its attributes are spelled. The attributes
for a content and for a header are looked for by their names, and what they ask for is in their
arguments. -/
theorem bindingOf_respelled (name typeText : String)
    (respelled : List.Forall₂ Attribute.Respelled attributes others)
    (placeholders : List String) :
    bindingOf name typeText others placeholders =
      bindingOf name typeText attributes placeholders := by
  have body : IsSought "Body" := by decide
  have header : IsSought "Header" := by decide
  unfold bindingOf
  rcases findAttribute?_respelled body respelled with ⟨left, right⟩ | ⟨_, _, left, right, same⟩
  · rw [left, right]
    rcases findAttribute?_respelled header respelled with
      ⟨left, right⟩ | ⟨_, _, left, right, same⟩
    · rw [left, right]
    · simp only [left, right, positional?_respelled same]
  · simp only [left, right, asksForForm_respelled same]

/-- A parameter is classified alike under every spelling of its attributes. -/
theorem classify_respelled {declared other : ParameterDeclaration}
    (respelled : declared.Respelled other) (placeholders : List String) :
    classify other placeholders = classify declared placeholders := by
  have aliased : IsSought "AliasAs" := by decide
  have formatted : IsSought "Fmt" := by decide
  simp only [classify, respelled.name, respelled.typeText,
    bindingOf_respelled _ _ respelled.attributes,
    literalOption?_respelled aliased respelled.attributes,
    literalOption?_respelled formatted respelled.attributes]

/-- The role of a method does not depend on how its attributes are spelled, and neither does the
problem for which it has none. -/
theorem resolveRole_respelled {declared other : MethodDeclaration}
    (respelled : declared.Respelled other) : resolveRole other = resolveRole declared := by
  unfold resolveRole
  rw [respelled.returnType]
  rcases findVerb?_respelled respelled.attributes with
    ⟨left, right⟩ | ⟨_, _, _, left, right, same⟩
  · rw [left, right]
  · simp only [left, right, positional?_respelled same]

/-- What is extracted of a method does not depend on how attributes are spelled, its own or those of
its parameters. -/
theorem extractMethod_respelled {declared other : MethodDeclaration}
    (respelled : declared.Respelled other) (options : ClassOptions) :
    extractMethod options other = extractMethod options declared := by
  have serialization : IsSought "Serialization" := by decide
  have threshold : IsSought "ConnectionTooLongWarn" := by decide
  have parameters := map_eq_map_of_forall₂
    (fun parameter => classify parameter (rolePlaceholders (resolveRole declared)))
    (fun same => classify_respelled same _) respelled.parameters
  simp only [extractMethod, methodThreshold, respelled.name, resolveRole_respelled respelled,
    parameters, throwsOnFailure_respelled respelled.attributes,
    attributeValue?_respelled serialization respelled.attributes,
    attributeValue?_respelled threshold respelled.attributes]

/-- What is extracted of a class does not depend on how attributes are spelled anywhere in it. -/
theorem extractClient_respelled {declared other : ClassDeclaration}
    (respelled : declared.Respelled other) (defaults : Defaults) :
    extractClient other defaults = extractClient declared defaults := by
  have methods (options : ClassOptions) := map_eq_map_of_forall₂ (extractMethod options)
    (fun same => extractMethod_respelled same options) respelled.methods
  simp only [extractClient, respelled.scope, respelled.imports, respelled.name,
    classOptions_respelled respelled, methods]

/-! ## Findings -/

/-- The warnings for a method do not depend on how attributes are spelled. -/
theorem methodWarnings_respelled {declared other : MethodDeclaration}
    (respelled : declared.Respelled other) (className : String) (options : ClassOptions) :
    methodWarnings className options other = methodWarnings className options declared := by
  have serialization : IsSought "Serialization" := by decide
  simp only [methodWarnings, returnTypeWarnings, extractMethod_respelled respelled,
    resolveRole_respelled respelled, respelled.name, respelled.returnType,
    attributeValue?_respelled serialization respelled.attributes]

/-- The warnings for a class do not depend on how attributes are spelled anywhere in it, and come in
the same order. -/
theorem warnings_respelled {declared other : ClassDeclaration}
    (respelled : declared.Respelled other) (defaults : Defaults) :
    warnings other defaults = warnings declared defaults := by
  have methods (options : ClassOptions) := map_eq_map_of_forall₂
    (methodWarnings declared.name options)
    (fun same => methodWarnings_respelled same _ options) respelled.methods
  simp only [warnings, respelled.name, classOption?_respelled respelled,
    classOptions_respelled respelled, List.flatMap_def, methods]

/-- A class in which attributes of the class, of its methods and of their parameters are spelled
in another way has the same client, the same diagnostics and warnings, and the same generated
file. -/
theorem spelling_changes_nothing {declared other : ClassDeclaration}
    (respelled : declared.Respelled other) (defaults : Defaults) :
    extractClient other defaults = extractClient declared defaults ∧
      diagnostics (extractClient other defaults) = diagnostics (extractClient declared defaults) ∧
      warnings other defaults = warnings declared defaults ∧
      generateClient other defaults = generateClient declared defaults := by
  have client := extractClient_respelled respelled defaults
  refine ⟨client, congrArg diagnostics client, warnings_respelled respelled defaults, ?_⟩
  unfold generateClient
  rw [client]

/-- A class that saves an item, by the names of its attributes. -/
def savingClass (marker verb policy content : String) : ClassDeclaration where
  scope := "Shop"
  imports := []
  name := "Store"
  attributes := [⟨marker, [⟨some "ConnectionTooLongWarn", .int 50⟩]⟩]
  methods :=
    [⟨"SaveAsync", "Task", [⟨verb, [⟨none, .literal "/items"⟩]⟩, ⟨policy, []⟩],
        [⟨"item", "Item", [⟨content, []⟩]⟩]⟩]

/-- All four names are spelled in another way, and still say the same. Among the ways are a
qualified name, the suffix, and letters in another case. -/
theorem saving_in_other_spelling :
    (savingClass "ApiClientGenerator" "Post" "ThrowsExceptions" "Body").Respelled
        (savingClass "Shop.Web.apiClientGENERATOR" "postAttribute" ".throwsexceptionsAttribute"
          "BODY") ∧
      generateClient (savingClass "Shop.Web.apiClientGENERATOR" "postAttribute"
          ".throwsexceptionsAttribute" "BODY") .standard =
        generateClient (savingClass "ApiClientGenerator" "Post" "ThrowsExceptions" "Body")
          .standard ∧
      (extractClient (savingClass "Shop.Web.apiClientGENERATOR" "postAttribute"
          ".throwsexceptionsAttribute" "BODY") .standard).methods.map (fun method =>
            (method.isEligible, method.throwsOnFailure, method.slowCallThreshold,
              method.parameters.map Parameter.binding)) =
        [(true, true, 50, [.body])] := by
  have marker : SpellsAs "ApiClientGenerator" "Shop.Web.apiClientGENERATOR" :=
    ⟨by decide, "Shop.Web.", "apiClientGENERATOR", Or.inr ⟨"Shop.Web", rfl⟩, by decide,
      Or.inl rfl⟩
  have verb : SpellsAs "Post" "postAttribute" :=
    ⟨by decide, "", "post", Or.inl rfl, by decide, Or.inr rfl⟩
  have policy : SpellsAs "ThrowsExceptions" ".throwsexceptionsAttribute" :=
    ⟨by decide, ".", "throwsexceptions", Or.inr ⟨"", rfl⟩, by decide, Or.inr rfl⟩
  have content : SpellsAs "Body" "BODY" :=
    ⟨by decide, "", "BODY", Or.inl rfl, by decide, Or.inl rfl⟩
  have respelled : (savingClass "ApiClientGenerator" "Post" "ThrowsExceptions" "Body").Respelled
      (savingClass "Shop.Web.apiClientGENERATOR" "postAttribute" ".throwsexceptionsAttribute"
        "BODY") :=
    { scope := rfl
      imports := rfl
      name := rfl
      attributes := .cons ⟨Or.inr marker, rfl⟩ .nil
      methods := .cons
        { name := rfl
          returnType := rfl
          attributes := .cons ⟨Or.inr verb, rfl⟩ (.cons ⟨Or.inr policy, rfl⟩ .nil)
          parameters := .cons ⟨rfl, rfl, .cons ⟨Or.inr content, rfl⟩ .nil⟩ .nil } .nil }
  obtain ⟨client, -, -, file⟩ := spelling_changes_nothing respelled .standard
  refine ⟨respelled, file, ?_⟩
  rw [client]
  decide +kernel

end Extraction

end TypedClients
