import TypedClients.Generation.ResultKind
import TypedClients.Proofs.ReturnShape
import TypedClients.Proofs.Text.Fold

/-!
# Types that are recognised

The kind of a value is decided on the spelling of its type. Only a name is spelled like a name, as
all other types have a bracket or a question mark in their spelling. So it is the type that
decides: a type that is recognised is one of a few names without arguments, or an array of such a
name. Nothing inside an argument and nothing below the outermost `?` plays a part.
-/

namespace TypedClients

open Text

/-- A name that stands for a known one: it is spelled like it up to the case of ASCII letters,
perhaps behind the alias of the global namespace. -/
inductive StandsFor (known : String) : String → Prop where
  | plain {name : String} (same : folded name = folded known) : StandsFor known name
  | aliased {name : String} (same : folded name = folded known) :
      StandsFor known ("global::" ++ name)

namespace StandsFor

variable {known text : String}

/-- What stands for a known name has the marks of this name, colons apart. -/
theorem mark_mem_iff {mark : Char} (unlettered : mark.isAlpha = false) (other : mark ≠ ':')
    (stands : StandsFor known text) : mark ∈ text.toList ↔ mark ∈ known.toList := by
  have name_marks {name : String} (same : folded name = folded known) :
      mark ∈ name.toList ↔ mark ∈ known.toList := by
    rw [← mark_mem_folded_iff unlettered, same, mark_mem_folded_iff unlettered]
  cases stands with
  | plain same => exact name_marks same
  | aliased same =>
    have letters : ∀ c ∈ "global::".toList, c.isAlpha = true ∨ c = ':' := by simp
    have absent : mark ∉ "global::".toList := by
      intro member
      rcases letters mark member with letter | colon
      · simp [unlettered] at letter
      · exact other colon
    rw [String.toList_append, List.mem_append, or_iff_right absent, name_marks same]

/-- With the same marks behind both, a text stands for a name exactly when it does without them, as
a name has no such marks in it. -/
theorem append_iff {marks : String} :
    StandsFor (known ++ marks) (text ++ marks) ↔ StandsFor known text := by
  constructor
  · generalize whole : text ++ marks = name
    rintro (same | @⟨name, same⟩)
    · subst whole
      rw [folded_append, folded_append] at same
      exact .plain (by simpa using same)
    · -- The marks are the last characters of the name, and folding keeps the length of both.
      have spelled : name.toList.map Char.toLower =
          known.toList.map Char.toLower ++ marks.toList.map Char.toLower := by
        simpa [folded] using congrArg String.toList same
      obtain ⟨front, behind, cut, frontSame, behindSame⟩ := List.map_eq_append_iff.mp spelled
      have long : marks.toList.length = behind.length := by
        simpa using (congrArg List.length behindSame).symm
      have parts : text.toList ++ marks.toList = ("global::".toList ++ front) ++ behind := by
        simpa [cut] using congrArg String.toList whole
      have begins := (List.append_inj' parts long).1
      have written : text = "global::" ++ String.ofList front := by
        simpa [← String.toList_inj] using begins
      rw [written]
      exact .aliased (by simpa [folded, ← String.toList_inj] using frontSame)
  · rintro (same | same)
    · exact .plain (by rw [folded_append, folded_append, same])
    · rw [String.append_assoc]
      exact .aliased (by rw [folded_append, folded_append, same])

end StandsFor

namespace TypeSyntax

/-- A type that is one of some names, and has no arguments. -/
def IsOneOf (type : TypeSyntax) (names : List String) : Prop :=
  ∃ name, type = .named name [] ∧ ∃ known ∈ names, StandsFor known name

/-- A type of truth values. -/
def IsTruth (type : TypeSyntax) : Prop :=
  type.IsOneOf ["bool", "Boolean", "System.Boolean"]

/-- A type of texts. -/
def IsText (type : TypeSyntax) : Prop :=
  type.IsOneOf ["string", "System.String"]

/-- A type of byte arrays. -/
def IsBytes (type : TypeSyntax) : Prop :=
  ∃ element, type = .array element ∧ element.IsOneOf ["byte", "System.Byte"]

/-- Every type but a name without arguments has a mark of its own in its spelling. -/
theorem render_marked (type : TypeSyntax) : (∃ name, type = .named name []) ∨
    '<' ∈ type.render.toList ∨ '?' ∈ type.render.toList ∨
      ∃ element, type = .array element ∧ type.render = element.render ++ "[]" := by
  match type with
  | .named name [] => exact Or.inl ⟨name, rfl⟩
  | .named name (first :: others) => simp [render]
  | .nullable inner => simp [render]
  | .array element => exact Or.inr (Or.inr (Or.inr ⟨element, rfl, rfl⟩))

/-- The marks by which a type shows that it is more than a name. -/
def marks : List Char :=
  ['<', '?', '[']

/-- A name that stands for one without a mark has not got this mark either. -/
theorem unmarked {known text : String} {mark : Char} (member : mark ∈ marks)
    (free : mark ∉ known.toList) (stands : StandsFor known text) : mark ∉ text.toList := by
  have unlettered : ∀ mark ∈ marks, mark.isAlpha = false ∧ mark ≠ ':' := by simp [marks]
  rwa [stands.mark_mem_iff (unlettered mark member).1 (unlettered mark member).2]

/-- The spelling of a type stands for a name without marks exactly when the type is a name that
does. -/
theorem standsFor_render_iff {known : String} {type : TypeSyntax}
    (free : ∀ mark ∈ marks, mark ∉ known.toList) :
    StandsFor known type.render ↔ ∃ name, type = .named name [] ∧ StandsFor known name := by
  constructor
  · intro stands
    rcases type.render_marked with ⟨name, rfl⟩ | marked | marked | ⟨element, rfl, spelled⟩
    · exact ⟨name, rfl, by simpa [render] using stands⟩
    · exact absurd marked (unmarked (by decide) (free '<' (by decide)) stands)
    · exact absurd marked (unmarked (by decide) (free '?' (by decide)) stands)
    · exact absurd (by simp [spelled]) (unmarked (by decide) (free '[' (by decide)) stands)
  · rintro ⟨name, rfl, stands⟩
    simpa [render] using stands

/-- The spelling of a type with names only stands for an array of a name without marks exactly when
the type is an array of a name that stands for this name. -/
theorem standsFor_array_iff {known : String} (free : ∀ mark ∈ marks, mark ∉ known.toList)
    {type : TypeSyntax} (wellNamed : type.WellNamed) :
    StandsFor (known ++ "[]") type.render ↔ ∃ element, type = .array element ∧
      ∃ name, element = .named name [] ∧ StandsFor known name := by
  constructor
  · intro stands
    rcases type.render_marked with ⟨name, rfl⟩ | marked | marked | ⟨element, rfl, spelled⟩
    · -- No name has a bracket in it.
      cases wellNamed with
      | named rule _ =>
        have bracket : '[' ∈ (TypeSyntax.named name []).render.toList :=
          (stands.mark_mem_iff (by decide) (by decide)).mpr (by simp)
        exact absurd (rule.isNameChar '[' (by simpa [render] using bracket)) (by decide)
    · exact absurd marked (unmarked (by decide) (by simpa using free '<' (by decide)) stands)
    · exact absurd marked (unmarked (by decide) (by simpa using free '?' (by decide)) stands)
    · rw [spelled, StandsFor.append_iff, standsFor_render_iff free] at stands
      exact ⟨element, rfl, stands⟩
  · rintro ⟨element, rfl, named⟩
    rw [render, StandsFor.append_iff, standsFor_render_iff free]
    exact named

end TypeSyntax

namespace Generation

/-- A text is recognised as a name without a colon exactly when it stands for it, in any case and
with the global namespace in front or without. -/
theorem recognisedName_eq_iff {known text : String} (colonless : ':' ∉ known.toList) :
    recognisedName text = folded known ↔ StandsFor known text := by
  unfold recognisedName withoutStart
  constructor
  · intro recognised
    cases begins : behind? "global::".toList text.toList with
    | none =>
      rw [begins, Option.getD_none, String.ofList_toList] at recognised
      exact .plain recognised
    | some rest =>
      rw [begins, Option.getD_some] at recognised
      have written : text = "global::" ++ String.ofList rest := by
        simpa [← String.toList_inj] using behind?_eq_some_iff.mp begins
      rw [written]
      exact .aliased recognised
  · rintro (same | @⟨name, same⟩)
    · have unaliased : behind? "global::".toList text.toList = none := by
        refine Option.eq_none_iff_forall_ne_some.mpr fun rest begins => ?_
        have colon : ':' ∈ text.toList := by
          rw [behind?_eq_some_iff.mp begins]
          exact List.mem_append_left _ (by decide)
        rw [← mark_mem_folded_iff (by decide), same, mark_mem_folded_iff (by decide)] at colon
        exact colonless colon
      rwa [unaliased, Option.getD_none, String.ofList_toList]
    · have begins : behind? "global::".toList ("global::" ++ name).toList = some name.toList :=
        behind?_eq_some_iff.mpr String.toList_append
      rwa [begins, Option.getD_some, String.ofList_toList]

/-- A type is one of some names without marks and colons exactly when its spelling is recognised as
one of them. -/
theorem isOneOf_iff {names : List String}
    (plain : ∀ known ∈ names, ∀ mark ∈ ':' :: TypeSyntax.marks, mark ∉ known.toList)
    {type : TypeSyntax} :
    type.IsOneOf names ↔ ∃ known ∈ names, recognisedName type.render = folded known := by
  have each {known : String} (member : known ∈ names) :
      recognisedName type.render = folded known ↔
        ∃ name, type = .named name [] ∧ StandsFor known name := by
    obtain ⟨colonless, unmarked⟩ := List.forall_mem_cons.mp (plain known member)
    rw [recognisedName_eq_iff colonless, TypeSyntax.standsFor_render_iff unmarked]
  constructor
  · rintro ⟨name, named, known, member, stands⟩
    exact ⟨known, member, (each member).mpr ⟨name, named, stands⟩⟩
  · rintro ⟨known, member, recognised⟩
    obtain ⟨name, named, stands⟩ := (each member).mp recognised
    exact ⟨name, named, known, member, stands⟩

/-- A type is an array of one of some names exactly when its spelling is recognised as an array of
one of them. -/
theorem isArrayOf_iff {names : List String}
    (plain : ∀ known ∈ names, ∀ mark ∈ ':' :: TypeSyntax.marks, mark ∉ known.toList)
    {type : TypeSyntax} (wellNamed : type.WellNamed) :
    (∃ element, type = .array element ∧ element.IsOneOf names) ↔
      ∃ known ∈ names, recognisedName type.render = folded (known ++ "[]") := by
  have each {known : String} (member : known ∈ names) :
      recognisedName type.render = folded (known ++ "[]") ↔ ∃ element, type = .array element ∧
        ∃ name, element = .named name [] ∧ StandsFor known name := by
    obtain ⟨colonless, unmarked⟩ := List.forall_mem_cons.mp (plain known member)
    rw [recognisedName_eq_iff (by simpa using colonless),
      TypeSyntax.standsFor_array_iff unmarked wellNamed]
  constructor
  · rintro ⟨element, array, name, named, known, member, stands⟩
    exact ⟨known, member, (each member).mpr ⟨element, array, name, named, stands⟩⟩
  · rintro ⟨known, member, recognised⟩
    obtain ⟨element, array, name, named, stands⟩ := (each member).mp recognised
    exact ⟨element, array, name, named, known, member, stands⟩

variable {type : TypeSyntax}

/-- The spellings by which truth values are recognised. -/
theorem isTruth_iff :
    type.IsTruth ↔ recognisedName type.render ∈ ["bool", "boolean", "system.boolean"] := by
  have spelled : ["bool", "Boolean", "System.Boolean"].map folded =
      ["bool", "boolean", "system.boolean"] := by decide
  rw [TypeSyntax.IsTruth, isOneOf_iff (by simp [TypeSyntax.marks]), ← spelled, List.mem_map]
  simp only [eq_comm]

/-- The spellings by which texts are recognised. -/
theorem isText_iff : type.IsText ↔ recognisedName type.render ∈ ["string", "system.string"] := by
  have spelled : ["string", "System.String"].map folded = ["string", "system.string"] := by decide
  rw [TypeSyntax.IsText, isOneOf_iff (by simp [TypeSyntax.marks]), ← spelled, List.mem_map]
  simp only [eq_comm]

/-- The spellings by which byte arrays are recognised. -/
theorem isBytes_iff (wellNamed : type.WellNamed) :
    type.IsBytes ↔ recognisedName type.render ∈ ["byte[]", "system.byte[]"] := by
  have spelled : ["byte", "System.Byte"].map (fun name => folded (name ++ "[]")) =
      ["byte[]", "system.byte[]"] := by decide
  rw [TypeSyntax.IsBytes, isArrayOf_iff (by simp [TypeSyntax.marks]) wellNamed, ← spelled,
    List.mem_map]
  simp only [eq_comm]

namespace ResultKind

/-- The value is a truth value exactly when the type is one of truth values, one `?` apart. -/
theorem ofType_eq_truth_iff : ofType type = .truth ↔ type.withoutNullable.IsTruth := by
  rw [isTruth_iff]
  unfold ofType
  grind

/-- A result is of the kind of a text when its type is that of texts, perhaps with a mark for no
value. -/
theorem ofType_eq_text_iff : ofType type = .text ↔ type.withoutNullable.IsText := by
  rw [isText_iff]
  unfold ofType
  grind

/-- A result is of the kind of bytes when its type is an array of bytes, perhaps with a mark for no
value. -/
theorem ofType_eq_bytes_iff (wellNamed : type.withoutNullable.WellNamed) :
    ofType type = .bytes ↔ type.withoutNullable.IsBytes := by
  rw [isBytes_iff wellNamed]
  unfold ofType
  grind

/-- Every other value is deserialized, as an array when the type itself is one. -/
theorem ofType_of_other (noTruth : ofType type ≠ .truth) (noText : ofType type ≠ .text)
    (noBytes : ofType type ≠ .bytes) :
    ofType type = .deserialized (type.arrayElement?.map TypeSyntax.render) := by
  unfold ofType at *
  grind

end ResultKind

end Generation

end TypedClients
