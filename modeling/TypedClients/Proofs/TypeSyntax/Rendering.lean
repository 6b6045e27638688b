import TypedClients.Proofs.TypeSyntax.Reading

/-!
# The normal spelling of a type

The normal spelling of a tree derives from the grammar whenever every name in the tree is one, and
every tree that is read has names only. So reading a normal spelling gives the tree back, and
writing out what was read settles on one text for all spellings of a type.

The derivation of a normal spelling follows the tree, with a case for a name, for its arguments, for
an array and for a mark for no value. Between arguments stand a comma and one blank.
-/

namespace TypedClients.TypeSyntax

open Text

/-- A tree in which every name satisfies the name rule. -/
inductive WellNamed : TypeSyntax → Prop where
  | named {name : String} {arguments : List TypeSyntax} (rule : IsTypeName name.toList)
      (inner : ∀ argument ∈ arguments, WellNamed argument) : WellNamed (.named name arguments)
  | array {element : TypeSyntax} (inner : WellNamed element) : WellNamed (.array element)
  | nullable {type : TypeSyntax} (inner : WellNamed type) : WellNamed (.nullable type)

/-- Arguments with a comma and a space between each two of them are spelled by their normal
spellings, one behind the other. -/
theorem spells_arguments (first : TypeSyntax) (others : List TypeSyntax)
    (each : ∀ argument ∈ first :: others, Spells argument.render.toList (.type argument)) :
    Spells (first.render ++ renderFollowing others).toList (.arguments (first :: others)) := by
  have own := each first List.mem_cons_self
  induction others generalizing first with
  | nil => simpa [renderFollowing] using Spells.lastArgument own
  | cons next others inductionHypothesis =>
    have later : ∀ argument ∈ next :: others, Spells argument.render.toList (.type argument) :=
      fun argument member => each argument (List.mem_cons_of_mem first member)
    have rest := inductionHypothesis next later (later next List.mem_cons_self)
    have space : Blanks [' '] := by simp; decide
    have spaced := rest.blanks_arguments space
    have text_eq : (first.render ++ renderFollowing (next :: others)).toList =
        first.render.toList ++
          ',' :: ([' '] ++ (next.render ++ renderFollowing others).toList) := by
      simp [renderFollowing]
    rw [text_eq]
    exact .nextArgument own spaced

/-- A name with its arguments is spelled by its normal spelling, with angle brackets where there are
arguments and without where there are none. -/
theorem spells_named {name : String} {arguments : List TypeSyntax}
    (rule : IsTypeName name.toList)
    (each : ∀ argument ∈ arguments, Spells argument.render.toList (.type argument)) :
    Spells (render (.named name arguments)).toList (.type (.named name arguments)) := by
  have done : Spells [] (.suffixes (.named (String.ofList name.toList) arguments)
      (.named name arguments)) := by
    rw [String.ofList_toList]
    exact .noSuffix blanks_nil
  cases arguments with
  | nil => simpa [render] using
      Spells.type blanks_nil rule (by simp) blanks_nil .noArguments done
  | cons first others =>
    have bracketed := Spells.someArguments (spells_arguments first others each)
    have opened : isNameChar '<' = false := by decide
    simpa [render] using
      Spells.type blanks_nil rule (by simpa using opened) blanks_nil bracketed done

/-- The normal spelling of a tree spells it, so that the tree can be read back from there. Each part
of a tree has a normal spelling of its own, and the spelling of the tree is put together from them.
-/
theorem WellNamed.spells {type : TypeSyntax} (wellNamed : type.WellNamed) :
    Spells type.render.toList (.type type) := by
  induction wellNamed with
  | named rule _ each => exact spells_named rule each
  | @array element _ inner =>
    have brackets : Spells ['[', ']'] (.suffixes element (.array element)) :=
      .arraySuffix blanks_nil blanks_nil (.noSuffix blanks_nil)
    simpa [render] using inner.type_suffixes brackets
  | @nullable type _ inner =>
    have mark : Spells ['?'] (.suffixes type (.nullable type)) :=
      .nullableSuffix blanks_nil (.noSuffix blanks_nil)
    simpa [render] using inner.type_suffixes mark

/-- The trees that a phrase stands for have names only; suffixes add none. -/
def Phrase.WellNamed : Phrase → Prop
  | .type tree => tree.WellNamed
  | .arguments trees | .argumentList trees => ∀ tree ∈ trees, tree.WellNamed
  | .suffixes base tree => base.WellNamed → tree.WellNamed

/-- A tree that is spelled has names only, as the rule for a name is part of the rule that spells
it. -/
theorem Spells.wellNamed {text : List Char} {phrase : Phrase} (spelled : Spells text phrase) :
    phrase.WellNamed := by
  induction spelled with
  | type _ named _ _ _ _ inner behind =>
    exact behind (.named (by simpa using named) inner)
  | noArguments => simp [Phrase.WellNamed]
  | someArguments _ inner => exact inner
  | lastArgument _ last => simpa [Phrase.WellNamed] using last
  | nextArgument _ _ next following => exact List.forall_mem_cons.mpr ⟨next, following⟩
  | noSuffix _ => exact id
  | arraySuffix _ _ _ behind => exact fun inner => behind (.array inner)
  | nullableSuffix _ _ behind => exact fun inner => behind (.nullable inner)

/-- Reading gives back every tree with proper names from its normal spelling, and only such trees
are ever read. So a text and the normal spelling of what it was read as are read alike, and two
texts are read as the same type exactly when their normal spellings are the same. -/
theorem parse_render :
    (∀ type : TypeSyntax, type.WellNamed → parse type.render = .ok type) ∧
      ∀ text type, parse text = .ok type →
        type.WellNamed ∧ parse type.render = parse text ∧
          ∀ other same, parse other = .ok same → (same.render = type.render ↔ same = type) := by
  have back : ∀ type : TypeSyntax, type.WellNamed → parse type.render = .ok type :=
    fun type wellNamed => parse_eq_ok.mpr wellNamed.spells
  have names : ∀ text type, parse text = .ok type → type.WellNamed :=
    fun text type read => (parse_eq_ok.mp read).wellNamed
  refine ⟨back, fun text type read => ⟨names text type read, ?_, ?_⟩⟩
  · rw [back type (names text type read), read]
  · intro other same other_read
    constructor
    · intro render_eq
      have again := back same (names other same other_read)
      rw [render_eq, back type (names text type read)] at again
      exact (by simpa using again : type = same).symm
    · rintro rfl
      rfl

/-- A type with an alias, a nullable argument and an array of arrays in it. -/
def lookupType : TypeSyntax :=
  .named "global::System.Task"
    [.named "Dictionary" [.nullable (.named "@int" []), .array (.array (.named "Été_2" []))]]

/-- The type of the lookup is read back from its rendering: a qualified name, nested arguments, a
name with a mark and with letters that are not ASCII, arrays and a mark for no value. -/
theorem parse_render_lookupType : lookupType.WellNamed ∧
    lookupType.render = "global::System.Task<Dictionary<@int?, Été_2[][]>>" ∧
      parse lookupType.render = .ok lookupType := by
  have key : WellNamed (.nullable (.named "@int" [])) :=
    .nullable (.named (by decide +kernel) (by simp))
  have value : WellNamed (.array (.array (.named "Été_2" []))) :=
    .array (.array (.named (by decide +kernel) (by simp)))
  have dictionary : WellNamed (.named "Dictionary"
      [.nullable (.named "@int" []), .array (.array (.named "Été_2" []))]) :=
    .named (by decide +kernel) (by simp [key, value])
  have wellNamed : lookupType.WellNamed :=
    .named (by decide +kernel) (by simp [dictionary])
  exact ⟨wellNamed, by decide +kernel, parse_render.1 lookupType wellNamed⟩

end TypedClients.TypeSyntax
