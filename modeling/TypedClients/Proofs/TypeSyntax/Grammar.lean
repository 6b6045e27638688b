import TypedClients.Proofs.Text.Blank
import TypedClients.TypeSyntax.Parser

/-!
# The grammar of type texts

A type is a name, its arguments if it has any, and its suffixes, with white space allowed between
all tokens:

* `type ::= ws name ws [ '<' type (',' type)* '>' ] (ws suffix)* ws`
* `suffix ::= '[' ws ']' | '?'`

Here `ws` is a run of white space and a name is a maximal run of name characters that satisfies
the name rule. `Spells` says which texts derive from which part of this grammar, and which tree a
derivation stands for; it does not read anything.
-/

namespace TypedClients.TypeSyntax

open Text

/-- A segment of a name starts with a letter, `_` or `@`, and holds no colon. -/
def IsSegment (segment : List Char) : Prop :=
  ∃ first rest, segment = first :: rest ∧ (isLetter first = true ∨ first = '_' ∨ first = '@') ∧
    ':' ∉ segment

/-- The name rule. -/
structure IsTypeName (name : List Char) : Prop where
  nonempty : name ≠ []
  /-- A name is made of letters, numbers, `_`, `@`, `.` and `:`. -/
  characters : ∀ c ∈ name,
    isLetterOrNumeric c = true ∨ c = '_' ∨ c = '@' ∨ c = '.' ∨ c = ':'
  /-- Behind at most one `global::`, what stands between two dots is a segment. -/
  segments : ∀ segment ∈ (withoutStart "global::".toList name).splitOn '.', IsSegment segment

/-- A place where a name ends: no name character follows. -/
def EndsName (text : List Char) : Prop :=
  ∀ c ∈ text.head?, isNameChar c = false

/-- The parts of the grammar, each with the trees that its derivations stand for. -/
inductive Phrase where
  | type (type : TypeSyntax)
  /-- The arguments between `<` and `>`. -/
  | arguments (arguments : List TypeSyntax)
  /-- The arguments with their brackets, if there are any. -/
  | argumentList (arguments : List TypeSyntax)
  /-- The suffixes that make one type of another, applied from left to right. -/
  | suffixes (base type : TypeSyntax)

/-- The texts that derive from a part of the grammar. -/
inductive Spells : List Char → Phrase → Prop where
  | type {before name gap bracketed suffixes : List Char} {arguments : List TypeSyntax}
      {type : TypeSyntax} (blank : Blanks before) (named : IsTypeName name)
      (maximal : EndsName (gap ++ (bracketed ++ suffixes))) (between : Blanks gap)
      (inner : Spells bracketed (.argumentList arguments))
      (behind : Spells suffixes (.suffixes (.named (String.ofList name) arguments) type)) :
      Spells (before ++ (name ++ (gap ++ (bracketed ++ suffixes)))) (.type type)
  | noArguments : Spells [] (.argumentList [])
  | someArguments {inside : List Char} {arguments : List TypeSyntax}
      (inner : Spells inside (.arguments arguments)) :
      Spells ('<' :: (inside ++ ['>'])) (.argumentList arguments)
  | lastArgument {text : List Char} {type : TypeSyntax} (last : Spells text (.type type)) :
      Spells text (.arguments [type])
  | nextArgument {text others : List Char} {type : TypeSyntax} {arguments : List TypeSyntax}
      (next : Spells text (.type type)) (following : Spells others (.arguments arguments)) :
      Spells (text ++ ',' :: others) (.arguments (type :: arguments))
  | noSuffix {gap : List Char} {type : TypeSyntax} (blank : Blanks gap) :
      Spells gap (.suffixes type type)
  | arraySuffix {before gap behind : List Char} {base type : TypeSyntax} (blank : Blanks before)
      (between : Blanks gap) (others : Spells behind (.suffixes (.array base) type)) :
      Spells (before ++ '[' :: (gap ++ ']' :: behind)) (.suffixes base type)
  | nullableSuffix {before behind : List Char} {base type : TypeSyntax} (blank : Blanks before)
      (others : Spells behind (.suffixes (.nullable base) type)) :
      Spells (before ++ '?' :: behind) (.suffixes base type)

/-! ## Names -/

/-- No white space is a name character, so a name ends where white space begins. -/
theorem isNameChar_of_isBlank {c : Char} (blank : isBlank c = true) : isNameChar c = false := by
  have codes : ∀ code ∈ [0x09, 0x0A, 0x0B, 0x0C, 0x0D, 0x20, 0x85, 0xA0, 0x1680, 0x2000, 0x2001,
      0x2002, 0x2003, 0x2004, 0x2005, 0x2006, 0x2007, 0x2008, 0x2009, 0x200A, 0x2028, 0x2029,
      0x202F, 0x205F, 0x3000], isNameChar (Char.ofNat code) = false := by
    decide +kernel
  rw [← Char.ofNat_toNat c]
  apply codes
  simp only [isBlank, Bool.or_eq_true, Bool.and_eq_true, decide_eq_true_eq, beq_iff_eq] at blank
  simp only [List.mem_cons, List.not_mem_nil, or_false]
  omega

/-- A name character is visible. -/
theorem isBlank_of_isNameChar {c : Char} (named : isNameChar c = true) : isBlank c = false := by
  cases blank : isBlank c with
  | false => rfl
  | true => simp [isNameChar_of_isBlank blank] at named

/-- The characters of a name are letters, numerals, and the marks that names are put together with.
-/
theorem isNameChar_iff {c : Char} : isNameChar c = true ↔
    isLetterOrNumeric c = true ∨ c = '_' ∨ c = '@' ∨ c = '.' ∨ c = ':' := by
  simp [isNameChar, or_assoc]

/-- The test for a segment of a name agrees with the grammar. -/
theorem isNameSegment_iff {segment : List Char} :
    isNameSegment segment = true ↔ IsSegment segment := by
  cases segment with
  | nil => simp [isNameSegment, IsSegment]
  | cons first rest => simp [isNameSegment, IsSegment, or_assoc]

/-- A run of name characters that passes the check is a name, and the other way round. The check is
computed, and the rules for a name are not. -/
theorem isTypeName_iff {name : List Char} : IsTypeName name ↔
    name ≠ [] ∧ (∀ c ∈ name, isNameChar c = true) ∧ isName name = true := by
  constructor
  · intro rule
    refine ⟨rule.nonempty, fun c member => isNameChar_iff.mpr (rule.characters c member), ?_⟩
    exact List.all_eq_true.mpr fun segment member =>
      isNameSegment_iff.mpr (rule.segments segment member)
  · rintro ⟨nonempty, characters, checked⟩
    refine ⟨nonempty, fun c member => isNameChar_iff.mp (characters c member), ?_⟩
    exact fun segment member =>
      isNameSegment_iff.mp (List.all_eq_true.mp checked segment member)

instance (name : List Char) : Decidable (IsTypeName name) :=
  decidable_of_iff ((!name.isEmpty && name.all isNameChar && isName name) = true) <| by
    simp [isTypeName_iff, and_assoc]

/-- A name has only characters of names in it, the dots and colons between segments among them. -/
theorem IsTypeName.isNameChar {name : List Char} (named : IsTypeName name) :
    ∀ c ∈ name, isNameChar c = true :=
  (isTypeName_iff.mp named).2.1

/-- Nothing is skipped in front of a name. -/
theorem IsTypeName.not_skipped {name : List Char} (named : IsTypeName name) (rest : List Char) :
    skipBlanks (name ++ rest) = name ++ rest := by
  cases name with
  | nil => exact absurd rfl named.nonempty
  | cons first name =>
    have first_named := named.isNameChar first List.mem_cons_self
    exact skipBlanks_of_not_blank (isBlank_of_isNameChar first_named)

/-- A name ends where the text does. -/
@[simp] theorem endsName_nil : EndsName [] := by
  simp [EndsName]

/-- A name ends before every character that cannot be part of it. -/
@[simp] theorem endsName_cons {c : Char} {text : List Char} :
    EndsName (c :: text) ↔ isNameChar c = false := by
  simp [EndsName]

/-- Where a name ends does not depend on how much of the text behind it is looked at. -/
theorem EndsName.of_append {first second : List Char} (ends : EndsName (first ++ second)) :
    EndsName first := by
  cases first with
  | nil => exact endsName_nil
  | cons c first => simpa using ends

/-- A name that ends before a text ends before this text with more behind it, when it ends before
that too. -/
theorem EndsName.append {first second : List Char} (ends : EndsName first)
    (behind : EndsName second) : EndsName (first ++ second) := by
  cases first with
  | nil => exact behind
  | cons c first => simpa using ends

/-- White space ends a name. -/
theorem endsName_of_blanks {gap : List Char} (blank : Blanks gap) : EndsName gap := by
  intro c first
  exact isNameChar_of_isBlank (blank c (List.mem_of_mem_head? first))

/-! ## White space around phrases -/

/-- White space in front of suffixes belongs to them. -/
theorem Spells.blanks_suffixes {gap text : List Char} {base type : TypeSyntax}
    (blank : Blanks gap) (spelled : Spells text (.suffixes base type)) :
    Spells (gap ++ text) (.suffixes base type) := by
  cases spelled with
  | noSuffix own => exact .noSuffix (blank.append own)
  | arraySuffix own between others =>
    simpa only [List.append_assoc] using Spells.arraySuffix (blank.append own) between others
  | nullableSuffix own others =>
    simpa only [List.append_assoc] using Spells.nullableSuffix (blank.append own) others

/-- White space in front of a type belongs to it. -/
theorem Spells.blanks_type {gap text : List Char} {type : TypeSyntax} (blank : Blanks gap)
    (spelled : Spells text (.type type)) : Spells (gap ++ text) (.type type) := by
  cases spelled with
  | type own named maximal between inner behind =>
    simpa only [List.append_assoc] using
      Spells.type (blank.append own) named maximal between inner behind

/-- White space in front of arguments belongs to the first of them. -/
theorem Spells.blanks_arguments {gap text : List Char} {arguments : List TypeSyntax}
    (blank : Blanks gap) (spelled : Spells text (.arguments arguments)) :
    Spells (gap ++ text) (.arguments arguments) := by
  cases spelled with
  | lastArgument last => exact .lastArgument (last.blanks_type blank)
  | nextArgument next following =>
    simpa only [List.append_assoc] using Spells.nextArgument (next.blanks_type blank) following

/-- Suffixes end a name. -/
theorem Spells.suffixes_endsName {text : List Char} {base type : TypeSyntax}
    (spelled : Spells text (.suffixes base type)) : EndsName text := by
  cases spelled with
  | noSuffix blank => exact endsName_of_blanks blank
  | arraySuffix blank _ _ =>
    exact (endsName_of_blanks blank).append (endsName_cons.mpr (by decide))
  | nullableSuffix blank _ =>
    exact (endsName_of_blanks blank).append (endsName_cons.mpr (by decide))

/-- Suffixes go on from the type that the suffixes before them make. -/
theorem Spells.suffixes_trans {first second : List Char} {base middle type : TypeSyntax}
    (before : Spells first (.suffixes base middle))
    (behind : Spells second (.suffixes middle type)) :
    Spells (first ++ second) (.suffixes base type) := by
  generalize phrase_eq : Phrase.suffixes base middle = phrase at before
  induction before generalizing base with
  | noSuffix blank =>
    obtain ⟨rfl, rfl⟩ := by simpa using phrase_eq
    exact behind.blanks_suffixes blank
  | arraySuffix blank between _ inductionHypothesis =>
    obtain ⟨rfl, rfl⟩ := by simpa using phrase_eq
    simpa using Spells.arraySuffix blank between (inductionHypothesis rfl)
  | nullableSuffix blank _ inductionHypothesis =>
    obtain ⟨rfl, rfl⟩ := by simpa using phrase_eq
    simpa using Spells.nullableSuffix blank (inductionHypothesis rfl)
  | _ => cases phrase_eq

/-- A type with further suffixes behind it is a type. -/
theorem Spells.type_suffixes {text suffixes : List Char} {base type : TypeSyntax}
    (spelled : Spells text (.type base)) (behind : Spells suffixes (.suffixes base type)) :
    Spells (text ++ suffixes) (.type type) := by
  cases spelled with
  | type blank named maximal between inner own =>
    have longer := maximal.append behind.suffixes_endsName
    simp only [List.append_assoc] at longer ⊢
    exact .type blank named longer between inner (own.suffixes_trans behind)

/-- White space behind arguments belongs to the last of them, so the text with it spells the same
arguments. -/
theorem Spells.arguments_blanks {gap text : List Char} {arguments : List TypeSyntax}
    (spelled : Spells text (.arguments arguments)) (blank : Blanks gap) :
    Spells (text ++ gap) (.arguments arguments) := by
  generalize phrase_eq : Phrase.arguments arguments = phrase at spelled
  induction spelled generalizing arguments with
  | lastArgument last =>
    obtain rfl := by simpa using phrase_eq
    exact .lastArgument (last.type_suffixes (.noSuffix blank))
  | nextArgument next _ _ inductionHypothesis =>
    obtain rfl := by simpa using phrase_eq
    simpa using Spells.nextArgument next (inductionHypothesis rfl)
  | _ => cases phrase_eq

end TypedClients.TypeSyntax
