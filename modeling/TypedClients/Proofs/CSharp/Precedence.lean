import TypedClients.CSharp.Printer
import TypedClients.Proofs.CSharp.Reader

/-!
# Printed expressions and the precedence of operators

No brackets are printed between an operator and its operands, apart from the operand of `!`. So an
expression can only be read back when each operand binds tighter than its operator, or as tight on
the side from which operators are taken first, and when nothing with an operator has a suffix. That
is a property of the expression alone. The names, types and literals in it have to be printed so
that each is read as itself, in the language as its names are laid down.

Two expressions are told apart only as far as their texts show: a name with dots in it is read as
members, and the parts of an interpolated string as its elements.
-/

namespace TypedClients.CSharp

open Text

/-! ## Grades -/

/-- How tight the outermost operator of an expression binds: 6 when there is none, 5 for an operator
before an operand, and less for the others. -/
def Expr.level : Expr → Nat
  | .conditional .. => 0
  | .binary _ op _ => op.level
  | .isNotNull _ => 4
  | .await _ | .not _ => 5
  | _ => 6

mutual

/-- Whether each operator in an expression has operands that bind tight enough for it to stand
between them without brackets, and each suffix an object without an operator. The operand of `!` may
stand in brackets instead. -/
@[simp]
def Expr.Graded : Expr → Prop
  | .name _ | .literal _ | .interpolated _ => True
  | .call callee _ arguments => callee.level = 6 ∧ callee.Graded ∧ allGraded arguments
  | .member object _ | .element object _ => object.level = 6 ∧ object.Graded
  | .create _ arguments | .createArray arguments => allGraded arguments
  | .await operand => 5 ≤ operand.level ∧ operand.Graded
  | .not operand => (operand.bracketedByNot = true ∨ 5 ≤ operand.level) ∧ operand.Graded
  | .binary left op right =>
    op.level ≤ left.level ∧ op.level < right.level ∧ left.Graded ∧ right.Graded
  | .isNotNull operand => 4 ≤ operand.level ∧ operand.Graded
  | .conditional condition yes no =>
    0 < condition.level ∧ condition.Graded ∧ yes.Graded ∧ no.Graded

/-- Whether that holds in each of some expressions. -/
@[simp]
def allGraded : List Expr → Prop
  | [] => True
  | expr :: others => expr.Graded ∧ allGraded others

end

/-! ## What is read -/

/-- Names with dots between them, as the last of them is read: a member of what stands before it. -/
def dotted (start : Expr) : List (List Char) → Expr
  | [] => start
  | name :: others => dotted (.member start (String.ofList name)) others

/-- A path of names, as it is read. -/
def readPath (path : String) : Expr :=
  match pieces '.' path.toList with
  | [] => .name ""
  | first :: others => dotted (.name (String.ofList first)) others

mutual

/-- An expression as it is read: paths as members, and interpolated strings as their elements. -/
def Expr.spelledOut : Expr → Expr
  | .name path => readPath path
  | .literal value => .literal value
  | .interpolated parts =>
    .interpolated ((parts.flatMap InterpolationPart.elements).map Element.part)
  | .call callee types arguments => .call callee.spelledOut types (allSpelledOut arguments)
  | .member object name => .member object.spelledOut name
  | .element object index => .element object.spelledOut index
  | .create type arguments => .create type (allSpelledOut arguments)
  | .createArray items => .createArray (allSpelledOut items)
  | .await operand => .await operand.spelledOut
  | .not operand => .not operand.spelledOut
  | .binary left op right => .binary left.spelledOut op right.spelledOut
  | .isNotNull operand => .isNotNull operand.spelledOut
  | .conditional condition yes no =>
    .conditional condition.spelledOut yes.spelledOut no.spelledOut

/-- Expressions as they are read. -/
def allSpelledOut : List Expr → List Expr
  | [] => []
  | expr :: others => expr.spelledOut :: allSpelledOut others

end

/-! ## What is printed legibly -/

/-- Whether a literal is printed so that it is read as itself. -/
@[simp]
def Literal.Legible : Literal → Prop
  | .text value => ∀ c ∈ value.toList, c ∉ rareLineEnds
  | .char value => value ∉ ['\'', '\\'] ∧ value ∉ lineEnds
  | _ => True

instance : DecidablePred Literal.Legible
  | .text value => List.decidableBAll (· ∉ rareLineEnds) value.toList
  | .char value => inferInstanceAs (Decidable (value ∉ ['\'', '\\'] ∧ value ∉ lineEnds))
  | .int _ | .bool _ | .defaultValue => inferInstanceAs (Decidable True)

section Legible

variable (alphabet : NameAlphabet)

/-- Whether a part of an interpolated string is printed so that it is read as itself. -/
def InterpolationPart.Legible : InterpolationPart → Prop
  | .text value => (InterpolationPart.text value).Readable
  | .hole name format =>
    alphabet.IsFreeName name.toList ∧ (InterpolationPart.hole name format).Readable

instance : DecidablePred (InterpolationPart.Legible alphabet)
  | .text value => inferInstanceAs (Decidable (InterpolationPart.text value).Readable)
  | .hole _ _ => inferInstanceAs (Decidable (_ ∧ _))

/-- Whether texts are the names of a path. The first of them may be the keyword of a type, if there
is another one behind it. -/
def ArePathNames : List (List Char) → Prop
  | [] => False
  | first :: others =>
    (alphabet.IsFreeName first ∨ String.ofList first ∈ keywordTypes ∧ others ≠ []) ∧
      ∀ name ∈ others, alphabet.IsFreeName name

instance : DecidablePred (ArePathNames alphabet)
  | [] => inferInstanceAs (Decidable False)
  | _ :: _ => inferInstanceAs (Decidable (_ ∧ _))

/-- Whether a text is a path of names. -/
def IsPath (path : String) : Prop :=
  ArePathNames alphabet (pieces '.' path.toList)

instance (path : String) : Decidable (IsPath alphabet path) :=
  inferInstanceAs (Decidable (ArePathNames alphabet _))

/-- Whether a text is the normal spelling of a type. -/
def IsTypeText (text : String) : Prop :=
  ∃ type : TypeSyntax, type.WellNamed ∧ isTypeOf alphabet type = true ∧ type.render = text

/-- Whether a text is the normal spelling of a type that an object may have. -/
def IsCreatedText (text : String) : Prop :=
  ∃ name arguments, (TypeSyntax.named name arguments).WellNamed ∧
    isTypeOf alphabet (.named name arguments) = true ∧
      (TypeSyntax.named name arguments).render = text

/-- Whether an expression is the keyword of a type. -/
def Expr.IsKeywordType : Expr → Prop
  | .name path => path ∈ keywordTypes
  | _ => False

mutual

/-- Whether the names, types and literals in an expression are printed so that they are read as
themselves. -/
@[simp]
def Expr.Legible : Expr → Prop
  | .name path => IsPath alphabet path
  | .literal value => value.Legible
  | .interpolated parts => (∀ part ∈ parts, part.Legible alphabet) ∧ Separated parts
  | .call callee types arguments =>
    callee.Legible ∧ (∀ type ∈ types, IsTypeText alphabet type) ∧ allLegible arguments
  | .member object name =>
    (object.Legible ∨ object.IsKeywordType) ∧ alphabet.IsFreeName name.toList
  | .element object _ => object.Legible
  | .create type arguments => IsCreatedText alphabet type ∧ allLegible arguments
  | .createArray items => allLegible items
  | .await operand | .not operand | .isNotNull operand => operand.Legible
  | .binary left _ right => left.Legible ∧ right.Legible
  | .conditional condition yes no => condition.Legible ∧ yes.Legible ∧ no.Legible

/-- Whether that is so in each of some expressions. -/
@[simp]
def allLegible : List Expr → Prop
  | [] => True
  | expr :: others => expr.Legible ∧ allLegible others

end

end Legible

/-! ## Names of ASCII characters -/

section Ascii

variable {alphabet : NameAlphabet}

/-- A free name in ASCII is a free name in every alphabet: it is an identifier there too, and the
reserved words are the same. -/
theorem NameAlphabet.IsFreeName.of_ascii {name : List Char}
    (free : asciiNames.IsFreeName name) : alphabet.IsFreeName name :=
  ⟨free.1.of_ascii, free.2⟩

/-- A path of ASCII characters is one in every alphabet. So the paths of generated code are tested
in the least alphabet, by evaluation. -/
theorem IsPath.of_ascii {path : String} (isPath : IsPath asciiNames path) :
    IsPath alphabet path := by
  unfold IsPath at isPath ⊢
  cases cut : pieces '.' path.toList with
  | nil =>
    rw [cut] at isPath
    exact isPath
  | cons first others =>
    rw [cut] at isPath
    exact ⟨isPath.1.imp_left fun free => free.of_ascii,
      fun name member => (isPath.2 name member).of_ascii⟩

end Ascii

end TypedClients.CSharp
