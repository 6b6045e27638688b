import TypedClients.CSharp.Printer
import TypedClients.Proofs.CSharp.PrintedInterpolation
import TypedClients.Proofs.Text.Digits

/-!
# Line ends in printed code

Code is made of its own marks and of fragments that it is given: words, which are printed as they
are, and texts, which are quoted. The marks have no line ends in them. So a line end gets into
printed code with a word, or as one of the rare ones with a text: of the others there is nothing but
the escape.

The induction is the one over statements, with an empty disjunction for each mark, so that only the
fragments are left. It is an equivalence: which line ends get in is known from the fragments, with
none too many.
-/

namespace TypedClients.CSharp

open Layout

variable {c : Char}

/-! ## Quoted texts -/

/-- What is printed for a character has a line end in it only if the character is one, and rare. -/
theorem lineEnd_mem_escapedChar (ending : c ∈ lineEnds) (d : Char) :
    c ∈ escapedChar d ↔ c ∈ rareLineEnds ∧ c = d := by
  have escapes : ∀ mark ∈ escapedMarks, mark ∉ rareLineEnds ∧
      ∀ line ∈ lineEnds, line ∉ escapedChar mark := by
    simp [escapedMarks, rareLineEnds, lineEnds, escapedChar]
  by_cases marked : d ∈ escapedMarks
  · obtain ⟨usual, absent⟩ := escapes d marked
    refine iff_of_false (absent c ending) ?_
    rintro ⟨rare, rfl⟩
    exact usual rare
  · rw [escapedChar_of_not_mem marked, List.mem_singleton]
    constructor
    · rintro rfl
      exact ⟨(mem_escapedMarks_or_rare ending).resolve_left marked, rfl⟩
    · exact And.right

/-- Of the line ends in a text exactly the rare ones are left when it is escaped. The two common
ones have become escape sequences. -/
theorem lineEnd_mem_escaped (ending : c ∈ lineEnds) (text : String) :
    c ∈ (escaped text).toList ↔ c ∈ rareLineEnds ∧ c ∈ text.toList := by
  simp only [escaped, String.toList_ofList, List.mem_flatMap, lineEnd_mem_escapedChar ending]
  constructor
  · rintro ⟨_, member, rare, rfl⟩
    exact ⟨rare, member⟩
  · rintro ⟨rare, member⟩
    exact ⟨c, member, rare, rfl⟩

/-- Doubling the braces of a text brings no characters into it. -/
theorem mem_escapedInterpolated (text : String) :
    c ∈ (escapedInterpolated text).toList ↔ c ∈ (escaped text).toList := by
  have doubled (d : Char) : c ∈ doubledBrace d ↔ c = d := by
    unfold doubledBrace
    split <;> simp
  simp [escapedInterpolated, doubled]

/-! ## Fragments -/

/-- What stands in code as it was given. -/
inductive Fragment where
  /-- A name, a type, a format or a character, printed as it is. -/
  | word (text : String)
  /-- A text between quotes. -/
  | quoted (text : String)

/-- Whether a line end gets into the code with a fragment. -/
def Fragment.Brings (c : Char) : Fragment → Prop
  | .word text => c ∈ text.toList
  | .quoted text => c ∈ rareLineEnds ∧ c ∈ text.toList

@[simp]
def Literal.fragments : Literal → List Fragment
  | .text value => [.quoted value]
  | .char value => [.word value.toString]
  | .int _ | .bool _ | .defaultValue => []

@[simp]
def InterpolationPart.fragments : InterpolationPart → List Fragment
  | .text value => [.quoted value]
  | .hole name format => .word name :: format.toList.map .word

mutual

/-- The fragments of an expression. -/
@[simp]
def Expr.fragments : Expr → List Fragment
  | .name path => [.word path]
  | .literal value => value.fragments
  | .interpolated parts => parts.flatMap InterpolationPart.fragments
  | .call callee types arguments =>
    callee.fragments ++ types.map .word ++ fragmentsOfAll arguments
  | .member object name => object.fragments ++ [.word name]
  | .element object _ => object.fragments
  | .create type arguments => .word type :: fragmentsOfAll arguments
  | .createArray items => fragmentsOfAll items
  | .await operand | .not operand | .isNotNull operand => operand.fragments
  | .binary left _ right => left.fragments ++ right.fragments
  | .conditional condition yes no => condition.fragments ++ yes.fragments ++ no.fragments

/-- The fragments of several expressions. -/
@[simp]
def fragmentsOfAll : List Expr → List Fragment
  | [] => []
  | expr :: others => expr.fragments ++ fragmentsOfAll others

end

mutual

/-- The fragments of a statement. -/
@[simp]
def Stmt.fragments : Stmt → List Fragment
  | .declare name init => .word name :: init.fragments
  | .assign target value => target.fragments ++ value.fragments
  | .evaluate value | .giveBack value => value.fragments
  | .rethrow | .blank => []
  | .whenTrue condition body => condition.fragments ++ fragmentsOf body
  | .withResource name init body => .word name :: init.fragments ++ fragmentsOf body
  | .forEach item items body => .word item :: items.fragments ++ fragmentsOf body
  | .block body => fragmentsOf body
  | .guarded body handler cleanup =>
    fragmentsOf body ++ handlerFragments handler ++ cleanupFragments cleanup

/-- The fragments of statements one after the other. -/
@[simp]
def fragmentsOf : List Stmt → List Fragment
  | [] => []
  | stmt :: body => stmt.fragments ++ fragmentsOf body

/-- The fragments of a handler, if there is one. -/
@[simp]
def handlerFragments : Option (CatchClause (List Stmt)) → List Fragment
  | none => []
  | some ⟨exceptionType, caught, handler⟩ =>
    [.word exceptionType, .word caught] ++ fragmentsOf handler

/-- The fragments of a cleanup, if there is one. -/
@[simp]
def cleanupFragments : Option (List Stmt) → List Fragment
  | none => []
  | some cleanup => fragmentsOf cleanup

end

/-- The fragments of statements are those of the first of them, then those of the others. -/
@[simp] theorem fragmentsOf_append (first second : List Stmt) :
    fragmentsOf (first ++ second) = fragmentsOf first ++ fragmentsOf second := by
  induction first with
  | nil => rfl
  | cons stmt first inductionHypothesis => simp [inductionHypothesis]

/-- Whether a line end gets into the code with one of some fragments. -/
def Brought (c : Char) (fragments : List Fragment) : Prop :=
  ∃ fragment ∈ fragments, fragment.Brings c

/-- Nothing is brought by no fragments. -/
@[simp] theorem brought_nil : ¬ Brought c [] := by
  simp [Brought]

/-- A character is brought by fragments when the first one brings it or the others do. -/
@[simp] theorem brought_cons {fragment : Fragment} {fragments : List Fragment} :
    Brought c (fragment :: fragments) ↔ fragment.Brings c ∨ Brought c fragments := by
  simp [Brought]

/-- A character is brought by two lists of fragments when either of them brings it. -/
@[simp] theorem brought_append {first second : List Fragment} :
    Brought c (first ++ second) ↔ Brought c first ∨ Brought c second := by
  simp [Brought, or_and_right, exists_or]

/-- Words bring the characters that are in them, and those alone. -/
theorem brought_words {words : List String} :
    Brought c (words.map .word) ↔ ∃ word ∈ words, c ∈ word.toList := by
  simp [Brought, Fragment.Brings]

/-- A character is brought by fragments that are made of several sources when those of one source
bring it. -/
theorem brought_flatMap {Source : Type} {sources : List Source} {made : Source → List Fragment} :
    Brought c (sources.flatMap made) ↔ ∃ source ∈ sources, Brought c (made source) := by
  simp only [Brought, List.mem_flatMap]
  constructor
  · rintro ⟨fragment, ⟨source, member, inside⟩, brings⟩
    exact ⟨source, member, fragment, inside, brings⟩
  · rintro ⟨source, member, fragment, inside, brings⟩
    exact ⟨fragment, ⟨source, member, inside⟩, brings⟩

/-- Whether a character is in one of the words among some fragments. -/
def InWords (c : Char) (fragments : List Fragment) : Prop :=
  ∃ text, .word text ∈ fragments ∧ c ∈ text.toList

/-- Whether a character is in one of the texts that are quoted among some fragments. -/
def InQuotes (c : Char) (fragments : List Fragment) : Prop :=
  ∃ text, .quoted text ∈ fragments ∧ c ∈ text.toList

/-- A line end gets in with a word, or it is rare and gets in with a text: the two line ends that
are not rare have an escape, which is what is printed for them. -/
theorem brought_iff {fragments : List Fragment} :
    Brought c fragments ↔ InWords c fragments ∨ c ∈ rareLineEnds ∧ InQuotes c fragments := by
  constructor
  · rintro ⟨fragment, member, brings⟩
    cases fragment with
    | word text => exact Or.inl ⟨text, member, brings⟩
    | quoted text => exact Or.inr ⟨brings.1, text, member, brings.2⟩
  · rintro (⟨text, member, inside⟩ | ⟨rare, text, member, inside⟩)
    · exact ⟨_, member, inside⟩
    · exact ⟨_, member, rare, inside⟩

section InQuotes

variable {fragments first second : List Fragment} {text : String}

/-- Nothing stands in quotes where there are no fragments. -/
@[simp] theorem inQuotes_nil : ¬ InQuotes c [] := by
  simp [InQuotes]

/-- A word in front has no quotes. -/
@[simp] theorem inQuotes_word : InQuotes c (.word text :: fragments) ↔ InQuotes c fragments := by
  simp [InQuotes]

/-- Words have no quotes, however many there are. -/
@[simp] theorem inQuotes_words {words : List String} : ¬ InQuotes c (words.map .word) := by
  simp [InQuotes]

/-- A quoted text in front has its own characters in quotes, beside those of the others. -/
@[simp] theorem inQuotes_quoted :
    InQuotes c (.quoted text :: fragments) ↔ c ∈ text.toList ∨ InQuotes c fragments := by
  simp [InQuotes, or_and_right, exists_or]

/-- A character stands in quotes in two lists of fragments when it does in either of them. -/
@[simp] theorem inQuotes_append :
    InQuotes c (first ++ second) ↔ InQuotes c first ∨ InQuotes c second := by
  simp [InQuotes, or_and_right, exists_or]

end InQuotes

/-! ## Expressions -/

/-- A line end is none of the characters that the marks of code are made of. -/
theorem lineEnd_ne (ending : c ∈ lineEnds) {mark : Char} (usual : mark ∉ lineEnds) : c ≠ mark := by
  rintro rfl
  exact usual ending

/-- Nor is it a digit. -/
theorem lineEnd_not_mem_digits (ending : c ∈ lineEnds) (number : Nat) :
    c ∉ Nat.toDigits 10 number := by
  have undecimal : ∀ line ∈ lineEnds, line.isDigit = false := by
    simp [lineEnds, Char.isDigit]
  intro member
  have digit := Nat.isDigit_of_mem_toDigits (by decide) (by decide) member
  rw [undecimal c ending] at digit
  exact Bool.noConfusion digit

/-- Between two texts of several there are a comma and a blank, neither of which is a line end. So
one gets in with one of the texts. -/
theorem lineEnd_mem_listed (ending : c ∈ lineEnds) (texts : List String) :
    c ∈ [',', ' '].intercalate (texts.map String.toList) ↔ ∃ text ∈ texts, c ∈ text.toList := by
  induction texts with
  | nil => simp
  | cons text others inductionHypothesis =>
    cases others with
    | nil => simp
    | cons next others =>
      rw [List.map_cons, List.map_cons, List.intercalate_cons_cons, ← List.map_cons,
        List.mem_append, inductionHypothesis]
      simp (disch := decide) [lineEnd_ne ending]

/-- Type arguments have the line ends of their types: neither the brackets nor the commas between
them bring one. -/
theorem lineEnd_mem_printTypeArguments (ending : c ∈ lineEnds) (types : List String) :
    c ∈ (printTypeArguments types).toList ↔ ∃ type ∈ types, c ∈ type.toList := by
  cases types with
  | nil => simp [printTypeArguments]
  | cons type others =>
    have listed := lineEnd_mem_listed ending (type :: others)
    simpa (disch := decide) [printTypeArguments, lineEnd_ne ending] using listed

/-- A literal is printed with the line ends that its fragments bring. Only texts and characters can
bring any. -/
theorem Literal.lineEnd_mem_print (ending : c ∈ lineEnds) (literal : Literal) :
    c ∈ literal.print.toList ↔ Brought c literal.fragments := by
  cases literal with
  | text value =>
    simp (disch := decide) [Literal.print, Fragment.Brings, lineEnd_mem_escaped ending,
      lineEnd_ne ending]
  | char value =>
    simp (disch := decide) [Literal.print, Fragment.Brings, lineEnd_ne ending]
  | int value =>
    simp [Literal.print, lineEnd_not_mem_digits ending]
  | bool value =>
    cases value <;> simp (disch := decide) [Literal.print, lineEnd_ne ending]
  | defaultValue =>
    simp (disch := decide) [Literal.print, lineEnd_ne ending]

/-- A part of an interpolated string is printed with the line ends that its fragments bring: the
rare ones of its text, and all of its format and its expression. -/
theorem InterpolationPart.lineEnd_mem_print (ending : c ∈ lineEnds) (part : InterpolationPart) :
    c ∈ part.print.toList ↔ Brought c part.fragments := by
  cases part with
  | text value =>
    simp [InterpolationPart.print, Fragment.Brings, mem_escapedInterpolated,
      lineEnd_mem_escaped ending]
  | hole name format =>
    cases format <;>
      simp (disch := decide) [InterpolationPart.print, Fragment.Brings, lineEnd_ne ending]

/-- Whether a text has no line end in it. -/
def StaysOnLine (text : String) : Prop :=
  ∀ c ∈ text.toList, c ∉ lineEnds

/-- A text into which only the rare line ends of another one get stays on its line exactly when the
other one has none of them. -/
theorem staysOnLine_iff {printed value : String}
    (traced : ∀ c ∈ lineEnds, c ∈ printed.toList ↔ c ∈ rareLineEnds ∧ c ∈ value.toList) :
    StaysOnLine printed ↔ ∀ c ∈ value.toList, c ∉ rareLineEnds := by
  constructor
  · intro stays c member rare
    have ending : c ∈ lineEnds := List.mem_cons_of_mem _ (List.mem_cons_of_mem _ rare)
    exact stays c ((traced c ending).mpr ⟨rare, member⟩) ending
  · intro usual c inside ending
    obtain ⟨rare, member⟩ := (traced c ending).mp inside
    exact usual c member rare

/-- A text literal stays on one line exactly when no rare line end is in the text. -/
theorem staysOnLine_text (value : String) :
    StaysOnLine (Literal.text value).print ↔ ∀ c ∈ value.toList, c ∉ rareLineEnds := by
  refine staysOnLine_iff fun c ending => ?_
  rw [Literal.lineEnd_mem_print ending]
  simp [Fragment.Brings]

/-- The text of an interpolated string stays on one line exactly when no rare line end is in it. -/
theorem staysOnLine_interpolated (value : String) :
    StaysOnLine (InterpolationPart.text value).print ↔ ∀ c ∈ value.toList, c ∉ rareLineEnds := by
  refine staysOnLine_iff fun c ending => ?_
  rw [InterpolationPart.lineEnd_mem_print ending]
  simp [Fragment.Brings]

/-- No operator is printed with a line end. -/
theorem BinaryOp.lineEnd_not_mem_print (ending : c ∈ lineEnds) (op : BinaryOp) :
    c ∉ op.print.toList := by
  cases op <;> simp (disch := decide) [BinaryOp.print, lineEnd_ne ending]

mutual

/-- A line end in a printed expression comes with one of its fragments. The induction is on the
expression. -/
theorem Expr.lineEnd_mem_print (ending : c ∈ lineEnds) (expr : Expr) :
    c ∈ expr.print.toList ↔ Brought c expr.fragments := by
  cases expr with
  | name path => simp [Expr.print, Fragment.Brings]
  | literal value => exact value.lineEnd_mem_print ending
  | interpolated parts =>
    simp (disch := decide) [Expr.print, lineEnd_ne ending, brought_flatMap,
      InterpolationPart.lineEnd_mem_print ending]
  | call callee types arguments =>
    simp (disch := decide) [Expr.print, lineEnd_ne ending, callee.lineEnd_mem_print ending,
      lineEnd_mem_printTypeArguments ending, brought_words, lineEnd_mem_listed ending,
      lineEnd_mem_printAll ending arguments]
  | member object name =>
    simp (disch := decide) [Expr.print, lineEnd_ne ending, Fragment.Brings,
      object.lineEnd_mem_print ending]
  | element object index =>
    simp (disch := decide) [Expr.print, lineEnd_ne ending, object.lineEnd_mem_print ending,
      lineEnd_not_mem_digits ending]
  | create type arguments =>
    simp (disch := decide) [Expr.print, lineEnd_ne ending, Fragment.Brings,
      lineEnd_mem_listed ending, lineEnd_mem_printAll ending arguments]
  | createArray items =>
    simp (disch := decide) [Expr.print, lineEnd_ne ending, lineEnd_mem_listed ending,
      lineEnd_mem_printAll ending items]
  | await operand | isNotNull operand =>
    simp (disch := decide) [Expr.print, lineEnd_ne ending, operand.lineEnd_mem_print ending]
  | not operand =>
    have own := operand.lineEnd_mem_print ending
    -- The operand may stand in parentheses, and brings the same either way.
    rw [Expr.print]
    split <;> simp (disch := decide) [lineEnd_ne ending, own]
  | binary left op right =>
    have mark := op.lineEnd_not_mem_print ending
    simp (disch := decide) [Expr.print, lineEnd_ne ending, mark, left.lineEnd_mem_print ending,
      right.lineEnd_mem_print ending]
  | conditional condition yes no =>
    simp (disch := decide) [Expr.print, lineEnd_ne ending, condition.lineEnd_mem_print ending,
      yes.lineEnd_mem_print ending, no.lineEnd_mem_print ending]

/-- Printed expressions have a line end in some text exactly when the fragments of the expressions
bring it. -/
theorem lineEnd_mem_printAll (ending : c ∈ lineEnds) (exprs : List Expr) :
    (∃ text ∈ printAll exprs, c ∈ text.toList) ↔ Brought c (fragmentsOfAll exprs) := by
  cases exprs with
  | nil => simp [printAll]
  | cons expr others =>
    simp [printAll, expr.lineEnd_mem_print ending, lineEnd_mem_printAll ending others]

end

/-! ## Statements -/

/-- Whether a character is in one of the lines of a layout. -/
def InLines (c : Char) (steps : List Step) : Prop :=
  ∃ text, .line text ∈ steps ∧ c ∈ text.toList

section InLines

variable {steps first second : List Step}

/-- There are no characters in the lines of no steps. -/
@[simp] theorem inLines_nil : ¬ InLines c [] := by
  simp [InLines]

/-- A line in front has its own characters, beside those of the lines behind it. -/
@[simp] theorem inLines_line {text : String} :
    InLines c (.line text :: steps) ↔ c ∈ text.toList ∨ InLines c steps := by
  simp [InLines, or_and_right, exists_or]

/-- An empty line in front has no characters. -/
@[simp] theorem inLines_blank : InLines c (.blank :: steps) ↔ InLines c steps := by
  simp [InLines]

/-- A character is in the lines of two lists of steps when it is in those of either. -/
@[simp] theorem inLines_append :
    InLines c (first ++ second) ↔ InLines c first ∨ InLines c second := by
  simp [InLines, or_and_right, exists_or]

/-- Braces around steps have no line end in them, and nothing else is added. -/
@[simp] theorem inLines_braced : InLines c (braced steps) ↔ InLines c steps := by
  simp [InLines, braced]

end InLines

mutual

/-- A line end in the lines of a statement comes with one of its fragments. The induction is on the
statement. -/
theorem Stmt.lineEnd_inLines (ending : c ∈ lineEnds) (stmt : Stmt) :
    InLines c stmt.steps ↔ Brought c stmt.fragments := by
  have expression (expr : Expr) := expr.lineEnd_mem_print ending
  cases stmt with
  | declare name init =>
    simp (disch := decide) [Stmt.steps, Fragment.Brings, lineEnd_ne ending, expression]
  | assign target value =>
    simp (disch := decide) [Stmt.steps, lineEnd_ne ending, expression]
  | evaluate value | giveBack value =>
    simp (disch := decide) [Stmt.steps, lineEnd_ne ending, expression]
  | rethrow | blank =>
    simp (disch := decide) [Stmt.steps, lineEnd_ne ending]
  | whenTrue condition body =>
    simp (disch := decide) [Stmt.steps, lineEnd_ne ending, expression,
      lineEnd_inLines_bodySteps ending body]
  | withResource name init body | forEach name init body =>
    simp (disch := decide) [Stmt.steps, Fragment.Brings, lineEnd_ne ending, expression,
      lineEnd_inLines_bodySteps ending body, or_assoc]
  | block body => simpa [Stmt.steps] using lineEnd_inLines_bodySteps ending body
  | guarded body handler cleanup =>
    simp (disch := decide) [Stmt.steps, lineEnd_ne ending, lineEnd_inLines_bodySteps ending body,
      lineEnd_inLines_handlerSteps ending handler, lineEnd_inLines_cleanupSteps ending cleanup]

/-- A line end in the lines of statements comes with one of their fragments. -/
theorem lineEnd_inLines_bodySteps (ending : c ∈ lineEnds) (body : List Stmt) :
    InLines c (bodySteps body) ↔ Brought c (fragmentsOf body) := by
  cases body with
  | nil => simp [bodySteps]
  | cons stmt body =>
    simp [bodySteps, stmt.lineEnd_inLines ending, lineEnd_inLines_bodySteps ending body]

/-- A line end in the lines of a handler comes with one of its fragments. -/
theorem lineEnd_inLines_handlerSteps (ending : c ∈ lineEnds)
    (handler : Option (CatchClause (List Stmt))) :
    InLines c (handlerSteps handler) ↔ Brought c (handlerFragments handler) := by
  obtain _ | ⟨exceptionType, caught, handler⟩ := handler
  · simp [handlerSteps]
  · simp (disch := decide) [handlerSteps, Fragment.Brings, lineEnd_ne ending,
      lineEnd_inLines_bodySteps ending handler, or_assoc]

/-- A line end in the lines of a cleanup comes with one of its fragments. -/
theorem lineEnd_inLines_cleanupSteps (ending : c ∈ lineEnds) (cleanup : Option (List Stmt)) :
    InLines c (cleanupSteps cleanup) ↔ Brought c (cleanupFragments cleanup) := by
  cases cleanup with
  | none => simp [cleanupSteps]
  | some cleanup =>
    simp (disch := decide) [cleanupSteps, lineEnd_ne ending,
      lineEnd_inLines_bodySteps ending cleanup]

end

end TypedClients.CSharp
