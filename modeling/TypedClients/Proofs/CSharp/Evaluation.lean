import TypedClients.Proofs.CSharp.Literal
import TypedClients.Proofs.CSharp.TextValue
import TypedClients.Text.Blank

/-!
# Evaluating expressions over text

What is generated to send a header takes texts apart and puts them together again. The expressions
that stand there have values, which are computed here by the rules of C#: an index that an array
does not have is a fault, and so is everything that has no meaning among these values. Parameters
are given by the texts to which they are formatted, apart from the locals. That no local takes the
name of a parameter is no matter of evaluation.

A literal has the text that is read from its printed form, and not the text that was to be printed.
It would have another value, or none, if its escapes were not undone.
-/

namespace TypedClients.CSharp

open Text

/-- A value of an expression. -/
inductive Datum where
  | text (value : String)
  | texts (items : List String)
  | char (value : Char)
  | chars (items : List Char)
  | number (value : Nat)
  | truth (value : Bool)
deriving Repr, DecidableEq

/-- Why an expression has no value. -/
inductive EvaluationFault where
  /-- An index that the array does not have. -/
  | outOfRange
  /-- A name, an operation or a literal that means nothing here. -/
  | meaningless
deriving Repr, DecidableEq

/-- The value that is there, or a fault. -/
def meaning (value : Option Datum) : Except EvaluationFault Datum :=
  value.elim (.error .meaningless) .ok

/-! ## Literals -/

/-- The text that was read, when nothing is left behind it. -/
def wholeText? (read : Option (List Char × List Char)) : Option String :=
  read.bind fun found => if found.2 = [] then some (String.ofList found.1) else none

/-- The text of a string literal, read from its printed form between its quotes. -/
def readText? (barred : List Char) (value : String) : Option String :=
  wholeText? (readRegular? barred ((Literal.text value).print.toList.drop 1))

/-- The characters of text inside an interpolated literal. -/
def textReader (barred : List Char) : ItemReader Char where
  read? := readTextChar? barred
  shortens := readTextChar?_length

/-- The text of a part of an interpolated string, read from its printed form unless it is a
hole. -/
def InterpolationPart.readText? (barred : List Char) (values : FormattedValues) :
    InterpolationPart → Option String
  | .text value =>
    wholeText? ((textReader barred).readUntil? '"'
      ((InterpolationPart.text value).print.toList ++ ['"']))
  | .hole identifier format => some (values (denotedName identifier) format)

variable {barred : List Char}

/-- A string literal is read as the text that was printed. -/
theorem readText?_eq (escapable : ∀ c ∈ barred, c ∈ escapedMarks) (value : String) :
    readText? barred value = some value := by
  have printed : (Literal.text value).print.toList.drop 1 =
      value.toList.flatMap escapedChar ++ ['"'] := by
    simp [Literal.print, escaped]
  have read : readRegular? barred (value.toList.flatMap escapedChar ++ ['"']) =
      some (value.toList, []) :=
    ItemReader.readUntil?_printed (fun c _ => readRegularChar?_escapedChar (escapable c)) rfl
  simp [readText?, printed, read, wholeText?]

/-- Text inside an interpolated literal is read as the text that was printed. -/
theorem InterpolationPart.readText?_text (escapable : ∀ c ∈ barred, c ∈ escapedMarks)
    (values : FormattedValues) (value : String) :
    (InterpolationPart.text value).readText? barred values = some value := by
  have read : (textReader barred).readUntil? '"' (value.toList.flatMap printedChar ++ ['"']) =
      some (value.toList, []) :=
    ItemReader.readUntil?_printed (fun c _ => readTextChar?_printedChar (escapable c)) rfl
  simp [readText?, toList_print_text, read, wholeText?]

/-! ## Operations -/

/-- The pieces of a text between marks, at most as many as given. The last one is all that is
left. -/
def splitAtMost (marks : List Char) : Nat → List Char → List (List Char)
  | 0, _ => []
  | 1, text => [text]
  | count + 2, text =>
    match text.dropWhile fun c => !marks.contains c with
    | [] => [text]
    | _ :: behind =>
      text.takeWhile (fun c => !marks.contains c) :: splitAtMost marks (count + 1) behind

/-- A text is cut in two at its first mark, however many more there are: the second piece is the
whole rest. -/
theorem splitAtMost_two {mark : Char} {before : List Char} (free : mark ∉ before)
    (behind : List Char) :
    splitAtMost [mark] 2 (before ++ mark :: behind) = [before, behind] := by
  have inside : ∀ c ∈ before, (!([mark].contains c)) = true := by
    intro c member
    simpa using ne_mark_of_not_mem free c member
  obtain ⟨taken, left⟩ := cut_behind_run inside
    (show ∀ c ∈ (mark :: behind).head?, (!([mark].contains c)) = false by simp)
  rw [splitAtMost, left, taken]
  rfl

/-- How long a text is, in units of sixteen bits. -/
def unitLength (text : String) : Nat :=
  text.length + text.toList.countP fun c => 0x10000 ≤ c.toNat

/-- Only the empty text has no length. -/
theorem unitLength_pos_iff (text : String) : 0 < unitLength text ↔ text ≠ "" := by
  constructor
  · rintro long rfl
    simp [unitLength] at long
  · intro filled
    have long : 0 < text.length := by
      rw [← String.length_toList]
      exact List.length_pos_of_ne_nil (mt String.toList_eq_nil_iff.mp filled)
    exact Nat.add_pos_left long _

/-- The value of a method that is called on a value. `Split` without any marks would take white
space for them, and is not needed. -/
def Datum.call : Datum → String → List Datum → Option Datum
  | .text value, "Trim", [] => some (.text (trimmed value))
  | .text value, "Split", [.chars (mark :: marks), .number count] =>
    some (.texts ((splitAtMost (mark :: marks) count value.toList).map String.ofList))
  | _, _, _ => none

/-- The value of a property of a value. -/
def Datum.property : Datum → String → Option Datum
  | .text value, "Length" => some (.number (unitLength value))
  | _, _ => none

/-- A value that is a character. -/
def Datum.char? : Datum → Option Char
  | .char value => some value
  | _ => none

/-- An element of an array. -/
def Datum.element : Datum → Nat → Except EvaluationFault Datum
  | .texts items, index => (items[index]?).elim (.error .outOfRange) (.ok ∘ .text)
  | _, _ => .error .meaningless

/-- A comparison of two values. -/
def Datum.compare : Datum → BinaryOp → Datum → Option Datum
  | .number left, .greater, .number right => some (.truth (left > right))
  | _, _, _ => none

/-! ## Expressions -/

/-- What an evaluation takes from outside: the characters that may not stand in a literal, the
texts of the parameters, and the locals, the innermost first. -/
structure Scope where
  barred : List Char
  values : FormattedValues
  locals : List (String × Datum)

mutual

/-- The value of an expression. -/
def Expr.evaluate (scope : Scope) : Expr → Except EvaluationFault Datum
  | .name path => meaning (scope.locals.lookup path)
  | .literal (.text value) => meaning ((readText? scope.barred value).map .text)
  | .literal (.char value) => .ok (.char value)
  | .literal (.int value) => .ok (.number value)
  | .literal (.bool value) => .ok (.truth value)
  | .interpolated parts =>
    meaning ((parts.mapM (InterpolationPart.readText? scope.barred scope.values)).map fun texts =>
      .text (String.join texts))
  | .call (.member object name) [] arguments => do
    let receiver ← object.evaluate scope
    let given ← evaluateAll scope arguments
    meaning (receiver.call name given)
  | .member object name => do
    let receiver ← object.evaluate scope
    meaning (receiver.property name)
  | .element object index => do
    let array ← object.evaluate scope
    array.element index
  | .createArray items => do
    let given ← evaluateAll scope items
    meaning ((given.mapM Datum.char?).map .chars)
  | .binary left op right => do
    let first ← left.evaluate scope
    let second ← right.evaluate scope
    meaning (first.compare op second)
  | .conditional condition yes no => do
    match ← condition.evaluate scope with
    | .truth true => yes.evaluate scope
    | .truth false => no.evaluate scope
    | _ => .error .meaningless
  | _ => .error .meaningless

/-- The values of expressions, in order. -/
def evaluateAll (scope : Scope) : List Expr → Except EvaluationFault (List Datum)
  | [] => .ok []
  | expr :: others => do
    let first ← expr.evaluate scope
    let rest ← evaluateAll scope others
    .ok (first :: rest)

end

section Steps

variable {scope : Scope} {object : Expr} {receiver : Datum}

/-- A local has the value that it was declared with. -/
theorem evaluate_local {name : String} {value : Datum}
    (declared : scope.locals.lookup name = some value) :
    (Expr.name name).evaluate scope = .ok value := by
  rw [Expr.evaluate, declared]
  rfl

/-- A string literal has its text. -/
theorem evaluate_text (escapable : ∀ c ∈ scope.barred, c ∈ escapedMarks) (value : String) :
    (Expr.text value).evaluate scope = .ok (.text value) := by
  rw [Expr.text, Expr.evaluate, readText?_eq escapable]
  rfl

/-- A call of a member has the value of the method on what the object and the arguments give. -/
theorem evaluate_callMember {arguments : List Expr} {given : List Datum}
    (evaluated : object.evaluate scope = .ok receiver)
    (all : evaluateAll scope arguments = .ok given) (name : String) :
    (object.callMember name arguments).evaluate scope = meaning (receiver.call name given) := by
  rw [Expr.callMember, Expr.evaluate, evaluated, all]
  rfl

/-- An element of an array of texts is there when its index is in range. -/
theorem evaluate_element {items : List String} {index : Nat} {item : String}
    (evaluated : object.evaluate scope = .ok (.texts items)) (inRange : items[index]? = some item) :
    (Expr.element object index).evaluate scope = .ok (.text item) := by
  rw [Expr.evaluate, evaluated]
  change (items[index]?).elim _ _ = _
  rw [inRange]
  rfl

/-- A choice has the value of the side that the condition is for. -/
theorem evaluate_conditional {condition yes no : Expr} {holds : Bool}
    (decided : condition.evaluate scope = .ok (.truth holds)) :
    (Expr.conditional condition yes no).evaluate scope =
      if holds then yes.evaluate scope else no.evaluate scope := by
  rw [Expr.evaluate, decided]
  cases holds <;> rfl

end Steps

end TypedClients.CSharp
