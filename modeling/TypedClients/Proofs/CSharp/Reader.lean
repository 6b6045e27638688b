import TypedClients.Proofs.CSharp.Literal
import TypedClients.Proofs.Text.Digits
import TypedClients.Proofs.TypeSyntax.Rendering

/-!
# Reading expressions

Expressions are read by the precedence of the language. Members, calls and elements bind tightest,
then `!` and `await`, then `>` and `is`, then `==`, then `|`, then `&&`, and last the choice between
two values. Of two operators that bind alike the left one is taken first, and of two choices the
right one.

What is read are the forms that generated code is made of, with spaces between them, in the body of
an asynchronous method: there `await` is no name. Any other form is refused, wherever it stands. A
name with dots in it is read as a member of what stands before its last dot, and an interpolated
string as its elements.
-/

namespace TypedClients.CSharp

open Text

/-! ## Names and types -/

/-- Whether a text may name something in an asynchronous method. -/
def NameAlphabet.IsFreeName (alphabet : NameAlphabet) (name : List Char) : Prop :=
  alphabet.IsIdentifier name ∧ String.ofList name ∉ reservedWords ∧ String.ofList name ≠ "await"

instance (alphabet : NameAlphabet) (name : List Char) : Decidable (alphabet.IsFreeName name) :=
  inferInstanceAs (Decidable (_ ∧ _))

/-- The reserved words that are types with members. -/
def keywordTypes : List String :=
  reservedWords.filter fun word => isPredefinedType word && word != "void"

/-- Whether a text is a reference to a type, without its arguments. -/
def NameAlphabet.IsTypeReference (alphabet : NameAlphabet) (name : String) : Prop :=
  name ∈ keywordTypes ∨
    ∀ segment ∈ pieces '.' (withoutStart "global::".toList name.toList),
      alphabet.IsFreeName segment

instance (alphabet : NameAlphabet) (name : String) : Decidable (alphabet.IsTypeReference name) :=
  inferInstanceAs (Decidable (_ ∨ _))

/-- Whether a type is a nullable one. -/
def isNullable : TypeSyntax → Bool
  | .nullable _ => true
  | _ => false

mutual

/-- Whether a type is one of the language: each name in it refers to a type, and no `?` stands
behind another one. -/
def isTypeOf (alphabet : NameAlphabet) : TypeSyntax → Bool
  | .named name arguments => decide (alphabet.IsTypeReference name) && areTypesOf alphabet arguments
  | .array element => isTypeOf alphabet element
  | .nullable inner => !isNullable inner && isTypeOf alphabet inner

/-- Whether each of some types is one of the language. -/
def areTypesOf (alphabet : NameAlphabet) : List TypeSyntax → Bool
  | [] => true
  | type :: others => isTypeOf alphabet type && areTypesOf alphabet others

end

/-! ## Operators -/

/-- How tight an operator between two operands binds. -/
def BinaryOp.level : BinaryOp → Nat
  | .and => 1
  | .bitOr => 2
  | .equal => 3
  | .greater => 4

/-- What may stand behind an operand. -/
inductive Operator where
  | between (op : BinaryOp)
  | isNotNull
  | choice
deriving DecidableEq, Repr

/-- How tight it binds. -/
def Operator.level : Operator → Nat
  | .between op => op.level
  | .isNotNull => 4
  | .choice => 0

/-- A text without the spaces in front of it. -/
def skipSpaces (text : List Char) : List Char :=
  text.dropWhile (· == ' ')

/-- What is left behind a mark at the beginning of a text. -/
def readMark? (mark : Char) (text : List Char) : Option (List Char) :=
  behind? [mark] (skipSpaces text)

section Reading

variable (alphabet : NameAlphabet)

/-- What is left behind a word at the beginning of a text. -/
def readWord? (word : String) (text : List Char) : Option (List Char) :=
  match alphabet.readIdentifier? (skipSpaces text) with
  | some (found, rest) => if String.ofList found = word then some rest else none
  | none => none

/-- The operator at the beginning of a text, and what is left behind it. Longer operators that begin
with the same mark are not taken for it. -/
def readOperator? (text : List Char) : Option (Operator × List Char) :=
  match skipSpaces text with
  | '&' :: '&' :: rest => some (.between .and, rest)
  | '=' :: '=' :: rest => some (.between .equal, rest)
  | '|' :: rest => if rest.head? ∈ [some '|', some '='] then none else some (.between .bitOr, rest)
  | '>' :: rest =>
    if rest.head? ∈ [some '>', some '='] then none else some (.between .greater, rest)
  | '?' :: rest =>
    if rest.head? ∈ [some '?', some '.', some '['] then none else some (.choice, rest)
  | text => do
    let rest ← readWord? alphabet "is" text
    let rest ← readWord? alphabet "not" rest
    let rest ← readWord? alphabet "null" rest
    some (.isNotNull, rest)

/-! ## Expressions without operands -/

/-- The part of an interpolated string that is one element. -/
def Element.part : Element → InterpolationPart
  | .char c => .text (String.singleton c)
  | .hole name format => .hole (String.ofList name) (format.map String.ofList)

/-- Whether an element is a character, or a hole with a name that is free. -/
def Element.IsFree : Element → Prop
  | .char _ => True
  | .hole name _ => alphabet.IsFreeName name

instance : DecidablePred (Element.IsFree alphabet)
  | .char _ => inferInstanceAs (Decidable True)
  | .hole name _ => inferInstanceAs (Decidable (alphabet.IsFreeName name))

/-- The number at the beginning of a text, and what is left behind it. -/
def readInt? (text : List Char) : Option (Nat × List Char) :=
  let rest := text.dropWhile Char.isDigit
  if rest.head?.any alphabet.continues then none
  else (number? 10 (text.takeWhile Char.isDigit)).map fun number => (number, rest)

/-- The word at the beginning of a text as an expression, and what is left behind it. A keyword of a
type is one when a member of the type is behind it. -/
def readName? (text : List Char) : Option (Expr × List Char) := do
  let (name, rest) ← alphabet.readIdentifier? text
  let word := String.ofList name
  if word = "true" then some (.literal (.bool true), rest)
  else if word = "false" then some (.literal (.bool false), rest)
  else if word = "default" then some (.literal .defaultValue, rest)
  else if alphabet.IsFreeName name ∨ word ∈ keywordTypes ∧ (readMark? '.' rest).isSome then
    some (.name word, rest)
  else none

/-- The name or literal at the beginning of a text, and what is left behind it. -/
def readAtom? : List Char → Option (Expr × List Char)
  | '"' :: text =>
    (readRegular? lineEnds text).map fun read => (.literal (.text (String.ofList read.1)), read.2)
  | '\'' :: c :: '\'' :: rest =>
    if c ∈ ['\'', '\\'] ∨ c ∈ lineEnds then none else some (.literal (.char c), rest)
  | '$' :: text => do
    let (elements, rest) ← readInterpolated? alphabet ('$' :: text)
    if ∀ element ∈ elements, element.IsFree alphabet then
      some (.interpolated (elements.map Element.part), rest)
    else none
  | text =>
    if text.head?.any Char.isDigit then
      (readInt? alphabet text).map fun read => (.literal (.int read.1), read.2)
    else readName? alphabet text

/-- The type arguments at the beginning of a text, behind their first bracket, and what is left
behind the last one. -/
def readTypes? (text : List Char) : Option (List TypeSyntax × List Char) :=
  match TypeSyntax.readArguments (text.length + 1) text with
  | .ok (types, rest) => if areTypesOf alphabet types then some (types, rest) else none
  | .error _ => none

/-- The type of a new object at the beginning of a text, and what is left behind it. -/
def readCreated? (text : List Char) : Option (TypeSyntax × List Char) :=
  match TypeSyntax.readName (skipSpaces text) with
  | .ok (name, rest) =>
    if alphabet.IsTypeReference name then
      match readMark? '<' rest with
      | some rest => (readTypes? alphabet rest).map fun read => (.named name read.1, read.2)
      | none => some (.named name [], rest)
    else none
  | .error _ => none

/-! ## Expressions -/

mutual

/-- The expression at the beginning of a text in which no operator outside of brackets binds looser
than a level, and what is left behind it. -/
def readExpr? : Nat → Nat → List Char → Option (Expr × List Char)
  | 0, _, _ => none
  | steps + 1, level, text => do
    let (left, rest) ← readOperand? steps (skipSpaces text)
    readBehind? steps level left rest

/-- The expression that goes on from a left operand. -/
def readBehind? : Nat → Nat → Expr → List Char → Option (Expr × List Char)
  | 0, _, _, _ => none
  | steps + 1, level, left, text =>
    match readOperator? alphabet text with
    | none => some (left, text)
    | some (operator, rest) =>
      if operator.level < level then some (left, text)
      else match operator with
        | .between op => do
          let (right, rest) ← readExpr? steps (op.level + 1) rest
          readBehind? steps level (.binary left op right) rest
        | .isNotNull => readBehind? steps level (.isNotNull left) rest
        | .choice => do
          let (yes, rest) ← readExpr? steps 0 rest
          let rest ← readMark? ':' rest
          let (no, rest) ← readExpr? steps 0 rest
          some (.conditional left yes no, rest)

/-- The operand at the beginning of a text, with the operators before it and the suffixes behind
it. -/
def readOperand? : Nat → List Char → Option (Expr × List Char)
  | 0, _ => none
  | steps + 1, text =>
    match readMark? '!' text with
    | some rest => do
      let (operand, rest) ← readOperand? steps (skipSpaces rest)
      some (.not operand, rest)
    | none =>
      match readWord? alphabet "await" text with
      | some rest => do
        let (operand, rest) ← readOperand? steps (skipSpaces rest)
        some (.await operand, rest)
      | none => do
        let (start, rest) ← readStart? steps text
        readSuffixes? steps start rest

/-- The expression at the beginning of a text to which suffixes belong. -/
def readStart? : Nat → List Char → Option (Expr × List Char)
  | 0, _ => none
  | steps + 1, text =>
    match readMark? '(' text with
    | some rest => do
      let (inner, rest) ← readExpr? steps 0 rest
      let rest ← readMark? ')' rest
      some (inner, rest)
    | none =>
      match readWord? alphabet "new" text with
      | some rest => readNew? steps rest
      | none => readAtom? alphabet text

/-- A new array or a new object, behind the word `new`. -/
def readNew? : Nat → List Char → Option (Expr × List Char)
  | 0, _ => none
  | steps + 1, text =>
    match readMark? '[' text with
    | some rest => do
      let rest ← readMark? ']' rest
      let rest ← readMark? '{' rest
      let (items, rest) ← readItems? steps '}' rest
      some (.createArray items, rest)
    | none => do
      let (type, rest) ← readCreated? alphabet text
      let rest ← readMark? '(' rest
      let (arguments, rest) ← readItems? steps ')' rest
      some (.create type.render arguments, rest)

/-- The expression that goes on from one by suffixes. -/
def readSuffixes? : Nat → Expr → List Char → Option (Expr × List Char)
  | 0, _, _ => none
  | steps + 1, object, text =>
    match skipSpaces text with
    | '.' :: rest => do
      let (name, rest) ← alphabet.readIdentifier? (skipSpaces rest)
      if alphabet.IsFreeName name then
        readSuffixes? steps (.member object (String.ofList name)) rest
      else none
    | '<' :: rest => do
      let (types, rest) ← readTypes? alphabet rest
      let rest ← readMark? '(' rest
      let (arguments, rest) ← readItems? steps ')' rest
      readSuffixes? steps (.call object (types.map TypeSyntax.render) arguments) rest
    | '(' :: rest => do
      let (arguments, rest) ← readItems? steps ')' rest
      readSuffixes? steps (.call object [] arguments) rest
    | '[' :: rest => do
      let (index, rest) ← readInt? alphabet (skipSpaces rest)
      let rest ← readMark? ']' rest
      readSuffixes? steps (.element object index) rest
    | _ => some (object, text)

/-- The expressions up to a mark that ends them, with commas between them, and what is left behind
the mark. -/
def readItems? : Nat → Char → List Char → Option (List Expr × List Char)
  | 0, _, _ => none
  | steps + 1, mark, text =>
    match readMark? mark text with
    | some rest => some ([], rest)
    | none => readMore? steps mark text

/-- The expressions up to a mark that ends them, of which there is at least one. -/
def readMore? : Nat → Char → List Char → Option (List Expr × List Char)
  | 0, _, _ => none
  | steps + 1, mark, text => do
    let (item, rest) ← readExpr? steps 0 text
    match readMark? ',' rest with
    | some rest => do
      let (others, rest) ← readMore? steps mark rest
      some (item :: others, rest)
    | none => do
      let rest ← readMark? mark rest
      some ([item], rest)

end

/-- The number of steps that are enough for a text, with the calls before a character of it is
used. -/
def stepsFor (text : List Char) (calls : Nat) : Nat :=
  5 * text.length + calls

/-- The expression at the beginning of a text, and what is left behind it. -/
def readExpression? (text : List Char) : Option (Expr × List Char) :=
  readExpr? alphabet (stepsFor text 3) 0 text

end Reading

end TypedClients.CSharp
