import TypedClients.Text.Blank
import TypedClients.Text.Letter
import TypedClients.Text.Pieces
import TypedClients.TypeSyntax

/-!
# Reading a type

A type is read from left to right with blanks allowed between its tokens:

* `type ::= name [ '<' type (',' type)* '>' ] suffix*`
* `suffix ::= '[' ']' | '?'`

and a name is the longest run of name characters, which must then satisfy the name rule
`isName`. Every step returns the text it has not used. `readType` and `readArguments` call each
other, so they carry a bound on the steps still allowed; a step uses at least one character, which
is why `parse` may start from the length of the text, and why the bound is never what stops it.
-/

namespace TypedClients.TypeSyntax

open Text

/-- Why a text is not a type. -/
inductive Fault where
  /-- A name had to start here. -/
  | nameExpected (found : Option Char)
  /-- A run of name characters breaks the name rule. -/
  | nameInvalid (name : String)
  /-- The text ends inside `<…>`. -/
  | argumentsUnterminated
  /-- Neither `,` nor `>` follows a type argument. -/
  | argumentUnexpected (found : Char)
  /-- No `]` follows a `[`. -/
  | bracketExpected (found : Option Char)
  /-- The text goes on after a complete type. The offset counts characters. -/
  | trailing (found : Char) (offset : Nat) (text : String)
deriving Repr, DecidableEq

/-- What stands at a place in the text, quoted, for a message. -/
def describeFound : Option Char → String
  | some c => "'" ++ c.toString ++ "'"
  | none => "end of input"

/-- The wording of a fault. -/
def Fault.message : Fault → String
  | .nameExpected found => "expected a type name, found " ++ describeFound found
  | .nameInvalid name => "invalid type name '" ++ name ++ "'"
  | .argumentsUnterminated => "unterminated type argument list"
  | .argumentUnexpected found => "unexpected '" ++ found.toString ++ "' in type arguments"
  | .bracketExpected found => "expected ']', found " ++ describeFound found
  | .trailing found offset text =>
    "unexpected '" ++ found.toString ++ "' at offset " ++ toString offset ++ " in type '" ++ text
      ++ "'"

/-- The characters a name is made of. -/
def isNameChar (c : Char) : Bool :=
  isLetterOrNumeric c || c == '_' || c == '@' || c == '.' || c == ':'

/-- A segment between two dots starts with a letter, `_` or `@` and holds no colon. -/
def isNameSegment : List Char → Bool
  | [] => false
  | c :: rest => (isLetter c || c == '_' || c == '@') && !(c :: rest).contains ':'

/-- The name rule: behind at most one `global::`, every segment between dots is well formed. -/
def isName (name : List Char) : Bool :=
  ((withoutStart "global::".toList name).splitOn '.').all isNameSegment

/-- The longest run of name characters, which has to be a name. -/
def readName (text : List Char) : Except Fault (String × List Char) :=
  let run := text.takeWhile isNameChar
  let rest := text.dropWhile isNameChar
  if run.isEmpty then .error (.nameExpected rest.head?)
  else if isName run then .ok (String.ofList run, rest)
  else .error (.nameInvalid (String.ofList run))

mutual

/-- The suffixes behind a type, each applied to what stands before it. -/
def readSuffixes (type : TypeSyntax) : List Char → Except Fault (TypeSyntax × List Char)
  | [] => .ok (type, [])
  | c :: rest =>
    if isBlank c then readSuffixes type rest
    else if c = '?' then readSuffixes (.nullable type) rest
    else if c = '[' then readClosingBracket type rest
    else .ok (type, c :: rest)

/-- The `]` of an array suffix, and the suffixes after it. -/
def readClosingBracket (type : TypeSyntax) : List Char → Except Fault (TypeSyntax × List Char)
  | [] => .error (.bracketExpected none)
  | c :: rest =>
    if isBlank c then readClosingBracket type rest
    else if c = ']' then readSuffixes (.array type) rest
    else .error (.bracketExpected (some c))

end

mutual

/-- One type, with the blanks around it. -/
def readType : Nat → List Char → Except Fault (TypeSyntax × List Char)
  | 0, text => .error (.nameExpected text.head?)
  | steps + 1, text =>
    match readName (skipBlanks text) with
    | .error fault => .error fault
    | .ok (name, rest) =>
      match skipBlanks rest with
      | '<' :: inside =>
        match readArguments steps inside with
        | .error fault => .error fault
        | .ok (arguments, rest) => readSuffixes (.named name arguments) rest
      | rest => readSuffixes (.named name []) rest

/-- The arguments behind a `<`, up to and including the `>`. -/
def readArguments : Nat → List Char → Except Fault (List TypeSyntax × List Char)
  | 0, _ => .error .argumentsUnterminated
  | steps + 1, text =>
    match readType steps text with
    | .error fault => .error fault
    | .ok (argument, rest) =>
      match skipBlanks rest with
      | ',' :: others =>
        match readArguments steps others with
        | .error fault => .error fault
        | .ok (arguments, rest) => .ok (argument :: arguments, rest)
      | '>' :: rest => .ok ([argument], rest)
      | c :: _ => .error (.argumentUnexpected c)
      | [] => .error .argumentsUnterminated

end

/-- Read a text that is one type and nothing else. -/
def parse (text : String) : Except Fault TypeSyntax :=
  match readType (text.toList.length + 1) text.toList with
  | .error fault => .error fault
  | .ok (type, []) => .ok type
  | .ok (_, c :: rest) => .error (.trailing c (text.toList.length - (rest.length + 1)) text)

end TypedClients.TypeSyntax
