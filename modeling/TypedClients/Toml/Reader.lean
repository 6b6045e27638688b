import TypedClients.Toml.Item
import TypedClients.Toml.Moment
import TypedClients.Toml.Number
import TypedClients.Toml.Quoted

/-!
# Reading TOML

A text is a sequence of statements, one a line: a header that opens a table, or a key with its
value. Values may be nested 79 deep, and a dotted key has fewer than 80 parts. A text that is no
TOML has no value; why it is none is not said.

The statements are carried out in order on a draft, which holds the entries so far and the header
that is in force, and one that cannot be carried out refuses the whole text: a table that was opened
in one way is not opened again in another.
-/

namespace TypedClients.Toml

/-- A character of a key without quotes. -/
def isKeyChar (c : Char) : Bool :=
  c.isAlphanum || c == '_' || c == '-'

/-- One part of a key. -/
def readKeyPart (text : List Char) : Option (String × List Char) :=
  match text with
  | '"' :: rest => readLineText '"' rest
  | '\'' :: rest => readLineText '\'' rest
  | _ =>
    match text.takeWhile isKeyChar with
    | [] => none
    | part => some (String.ofList part, text.dropWhile isKeyChar)

/-- The parts of a key, with the blanks around them. -/
def readKeyParts : Nat → List Char → Option (List String × List Char)
  | 0, _ => none
  | steps + 1, text => do
    let (part, rest) ← readKeyPart (skipSpaces text)
    match skipSpaces rest with
    | '.' :: rest =>
      let (parts, rest) ← readKeyParts steps rest
      return (part :: parts, rest)
    | rest => return ([part], rest)

/-- The largest number of parts of a key, and the depth of values. -/
def maxDepth : Nat := 79

/-- A key with the blanks around it. -/
def readKey (text : List Char) : Option (List String × List Char) :=
  readKeyParts maxDepth text

/-- The value of a table within braces, from its keys with their values. -/
def inlineTable? (assignments : List (List String × Value)) : Option Value :=
  (assignments.foldlM (fun entries entry => assign entry.1 entry.2 entries) []).map fun entries =>
    .table (finishedEntries entries)

/-- A value that holds no other values. -/
def readSimple (text : List Char) : Option (Value × List Char) :=
  match text with
  | '"' :: _ | '\'' :: _ => (readText text).map fun read => (.text read.1, read.2)
  | 't' :: 'r' :: 'u' :: 'e' :: rest => some (.bool true, rest)
  | 'f' :: 'a' :: 'l' :: 's' :: 'e' :: rest => some (.bool false, rest)
  | _ =>
    match behindMoment? text with
    | some rest => some (.moment, rest)
    | none => readNumber text

mutual

/-- A value. `depth` is how many brackets and braces may be open. -/
def readValue (depth : Nat) : Nat → List Char → Option (Value × List Char)
  | 0, _ => none
  | steps + 1, text =>
    match text with
    | '[' :: rest =>
      if depth = 0 then none
      else (readItems (depth - 1) steps rest).map fun read => (.array read.1, read.2)
    | '{' :: rest =>
      if depth = 0 then none
      else match skipSpaces rest with
        | '}' :: rest => some (.table [], rest)
        | rest => do
          let (assignments, rest) ← readAssignments (depth - 1) steps rest
          return (← inlineTable? assignments, rest)
    | _ => readSimple text

/-- The items of an array and its closing bracket. A comma may follow the last item. -/
def readItems (depth : Nat) : Nat → List Char → Option (List Value × List Char)
  | 0, _ => none
  | steps + 1, text =>
    match skipGap false text with
    | ']' :: rest => some ([], rest)
    | text => do
      let (item, rest) ← readValue depth steps text
      match skipGap false rest with
      | ']' :: rest => return ([item], rest)
      | ',' :: rest =>
        let (items, rest) ← readItems depth steps rest
        return (item :: items, rest)
      | _ => none

/-- The keys of a table within braces with their values, of which there is at least one, and its
closing brace. -/
def readAssignments (depth : Nat) :
    Nat → List Char → Option (List (List String × Value) × List Char)
  | 0, _ => none
  | steps + 1, text => do
    let (path, rest) ← readKey text
    let (value, rest) ← readValue depth steps (skipSpaces (← behindMark? '=' rest))
    match skipSpaces rest with
    | '}' :: rest => return ([(path, value)], rest)
    | ',' :: rest =>
      let (assignments, rest) ← readAssignments depth steps rest
      return ((path, value) :: assignments, rest)
    | _ => none

end

/-- A statement. -/
inductive Statement where
  /-- A line without a statement. -/
  | blank
  /-- A header in brackets. -/
  | table (path : List String)
  /-- A header in doubled brackets. -/
  | element (path : List String)
  | assignment (path : List String) (value : Value)

/-- The statement of a line, and the lines behind it. -/
def readStatement (text : List Char) : Option (Statement × List Char) :=
  match skipSpaces text with
  | '[' :: '[' :: rest => do
    let (path, rest) ← readKey rest
    let rest ← behindMark? ']' (← behindMark? ']' rest)
    return (.element path, ← nextLine? rest)
  | '[' :: rest => do
    let (path, rest) ← readKey rest
    return (.table path, ← nextLine? (← behindMark? ']' rest))
  | text =>
    match nextLine? text with
    | some rest => some (.blank, rest)
    | none => do
      let (path, rest) ← readKey text
      let text := skipSpaces (← behindMark? '=' rest)
      let (value, rest) ← readValue maxDepth (2 * text.length + 2) text
      return (.assignment path value, ← nextLine? rest)

/-- The statements of a text. -/
def readStatements : Nat → List Char → Option (List Statement)
  | _, [] => some []
  | 0, _ => none
  | steps + 1, text => do
    let (statement, rest) ← readStatement text
    return statement :: (← readStatements steps rest)

/-- A text under construction: the header that holds, and all entries. -/
structure Draft where
  header : List String
  entries : Items

/-- Carry out a statement. -/
def Draft.apply (draft : Draft) : Statement → Option Draft
  | .blank => some draft
  | .table path => (openTable path draft.entries).map fun entries => ⟨path, entries⟩
  | .element path => (openElement path draft.entries).map fun entries => ⟨path, entries⟩
  | .assignment path value =>
    (assignIn draft.header path value draft.entries).map fun entries => { draft with entries }

/-- The table that a text denotes. A mark of the byte order may start it. -/
def read (text : String) : Option Table := do
  let chars := match text.toList with
    | '\uFEFF' :: rest => rest
    | chars => chars
  let statements ← readStatements (chars.length + 1) chars
  let draft ← statements.foldlM Draft.apply ⟨[], []⟩
  return finishedEntries draft.entries

end TypedClients.Toml
