import TypedClients.Text.Digits
import TypedClients.Yaml.Token.Gap

/-!
# Quoted scalars

Between single quotes only a doubled quote stands for something else than itself. Between double
quotes a backslash begins an escape, and at the end of a line it joins the next line without a
gap. In both, gaps are folded, and no line may look like the mark of a document.

A scalar between quotes has a type only by a tag, and is else a text, so that `"1"` is no number.
Escapes by number have two, four or eight digits.
-/

namespace TypedClients.Yaml

/-- The character behind a backslash that stands for one character. -/
def simpleEscape? (c : Char) : Option Char :=
  match c with
  | '0' => some '\x00'
  | 'a' => some '\x07'
  | 'b' => some '\x08'
  | 't' | '\t' => some '\t'
  | 'n' => some '\n'
  | 'v' => some '\x0b'
  | 'f' => some '\x0c'
  | 'r' => some '\r'
  | 'e' => some '\x1b'
  | ' ' => some ' '
  | '"' => some '"'
  | '/' => some '/'
  | '\\' => some '\\'
  | 'N' => some '\x85'
  | '_' => some '\xa0'
  | 'L' => some '\u2028'
  | 'P' => some '\u2029'
  | _ => none

/-- The number of digits behind a letter that begins an escape by number. -/
def escapeLength? (c : Char) : Option Nat :=
  match c with
  | 'x' => some 2
  | 'u' => some 4
  | 'U' => some 8
  | _ => none

/-- The character that an escape stands for, and the number of characters that it takes. -/
def readEscape (behind : List Char) : Except Fault (Char × Nat) :=
  match behind with
  | [] => .error .escapeUnknown
  | c :: digits =>
    match simpleEscape? c, escapeLength? c with
    | some value, _ => .ok (value, 2)
    | none, none => .error .escapeUnknown
    | none, some count =>
      if digits.length < count then .error .escapeUnknown
      else match Text.number? 16 (digits.take count) with
        | none => .error .escapeUnknown
        | some number =>
          if number.isValidChar then .ok (Char.ofNat number, count + 2)
          else .error .escapeUnknown

/-- A word of a quoted scalar, last character first, and whether an escaped end of a line stands
behind it. -/
def readQuotedWord (single : Bool) :
    Nat → List Char → Cursor → Except Fault (List Char × Bool × Cursor)
  | 0, word, cursor => .ok (word, false, cursor)
  | steps + 1, word, cursor =>
    match cursor.rest with
    | [] => .ok (word, false, cursor)
    | c :: rest =>
      if isGapChar c then .ok (word, false, cursor)
      else if single then
        if c ≠ '\'' then readQuotedWord single steps (c :: word) (cursor.skip 1)
        else if rest.head? = some '\'' then
          readQuotedWord single steps ('\'' :: word) (cursor.skip 2)
        else .ok (word, false, cursor)
      else if c = '"' then .ok (word, false, cursor)
      else if c ≠ '\\' then readQuotedWord single steps (c :: word) (cursor.skip 1)
      else if rest.head?.any isBreak then .ok (word, true, (cursor.skip 1).skipBreak)
      else match readEscape rest with
        | .error fault => .error fault
        | .ok (value, count) => readQuotedWord single steps (value :: word) (cursor.skip count)

/-- The rest of a quoted scalar, last character first, and the place behind its closing quote. -/
def readQuotedWords (single : Bool) :
    Nat → List Char → Cursor → Except Fault (List Char × Cursor)
  | 0, _, _ => .error .scalarUnterminated
  | steps + 1, read, cursor =>
    if cursor.atDocumentMark then .error .documentMarkInScalar
    else if cursor.rest.isEmpty then .error .scalarUnterminated
    else do
      let (word, joined, behind) ← readQuotedWord single (cursor.rest.length + 1) [] cursor
      let read := word ++ read
      if behind.rest.head? = some (if single then '\'' else '"') then
        return (read, behind.skip 1)
      let (gap, next) ←
        readGap 0 (behind.rest.length + 1) (if joined then .escaped else .none) behind
      let between := if joined then gap.breaks else gap.folded
      readQuotedWords single steps (between.reverse ++ read) next

/-- A quoted scalar, from its opening quote. -/
def readQuoted (single : Bool) (cursor : Cursor) : Except Fault (List Char × Cursor) := do
  let (read, rest) ← readQuotedWords single (cursor.rest.length + 1) [] (cursor.skip 1)
  return (read.reverse, rest)

end TypedClients.Yaml
