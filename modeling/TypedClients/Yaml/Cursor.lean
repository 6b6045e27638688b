/-!
# A place in a YAML text

A cursor holds the text that is still to be read and says where that is: the number of characters
before it, and its line and column, all from zero. Indentation is a matter of columns, and what
may be a key one of lines, so both are counted as the text is read.

Text and place are moved together, so they always agree. A line feed behind a carriage return
belongs to it, and the two count as one line end.
-/

namespace TypedClients.Yaml

/-- A space or a tab. -/
def isSpaceOrTab (c : Char) : Bool :=
  c == ' ' || c == '\t'

/-- A character that ends a line. -/
def isBreak (c : Char) : Bool :=
  c == '\n' || c == '\r' || c == '\x85' || c == '\u2028' || c == '\u2029'

/-- A character that ends a word. -/
def isGapChar (c : Char) : Bool :=
  isSpaceOrTab c || isBreak c

/-- A letter, digit, underscore or hyphen of ASCII. -/
def isWordChar (c : Char) : Bool :=
  c.isAlphanum || c == '_' || c == '-'

/-- The mark that may stand before the first character of a line. -/
def byteOrderMark : Char := '\ufeff'

/-- Whether a text begins with a gap or is at its end. -/
def beginsWithGap : List Char → Bool
  | [] => true
  | c :: _ => isGapChar c

/-- Whether a text begins with the end of a line or is at its end. -/
def beginsWithBreak : List Char → Bool
  | [] => true
  | c :: _ => isBreak c

/-- A place in a text. -/
structure Cursor where
  rest : List Char
  index : Nat
  line : Nat
  column : Nat
deriving Repr

namespace Cursor

/-- The start of a text. -/
def start (text : List Char) : Cursor := ⟨text, 0, 0, 0⟩

/-- The place behind some characters of the same line. -/
def skip (cursor : Cursor) (count : Nat) : Cursor :=
  { cursor with
    rest := cursor.rest.drop count
    index := cursor.index + count
    column := cursor.column + count }

/-- The characters of this line that satisfy a test, and the place behind them. -/
def takeWhile (cursor : Cursor) (test : Char → Bool) : List Char × Cursor :=
  let run := cursor.rest.takeWhile test
  (run, cursor.skip run.length)

/-- The place behind the characters of this line that satisfy a test. -/
def dropWhile (cursor : Cursor) (test : Char → Bool) : Cursor :=
  (cursor.takeWhile test).2

/-- The start of the next line, behind some characters. -/
def nextLine (cursor : Cursor) (rest : List Char) (count : Nat) : Cursor :=
  { rest, index := cursor.index + count, line := cursor.line + 1, column := 0 }

/-- The end of a line, as it counts in a scalar, and the place behind it. All ends count as a
line feed but the separators of lines and paragraphs, which count as themselves. -/
def readBreak (cursor : Cursor) : List Char × Cursor :=
  match cursor.rest with
  | '\r' :: '\n' :: rest => (['\n'], cursor.nextLine rest 2)
  | '\u2028' :: rest => (['\u2028'], cursor.nextLine rest 1)
  | '\u2029' :: rest => (['\u2029'], cursor.nextLine rest 1)
  | c :: rest => if isBreak c then (['\n'], cursor.nextLine rest 1) else ([], cursor)
  | [] => ([], cursor)

/-- The place behind the end of a line. -/
def skipBreak (cursor : Cursor) : Cursor :=
  cursor.readBreak.2

/-- The place behind the rest of a line, where a comment stands. -/
def skipComment (cursor : Cursor) : Cursor :=
  if cursor.rest.head? = some '#' then cursor.dropWhile (fun c => !isBreak c) else cursor

/-- Whether a line begins here with `---`. -/
def atDocumentStart (cursor : Cursor) : Bool :=
  cursor.column == 0 && match cursor.rest with
    | '-' :: '-' :: '-' :: rest => beginsWithGap rest
    | _ => false

/-- Whether a line begins here with `...`. -/
def atDocumentEnd (cursor : Cursor) : Bool :=
  cursor.column == 0 && match cursor.rest with
    | '.' :: '.' :: '.' :: rest => beginsWithGap rest
    | _ => false

/-- Whether a document begins or ends here. -/
def atDocumentMark (cursor : Cursor) : Bool :=
  cursor.atDocumentStart || cursor.atDocumentEnd

end Cursor

end TypedClients.Yaml
