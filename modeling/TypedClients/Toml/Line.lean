/-!
# Lines of TOML

A line ends with a line feed, which a carriage return may precede, or with the text. Blanks are
spaces and tabs; a comment runs to the end of its line and holds no control character but the tab.

Whether a line has ended is asked of the text that is left, so that no reader counts lines or
columns.
-/

namespace TypedClients.Toml

/-- A blank within a line. -/
def isSpace (c : Char) : Bool :=
  c == ' ' || c == '\t'

/-- A character that may stand in a comment, or between quotes on one line. -/
def isLineChar (c : Char) : Bool :=
  c == '\t' || (0x20 ≤ c.toNat && c.toNat ≠ 0x7F)

/-- The text without the blanks at its start. -/
def skipSpaces (text : List Char) : List Char :=
  text.dropWhile isSpace

/-- The text behind the end of a line, when it starts with one. -/
def behindNewline? : List Char → Option (List Char)
  | '\n' :: rest => some rest
  | '\r' :: '\n' :: rest => some rest
  | _ => none

/-- The text without the comment at its start. -/
def skipComment (text : List Char) : List Char :=
  match text with
  | '#' :: rest => rest.dropWhile isLineChar
  | _ => text

/-- The next line, when only blanks and a comment are left on this one. -/
def nextLine? (text : List Char) : Option (List Char) :=
  match skipComment (skipSpaces text) with
  | [] => some []
  | rest => behindNewline? rest

/-- The text without the blanks, comments and line ends at its start. `inComment` says that the
text starts within a comment. -/
def skipGap (inComment : Bool) : List Char → List Char
  | [] => []
  | '\n' :: rest => skipGap false rest
  | '\r' :: '\n' :: rest => skipGap false rest
  | c :: rest =>
    if inComment then if isLineChar c then skipGap true rest else c :: rest
    else if isSpace c then skipGap false rest
    else if c = '#' then skipGap true rest
    else c :: rest

end TypedClients.Toml
