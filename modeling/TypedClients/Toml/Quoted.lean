import TypedClients.Text.Digits
import TypedClients.Toml.Line

/-!
# Quoted text of TOML

Text stands between double quotes, where a backslash begins an escape, or between single quotes,
where every character stands for itself. Between three quotes of either kind it may run over
several lines: a line end right behind the opening quotes does not count, a line end is always a
line feed, and up to two quotes may touch the closing three from within.
-/

namespace TypedClients.Toml

/-- The character that an escape with so many hexadecimal digits stands for. -/
def readNumbered (count : Nat) (text : List Char) : Option (Char × List Char) :=
  if text.length < count then none
  else match Text.number? 16 (text.take count) with
    | some number =>
      if number.isValidChar then some (Char.ofNat number, text.drop count) else none
    | none => none

/-- The character that an escape stands for, behind its backslash. -/
def readEscape (text : List Char) : Option (Char × List Char) :=
  match text with
  | 'b' :: rest => some ('\x08', rest)
  | 't' :: rest => some ('\t', rest)
  | 'n' :: rest => some ('\n', rest)
  | 'f' :: rest => some ('\x0c', rest)
  | 'r' :: rest => some ('\r', rest)
  | '"' :: rest => some ('"', rest)
  | '\\' :: rest => some ('\\', rest)
  | 'u' :: rest => readNumbered 4 rest
  | 'U' :: rest => readNumbered 8 rest
  | _ => none

/-- The characters of a line between quotes, last first, behind the opening quote. -/
def readLineChars (quote : Char) : Nat → List Char → List Char → Option (List Char × List Char)
  | 0, _, _ => none
  | _, _, [] => none
  | steps + 1, read, c :: rest =>
    if c = quote then some (read, rest)
    else if c = '\\' ∧ quote = '"' then
      match readEscape rest with
      | some (value, rest) => readLineChars quote steps (value :: read) rest
      | none => none
    else if isLineChar c then readLineChars quote steps (c :: read) rest
    else none

/-- The text without the blanks and line ends at its start. -/
def skipBlankLines : List Char → List Char
  | [] => []
  | '\r' :: '\n' :: rest => skipBlankLines rest
  | c :: rest => if isSpace c || c == '\n' then skipBlankLines rest else c :: rest

/-- The text behind a backslash that joins lines: everything from the next character on that is
neither a blank nor a line end. -/
def behindJoin? (text : List Char) : Option (List Char) :=
  (behindNewline? (skipSpaces text)).map skipBlankLines

/-- The characters between three quotes, last first, behind the opening ones. -/
def readBlockChars (quote : Char) : Nat → List Char → List Char → Option (List Char × List Char)
  | 0, _, _ => none
  | _, _, [] => none
  | steps + 1, read, c :: rest =>
    if c = quote then
      let quotes := (c :: rest).takeWhile (· == quote)
      let behind := (c :: rest).dropWhile (· == quote)
      if quotes.length < 3 then readBlockChars quote steps (quotes ++ read) behind
      else if quotes.length ≤ 5 then some (quotes.drop 3 ++ read, behind)
      else none
    else if c = '\\' ∧ quote = '"' then
      match behindJoin? rest, readEscape rest with
      | some rest, _ => readBlockChars quote steps read rest
      | none, some (value, rest) => readBlockChars quote steps (value :: read) rest
      | none, none => none
    else match behindNewline? (c :: rest) with
      | some rest => readBlockChars quote steps ('\n' :: read) rest
      | none => if isLineChar c then readBlockChars quote steps (c :: read) rest else none

/-- A text on one line, behind its opening quote. -/
def readLineText (quote : Char) (text : List Char) : Option (String × List Char) :=
  match readLineChars quote (text.length + 1) [] text with
  | some (read, rest) => some (String.ofList read.reverse, rest)
  | none => none

/-- A text between three quotes, behind the opening ones. -/
def readBlockText (quote : Char) (text : List Char) : Option (String × List Char) :=
  let text := (behindNewline? text).getD text
  match readBlockChars quote (text.length + 1) [] text with
  | some (read, rest) => some (String.ofList read.reverse, rest)
  | none => none

/-- A quoted text. -/
def readText (text : List Char) : Option (String × List Char) :=
  match text with
  | '"' :: '"' :: '"' :: rest => readBlockText '"' rest
  | '\'' :: '\'' :: '\'' :: rest => readBlockText '\'' rest
  | '"' :: rest => readLineText '"' rest
  | '\'' :: rest => readLineText '\'' rest
  | _ => none

end TypedClients.Toml
