import TypedClients.Document

/-!
# Writing JSON

A document has two written forms: on one line without blanks, and spread over lines, where every
item of a list and every entry of a mapping has its own line, indented by two blanks a level.
Strings escape quotes, backslashes and control characters, and nothing else.

Entries keep the order in which they stand, and every scalar has one spelling, so that equal
documents are printed alike in either form.
-/

namespace TypedClients.Json

/-- A hexadecimal digit. -/
def hexDigit (value : Nat) : Char :=
  if value < 10 then Char.ofNat ('0'.toNat + value) else Char.ofNat ('a'.toNat + (value - 10))

/-- One character inside a string. -/
def escapedChar (c : Char) : List Char :=
  if c = '"' then ['\\', '"']
  else if c = '\\' then ['\\', '\\']
  else if c = '\x08' then ['\\', 'b']
  else if c = '\x0c' then ['\\', 'f']
  else if c = '\n' then ['\\', 'n']
  else if c = '\r' then ['\\', 'r']
  else if c = '\t' then ['\\', 't']
  else if c.toNat < 0x20 then
    ['\\', 'u', '0', '0', hexDigit (c.toNat / 16), hexDigit (c.toNat % 16)]
  else [c]

/-- A string with its quotes. -/
def quoted (text : String) : String :=
  String.ofList ('"' :: text.toList.flatMap escapedChar ++ ['"'])

/-- A value that is neither a list nor a mapping. A number that is no integer is written as zero,
which no document that this program prints contains. -/
def scalar : Document → String
  | .bool true => "true"
  | .bool false => "false"
  | .int value => toString value
  | .number => "0.0"
  | .text value => quoted value
  | _ => "null"

/-- The key of an entry: always a string. -/
def key : Document → String
  | .text value => quoted value
  | other => quoted (scalar other)

mutual

/-- The form on one line. -/
def compact : Document → String
  | .list items => "[" ++ String.intercalate "," (compactItems items) ++ "]"
  | .mapping entries => "\x7b" ++ String.intercalate "," (compactEntries entries) ++ "\x7d"
  | other => scalar other

/-- The items of a list. -/
def compactItems : List Document → List String
  | [] => []
  | item :: items => compact item :: compactItems items

/-- The entries of a mapping. -/
def compactEntries : List (Document × Document) → List String
  | [] => []
  | (name, value) :: entries => (key name ++ ":" ++ compact value) :: compactEntries entries

end

/-- A line break and the blanks of a level. -/
def lineBreak (level : Nat) : String :=
  String.ofList ('\n' :: List.replicate (2 * level) ' ')

/-- Parts between brackets, each on a line of its own one level deeper; no parts, no lines. -/
def spread (opening closing : String) (level : Nat) (parts : List String) : String :=
  if parts.isEmpty then opening ++ closing
  else opening ++ lineBreak (level + 1) ++ String.intercalate ("," ++ lineBreak (level + 1)) parts
    ++ lineBreak level ++ closing

mutual

/-- The form over several lines, for a value that starts at a level. -/
def pretty (level : Nat) : Document → String
  | .list items => spread "[" "]" level (prettyItems (level + 1) items)
  | .mapping entries => spread "\x7b" "\x7d" level (prettyEntries (level + 1) entries)
  | other => scalar other

/-- The items of a list. -/
def prettyItems (level : Nat) : List Document → List String
  | [] => []
  | item :: items => pretty level item :: prettyItems level items

/-- The entries of a mapping. -/
def prettyEntries (level : Nat) : List (Document × Document) → List String
  | [] => []
  | (name, value) :: entries =>
    (key name ++ ": " ++ pretty level value) :: prettyEntries level entries

end

end TypedClients.Json
