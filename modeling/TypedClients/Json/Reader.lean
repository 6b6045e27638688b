import TypedClients.Json.Number
import TypedClients.Text.Digits

/-!
# Reading JSON

The reader accepts exactly the grammar of JSON, with values nested at most 127 deep, and reports
the first place where a text leaves it. Values and the items of lists and objects call each
other; the steps they may take are bounded by twice the length of the text, since of two steps in
a row one takes a character.
-/

namespace TypedClients.Json

/-- The blanks of JSON. -/
def isSpace (c : Char) : Bool :=
  c == ' ' || c == '\n' || c == '\t' || c == '\r'

/-- The text behind its blanks. -/
def skipSpaces (text : List Char) : List Char :=
  text.dropWhile isSpace

/-- The rest of a word such as `true`, whose first letter was seen. -/
def readWord (value : Document) : List Char → List Char → Except Fault (Document × List Char)
  | [], text => .ok (value, text)
  | _ :: _, [] => .error (faultAt .endInValue [])
  | expected :: word, c :: rest =>
    if c = expected then readWord value word rest else .error (faultOn .wordExpected (c :: rest))

/-- The four hexadecimal digits of an escape. They take four bytes of the text whatever these
are, so a fault in them is placed behind those bytes. -/
def readHex (text : List Char) : Except Fault (Nat × List Char) :=
  if byteCount (text.take 4) < 4 then .error (faultAt .endInString [])
  else match text.take 4 |>.mapM Text.digitValue? with
    | some [a, b, c, d] => .ok (((a * 16 + b) * 16 + c) * 16 + d, text.drop 4)
    | _ => .error ⟨.escapeInvalid, byteCount text - 4⟩

/-- The character that a `\u` escape denotes; a leading surrogate takes a second escape. -/
def readUnicodeEscape (text : List Char) : Except Fault (Char × List Char) := do
  let (unit, rest) ← readHex text
  if 0xDC00 ≤ unit ∧ unit ≤ 0xDFFF then .error (faultAt .loneSurrogate rest)
  else if 0xD800 ≤ unit ∧ unit ≤ 0xDBFF then
    match rest with
    | [] => .error (faultAt .endInString [])
    | '\\' :: behind =>
      match behind with
      | [] => .error (faultAt .endInString [])
      | 'u' :: digits =>
        let (second, rest) ← readHex digits
        if 0xDC00 ≤ second ∧ second ≤ 0xDFFF then
          .ok (Char.ofNat (((unit - 0xD800) * 1024 + (second - 0xDC00)) + 0x10000), rest)
        else .error (faultAt .loneSurrogate rest)
      | _ => .error (faultOn .hexEscapeCutShort behind)
    | _ => .error (faultOn .hexEscapeCutShort rest)
  else .ok (Char.ofNat unit, rest)

/-- The character of an escape, behind its backslash. -/
def readEscape (text : List Char) : Except Fault (Char × List Char) :=
  match text with
  | [] => .error (faultAt .endInString [])
  | '"' :: rest => .ok ('"', rest)
  | '\\' :: rest => .ok ('\\', rest)
  | '/' :: rest => .ok ('/', rest)
  | 'b' :: rest => .ok ('\x08', rest)
  | 'f' :: rest => .ok ('\x0c', rest)
  | 'n' :: rest => .ok ('\n', rest)
  | 'r' :: rest => .ok ('\r', rest)
  | 't' :: rest => .ok ('\t', rest)
  | 'u' :: rest => readUnicodeEscape rest
  | _ => .error (faultOn .escapeInvalid text)

/-- The characters of a string, last first, behind its opening quote. -/
def readStringChars : Nat → List Char → List Char → Except Fault (List Char × List Char)
  | 0, _, text => .error (faultAt .endInString text)
  | _, _, [] => .error (faultAt .endInString [])
  | _, read, '"' :: rest => .ok (read, rest)
  | steps + 1, read, '\\' :: rest => do
    let (c, rest) ← readEscape rest
    readStringChars steps (c :: read) rest
  | steps + 1, read, c :: rest =>
    if c.toNat < 0x20 then .error (faultOn .controlCharacter (c :: rest))
    else readStringChars steps (c :: read) rest

/-- A string, behind its opening quote. -/
def readString (text : List Char) : Except Fault (String × List Char) := do
  let (read, rest) ← readStringChars (text.length + 1) [] text
  return (String.ofList read.reverse, rest)

mutual

/-- A value, with the blanks before it. `depth` is how many lists and objects may be open. -/
def readValue (depth : Nat) : Nat → List Char → Except Fault (Document × List Char)
  | 0, text => .error (faultAt .endInValue text)
  | steps + 1, text =>
    match skipSpaces text with
    | [] => .error (faultAt .endInValue [])
    | 'n' :: rest => readWord .null "ull".toList rest
    | 't' :: rest => readWord (.bool true) "rue".toList rest
    | 'f' :: rest => readWord (.bool false) "alse".toList rest
    | '-' :: rest => readNumber true rest
    | '"' :: rest => do
      let (text, rest) ← readString rest
      return (.text text, rest)
    | '[' :: rest =>
      if depth = 0 then .error (faultOn .tooDeep ('[' :: rest))
      else match skipSpaces rest with
        | ']' :: rest => .ok (.list [], rest)
        | [] => .error (faultAt .endInList [])
        | rest => do
          let (items, rest) ← readItems (depth - 1) steps rest
          return (.list items, rest)
    | '{' :: rest =>
      if depth = 0 then .error (faultOn .tooDeep ('{' :: rest))
      else match skipSpaces rest with
        | '}' :: rest => .ok (.mapping [], rest)
        | [] => .error (faultAt .endInObject [])
        | rest => do
          let (entries, rest) ← readEntries (depth - 1) steps rest
          return (.mapping entries, rest)
    | c :: rest =>
      if c.isDigit then readNumber false (c :: rest)
      else .error (faultOn .valueExpected (c :: rest))

/-- The items of a list, of which there is at least one, and its closing bracket. -/
def readItems (depth : Nat) : Nat → List Char → Except Fault (List Document × List Char)
  | 0, text => .error (faultAt .endInList text)
  | steps + 1, text => do
    let (item, rest) ← readValue depth steps text
    match skipSpaces rest with
    | [] => .error (faultAt .endInList [])
    | ']' :: rest => return ([item], rest)
    | ',' :: rest =>
      match skipSpaces rest with
      | [] => .error (faultAt .endInValue [])
      | ']' :: rest => .error (faultOn .trailingComma (']' :: rest))
      | rest =>
        let (items, rest) ← readItems depth steps rest
        return (item :: items, rest)
    | rest => .error (faultOn .listCommaOrEndExpected rest)

/-- The entries of an object, of which there is at least one, and its closing brace. -/
def readEntries (depth : Nat) :
    Nat → List Char → Except Fault (List (Document × Document) × List Char)
  | 0, text => .error (faultAt .endInObject text)
  | steps + 1, text =>
    match text with
    | '"' :: rest => do
      let (key, rest) ← readString rest
      match skipSpaces rest with
      | [] => .error (faultAt .endInObject [])
      | ':' :: rest =>
        let (value, rest) ← readValue depth steps rest
        match skipSpaces rest with
        | [] => .error (faultAt .endInObject [])
        | '}' :: rest => return ([(.text key, value)], rest)
        | ',' :: rest =>
          match skipSpaces rest with
          | [] => .error (faultAt .endInValue [])
          | '}' :: rest => .error (faultOn .trailingComma ('}' :: rest))
          | rest =>
            let (entries, rest) ← readEntries depth steps rest
            return ((.text key, value) :: entries, rest)
        | rest => .error (faultOn .objectCommaOrEndExpected rest)
      | rest => .error (faultOn .colonExpected rest)
    | _ => .error (faultOn .keyNotString text)

end

/-- The number of lists and objects that may be open at once. -/
def maxDepth : Nat := 127

/-- The first value of a text, and the text behind it. -/
def readFirst (text : String) : Except Fault (Document × List Char) :=
  readValue maxDepth (2 * text.toList.length + 2) text.toList

/-- Only blanks may stand behind the value of a text. -/
def checkEnd (rest : List Char) : Except Fault Unit :=
  match skipSpaces rest with
  | [] => .ok ()
  | rest => .error (faultOn .trailingCharacters rest)

/-- The value that a text denotes. -/
def read (text : String) : Except Fault Document := do
  let (value, rest) ← readFirst text
  checkEnd rest
  return value

end TypedClients.Json
