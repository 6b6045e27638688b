import TypedClients.Yaml.Token
import TypedClients.Yaml.Token.Quoted

/-!
# Tags and directives

A tag is `!<uri>`, or a handle such as `!` or `!!` and a suffix. Directives stand on lines of
their own before a document: one for the version, and one for each further tag handle. Of a tag
only its ASCII characters ever matter, so an escaped byte is kept as the character of its number.

A tag without a meaning is no fault here: which tags have one is decided when a value is made of the
node.
-/

namespace TypedClients.Yaml

/-- A character of a tag, other than the brackets and the comma of a flow collection. -/
def isTagChar (c : Char) : Bool :=
  isWordChar c || ";/?:@&=+$.%!~*'()".toList.contains c

/-- A character of a tag between angle brackets. -/
def isUriChar (c : Char) : Bool :=
  isTagChar c || c == ',' || c == '[' || c == ']'

/-- The number of bytes of the UTF-8 sequence that a byte begins. -/
def sequenceLength? (byte : Nat) : Option Nat :=
  if byte < 0x80 then some 1
  else if 0xC0 ≤ byte ∧ byte < 0xE0 then some 2
  else if 0xE0 ≤ byte ∧ byte < 0xF0 then some 3
  else if 0xF0 ≤ byte ∧ byte < 0xF8 then some 4
  else none

/-- The byte that a `%` and two digits stand for. -/
def escapedByte? (text : List Char) : Option Nat :=
  match text with
  | '%' :: high :: low :: _ => Text.number? 16 [high, low]
  | _ => none

/-- The further bytes of a sequence, each escaped. -/
def readTrailingBytes : Nat → Cursor → Except Fault (List Char × Cursor)
  | 0, cursor => .ok ([], cursor)
  | count + 1, cursor =>
    match escapedByte? cursor.rest with
    | none => .error .tagMalformed
    | some byte =>
      if 0x80 ≤ byte ∧ byte < 0xC0 then do
        let (bytes, rest) ← readTrailingBytes count (cursor.skip 3)
        return (Char.ofNat byte :: bytes, rest)
      else .error .tagMalformed

/-- The characters of a tag, first to last. -/
def readTagChars (test : Char → Bool) : Nat → Cursor → Except Fault (List Char × Cursor)
  | 0, cursor => .ok ([], cursor)
  | steps + 1, cursor =>
    match cursor.rest with
    | [] => .ok ([], cursor)
    | c :: _ =>
      if !test c then .ok ([], cursor)
      else if c = '%' then
        match escapedByte? cursor.rest with
        | none => .error .tagMalformed
        | some byte =>
          match sequenceLength? byte with
          | none => .error .tagMalformed
          | some length => do
            let (bytes, behind) ← readTrailingBytes (length - 1) (cursor.skip 3)
            let (others, rest) ← readTagChars test steps behind
            return (Char.ofNat byte :: bytes ++ others, rest)
      else do
        let (others, rest) ← readTagChars test steps (cursor.skip 1)
        return (c :: others, rest)

/-- The characters of a tag, of which there has to be one unless something stands before them. -/
def readTagText (test : Char → Bool) (mayBeEmpty : Bool) (cursor : Cursor) :
    Except Fault (List Char × Cursor) := do
  let (text, rest) ← readTagChars test (cursor.rest.length + 1) cursor
  if text.isEmpty ∧ !mayBeEmpty then .error .tagMalformed else return (text, rest)

/-- The handle that a tag begins with: `!`, letters, and perhaps another `!`. -/
def readTagHandle (cursor : Cursor) : Except Fault (List Char × Cursor) :=
  match cursor.rest with
  | '!' :: _ =>
    let (letters, rest) := (cursor.skip 1).takeWhile isWordChar
    if rest.rest.head? = some '!' then .ok ('!' :: letters ++ ['!'], rest.skip 1)
    else .ok ('!' :: letters, rest)
  | _ => .error .tagMalformed

/-- A tag that is not between angle brackets. A handle without a `!` at its end is the beginning
of the suffix, and a lone `!` is a tag by itself. -/
def readShortTag (cursor : Cursor) : Except Fault (Token × Cursor) := do
  let (handle, behind) ← readTagHandle cursor
  if handle.length > 1 ∧ handle.getLast? = some '!' then
    let (suffix, rest) ← readTagText isTagChar false behind
    return (.tag handle suffix, rest)
  else
    let (others, rest) ← readTagText isTagChar true behind
    let suffix := handle.drop 1 ++ others
    return (if suffix.isEmpty then .tag [] ['!'] else .tag ['!'] suffix, rest)

/-- A tag between angle brackets, from the first of them. -/
def readLongTag (cursor : Cursor) : Except Fault (Token × Cursor) := do
  let (uri, rest) ← readTagText isUriChar false (cursor.skip 1)
  if rest.rest.head? = some '>' then return (.tag [] uri, rest.skip 1)
  else .error .tagMalformed

/-- A tag, from its `!`. A gap follows it, or in a flow collection a comma. -/
def readTag (inFlow : Bool) (cursor : Cursor) : Except Fault (Token × Cursor) := do
  let (tag, rest) ←
    if (cursor.rest.drop 1).head? = some '<' then readLongTag (cursor.skip 1)
    else readShortTag cursor
  if beginsWithGap rest.rest ∨ (inFlow ∧ rest.rest.head? = some ',') then return (tag, rest)
  else .error .tagMalformed

/-- A number of a version, of at most nine digits. -/
def readVersionNumber (cursor : Cursor) : Except Fault (Nat × Cursor) :=
  let (digits, rest) := cursor.takeWhile Char.isDigit
  if digits.isEmpty ∨ digits.length > 9 then .error .directiveMalformed
  else .ok (digits.foldl (fun number digit => number * 10 + (digit.toNat - '0'.toNat)) 0, rest)

/-- The value of a version directive. -/
def readVersion (cursor : Cursor) : Except Fault (Token × Cursor) := do
  let (major, rest) ← readVersionNumber (cursor.dropWhile isSpaceOrTab)
  if rest.rest.head? ≠ some '.' then .error .directiveMalformed
  else
    let (minor, rest) ← readVersionNumber (rest.skip 1)
    return (.version major minor, rest)

/-- The value of a directive that declares a tag handle. -/
def readTagDirective (cursor : Cursor) : Except Fault (Token × Cursor) := do
  let (handle, rest) ← readTagHandle (cursor.dropWhile isSpaceOrTab)
  if handle ≠ ['!'] ∧ (handle.length = 1 ∨ handle.getLast? ≠ some '!') then
    .error .directiveMalformed
  else if !(rest.rest.head?.any isSpaceOrTab) then .error .directiveMalformed
  else
    let (start, rest) ← readTagText isUriChar false (rest.dropWhile isSpaceOrTab)
    if beginsWithGap rest.rest then return (.tagHandle handle start, rest)
    else .error .directiveMalformed

/-- A directive, from its `%` to the start of the next line. -/
def readDirective (cursor : Cursor) : Except Fault (Token × Cursor) := do
  let (name, rest) := (cursor.skip 1).takeWhile isWordChar
  if name.isEmpty ∨ !beginsWithGap rest.rest then .error .directiveMalformed
  else
    let (token, rest) ←
      if name = "YAML".toList then readVersion rest
      else if name = "TAG".toList then readTagDirective rest
      else .error .directiveMalformed
    let rest := (rest.dropWhile isSpaceOrTab).skipComment
    if beginsWithBreak rest.rest then return (token, rest.skipBreak)
    else .error .directiveMalformed

end TypedClients.Yaml
