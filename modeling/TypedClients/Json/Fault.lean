/-!
# Faults of a JSON text

A fault is a cause and a place. The place is kept as the number of bytes that were still unread,
which every step of a reader knows without counting; line and column are worked out once, when
the fault is put into words.

Which texts are refused does not depend on the wording: a fault is put into words only when the
reading has ended, and by the text as a whole.
-/

namespace TypedClients.Json

/-- What is wrong with a text that is not JSON. -/
inductive Cause where
  | endInList
  | endInObject
  | endInString
  | endInValue
  | colonExpected
  | listCommaOrEndExpected
  | objectCommaOrEndExpected
  | wordExpected
  | valueExpected
  | escapeInvalid
  | numberInvalid
  | numberOutOfRange
  | controlCharacter
  | keyNotString
  | loneSurrogate
  | trailingComma
  | trailingCharacters
  | hexEscapeCutShort
  | tooDeep
deriving Repr, DecidableEq

/-- The wording of a cause. -/
def Cause.message : Cause → String
  | .endInList => "EOF while parsing a list"
  | .endInObject => "EOF while parsing an object"
  | .endInString => "EOF while parsing a string"
  | .endInValue => "EOF while parsing a value"
  | .colonExpected => "expected `:`"
  | .listCommaOrEndExpected => "expected `,` or `]`"
  | .objectCommaOrEndExpected => "expected `,` or `\x7d`"
  | .wordExpected => "expected ident"
  | .valueExpected => "expected value"
  | .escapeInvalid => "invalid escape"
  | .numberInvalid => "invalid number"
  | .numberOutOfRange => "number out of range"
  | .controlCharacter => "control character (\\u0000-\\u001F) found while parsing a string"
  | .keyNotString => "key must be a string"
  | .loneSurrogate => "lone leading surrogate in hex escape"
  | .trailingComma => "trailing comma"
  | .trailingCharacters => "trailing characters"
  | .hexEscapeCutShort => "unexpected end of hex escape"
  | .tooDeep => "recursion limit exceeded"

/-- A cause, and the number of bytes behind the place where it shows. -/
structure Fault where
  cause : Cause
  unread : Nat
deriving Repr, DecidableEq

/-- The number of bytes of a text. -/
def byteCount (text : List Char) : Nat :=
  text.foldr (fun c count => c.utf8Size + count) 0

/-- A fault at the start of the unread text. -/
def faultAt (cause : Cause) (unread : List Char) : Fault :=
  ⟨cause, byteCount unread⟩

/-- A fault one byte into the unread text, or at its end when it is empty. A fault about a
character that was looked at but not taken is placed so. -/
def faultOn (cause : Cause) (unread : List Char) : Fault :=
  ⟨cause, byteCount unread - 1⟩

/-- The line and the column behind some bytes of a text. Lines count from one; the column is the
number of bytes since the last line feed. -/
def lineAndColumn (bytes : List UInt8) : Nat × Nat :=
  bytes.foldl (fun (place : Nat × Nat) (byte : UInt8) =>
    if byte = 10 then (place.1 + 1, 0) else (place.1, place.2 + 1)) (1, 0)

/-- The wording of a fault in `text`. -/
def Fault.message (fault : Fault) (text : String) : String :=
  let bytes := text.toUTF8.toList
  let (line, column) := lineAndColumn (bytes.take (bytes.length - fault.unread))
  fault.cause.message ++ " at line " ++ toString line ++ " column " ++ toString column

end TypedClients.Json
