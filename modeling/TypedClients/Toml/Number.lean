import TypedClients.Text.Digits
import TypedClients.Text.Double
import TypedClients.Toml.Value

/-!
# Numbers of TOML

Integers are decimal with an optional sign, or hexadecimal, octal and binary without one, and fit
64 bits. A point with digits on both its sides or an exponent makes a float, which must not be too
large unless it is negative. A single underscore may stand between two digits, and a whole part of
several digits does not start with a zero.
-/

namespace TypedClients.Toml

/-- The further digits of a number, without the underscores between them. -/
def readMoreDigits (isDigit : Char → Bool) : List Char → Option (List Char × List Char)
  | [] => some ([], [])
  | '_' :: c :: rest =>
    if isDigit c then (readMoreDigits isDigit rest).map fun read => (c :: read.1, read.2) else none
  | c :: rest =>
    if isDigit c then (readMoreDigits isDigit rest).map fun read => (c :: read.1, read.2)
    else some ([], c :: rest)

/-- Digits, of which there is at least one. -/
def readDigits (isDigit : Char → Bool) (text : List Char) : Option (List Char × List Char) :=
  match text with
  | c :: rest =>
    if isDigit c then (readMoreDigits isDigit rest).map fun read => (c :: read.1, read.2) else none
  | [] => none

/-- Whether a minus sign starts a text, and the text behind its sign. -/
def readSign (text : List Char) : Bool × List Char :=
  match text with
  | '+' :: rest => (false, rest)
  | '-' :: rest => (true, rest)
  | _ => (false, text)

/-- The digits of a whole part. Behind a leading zero there are none. -/
def readWhole (text : List Char) : Option (List Char × List Char) :=
  match text with
  | '0' :: rest => some (['0'], rest)
  | _ => readDigits Char.isDigit text

/-- An integer in the signed 64-bit range. -/
def integer? (value : Int) : Option Value :=
  if Int64.minValue.toInt ≤ value ∧ value ≤ Int64.maxValue.toInt then
    some (.integer (Int64.ofInt value))
  else none

/-- An integer of a base other than ten, behind the mark of its base. -/
def readBased (base : Nat) (text : List Char) : Option (Value × List Char) := do
  let isDigit c := match Text.digitValue? c with
    | some value => value < base
    | none => false
  let (digits, rest) ← readDigits isDigit text
  let value ← Text.number? base digits
  return (← integer? value, rest)

/-- A decimal integer. -/
def readDecimal (text : List Char) : Option (Value × List Char) := do
  let (negative, unsigned) := readSign text
  let (digits, rest) ← readWhole unsigned
  let value ← Text.number? 10 digits
  return (← integer? (if negative then -(value : Int) else value), rest)

/-- An integer. -/
def readInteger (text : List Char) : Option (Value × List Char) :=
  match text with
  | '0' :: 'x' :: rest => readBased 16 rest
  | '0' :: 'o' :: rest => readBased 8 rest
  | '0' :: 'b' :: rest => readBased 2 rest
  | _ => readDecimal text

/-- The exponent of a float with its sign, zero when there is none. -/
def readExponent (text : List Char) : Option (Int × List Char) :=
  match text with
  | 'e' :: rest | 'E' :: rest => do
    let (negative, unsigned) := readSign rest
    let (digits, rest) ← readDigits Char.isDigit unsigned
    let value ← Text.number? 10 digits
    return (if negative then -(value : Int) else value, rest)
  | _ => some (0, text)

/-- The digits behind the point of a float, none when there is no point. -/
def readFraction (text : List Char) : Option (List Char × List Char) :=
  match text with
  | '.' :: rest => readDigits Char.isDigit rest
  | _ => some ([], text)

/-- Whether a number goes on behind its whole part. -/
def goesOn (text : List Char) : Bool :=
  match text with
  | '.' :: _ | 'e' :: _ | 'E' :: _ => true
  | _ => false

/-- A float in digits. -/
def readScaled (text : List Char) : Option (Value × List Char) := do
  let (negative, unsigned) := readSign text
  let (whole, behindWhole) ← readWhole unsigned
  if !goesOn behindWhole then none
  let (fraction, behindFraction) ← readFraction behindWhole
  let (exponent, rest) ← readExponent behindFraction
  let significand ← Text.number? 10 (whole ++ fraction)
  if negative || Text.roundsToFinite significand (exponent - fraction.length) then
    some (.float, rest)
  else none

/-- An infinity or the float that is no number. -/
def readNamedFloat (text : List Char) : Option (Value × List Char) :=
  match (readSign text).2 with
  | 'i' :: 'n' :: 'f' :: rest => some (.float, rest)
  | 'n' :: 'a' :: 'n' :: rest => some (.float, rest)
  | _ => none

/-- A number. -/
def readNumber (text : List Char) : Option (Value × List Char) :=
  readScaled text <|> readNamedFloat text <|> readInteger text

end TypedClients.Toml
