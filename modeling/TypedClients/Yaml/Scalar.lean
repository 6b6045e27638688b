import TypedClients.Document
import TypedClients.Text.Digits
import TypedClients.Text.Double
import TypedClients.Yaml.Fault
import TypedClients.Yaml.Token.Quoted

/-!
# Values of scalars

A plain scalar without a tag is null, a truth value, an integer, another number or a text, the
first of these that its spelling allows. Integers are decimal, or hexadecimal, octal and binary
behind `0x`, `0o` and `0b`; a decimal with a superfluous zero at its front is a text. Any other
scalar is a text, unless a tag of the core schema says what it is.
-/

namespace TypedClients.Yaml

/-- The spellings of null. -/
def isNull (text : List Char) : Bool :=
  ["null", "Null", "NULL", "~"].any fun word => word.toList == text

/-- The value of a truth word. -/
def truth? (text : List Char) : Option Bool :=
  if ["true", "True", "TRUE"].any fun word => word.toList == text then some true
  else if ["false", "False", "FALSE"].any fun word => word.toList == text then some false
  else none

/-- A text without one sign at its front. -/
def withoutSign (text : List Char) : List Char :=
  match text with
  | '+' :: rest | '-' :: rest => rest
  | _ => text

/-- Digits with a superfluous zero at their front, perhaps behind a sign. They are no number. -/
def isZeroPadded (text : List Char) : Bool :=
  match withoutSign text with
  | '0' :: c :: rest => (c :: rest).all Char.isDigit
  | _ => false

/-- The number that digits denote, behind the mark of their base. -/
def unsigned? (text : List Char) : Option Nat :=
  match text with
  | '0' :: 'x' :: digits => Text.number? 16 digits
  | '0' :: 'o' :: digits => Text.number? 8 digits
  | '0' :: 'b' :: digits => Text.number? 2 digits
  | _ => if isZeroPadded text then none else Text.number? 10 text

/-- What a spelling means as an integer. -/
inductive IntegerSpelling where
  /-- It is no integer, or one beyond all bounds. -/
  | none
  /-- It is an integer beyond 64 bits, which no document can hold. -/
  | tooLarge
  | int (value : Int)

/-- An integer that is not negative. -/
def positiveInteger (text : List Char) : IntegerSpelling :=
  match unsigned? text with
  | Option.none => .none
  | some value =>
    if value < Nat.pow 2 64 then .int value
    else if value < Nat.pow 2 128 then .tooLarge
    else .none

/-- An integer behind a minus sign. -/
def negativeInteger (text : List Char) : IntegerSpelling :=
  match unsigned? text with
  | Option.none => .none
  | some value =>
    if value ≤ Nat.pow 2 63 then .int (-value)
    else if value ≤ Nat.pow 2 127 then .tooLarge
    else .none

/-- What a text means as an integer. -/
def integerSpelling (text : List Char) : IntegerSpelling :=
  match text with
  | '+' :: rest => positiveInteger rest
  | '-' :: rest => negativeInteger rest
  | _ => positiveInteger text

/-- Whether a text without its sign is a decimal number with a finite value: digits, perhaps with
a point before, between or behind them, and perhaps an exponent. -/
def isFiniteDecimal (text : List Char) : Bool :=
  let whole := text.takeWhile Char.isDigit
  let behindWhole := text.dropWhile Char.isDigit
  let (fraction, behind) := match behindWhole with
    | '.' :: rest => (rest.takeWhile Char.isDigit, rest.dropWhile Char.isDigit)
    | _ => ([], behindWhole)
  let exponent := match behind with
    | [] => some 0
    | 'e' :: rest | 'E' :: rest => Text.signedNumber? 10 rest
    | _ => none
  match Text.number? 10 (whole ++ fraction), exponent with
  | some significand, some exponent => Text.roundsToFinite significand (exponent - fraction.length)
  | _, _ => false

/-- Whether a text is a number that is no integer. -/
def isNumber (text : List Char) : Bool :=
  [".inf", ".Inf", ".INF"].any (fun word => word.toList == withoutSign text)
    || [".nan", ".NaN", ".NAN"].any (fun word => word.toList == text)
    || isFiniteDecimal (withoutSign text)

/-- The value of a plain scalar without a tag. -/
def plainValue (text : List Char) : Except Fault Document :=
  if text.isEmpty ∨ isNull text then .ok .null
  else match truth? text with
    | some value => .ok (.bool value)
    | none =>
      match integerSpelling text with
      | .int value => .ok (.int value)
      | .tooLarge => .error .integerTooLarge
      | .none =>
        if !isZeroPadded text && isNumber text then .ok .number
        else .ok (.text (String.ofList text))

/-- The start of the tags of the core schema. -/
def coreTag (name : String) : List Char :=
  "tag:yaml.org,2002:".toList ++ name.toList

/-- The value of a scalar with a tag. -/
def taggedValue (tag text : List Char) : Except Fault Document :=
  if tag.head? = some '!' then .error .tagMeaningless
  else if tag = coreTag "bool" then
    match truth? text with
    | some value => .ok (.bool value)
    | none => .error .tagContradicted
  else if tag = coreTag "int" then
    match integerSpelling text with
    | .int value => .ok (.int value)
    | _ => .error .tagContradicted
  else if tag = coreTag "float" then
    if isNumber text then .ok .number else .error .tagContradicted
  else if tag = coreTag "null" then
    if isNull text then .ok .null else .error .tagContradicted
  else .ok (.text (String.ofList text))

/-- The value of a scalar. -/
def scalarValue (tag : Option (List Char)) (plain : Bool) (text : List Char) :
    Except Fault Document :=
  match tag with
  | some tag => taggedValue tag text
  | none => if plain then plainValue text else .ok (.text (String.ofList text))

end TypedClients.Yaml
