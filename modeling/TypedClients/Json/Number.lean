import TypedClients.Document
import TypedClients.Json.Fault
import TypedClients.Text.Double

/-!
# Numbers of JSON

A number is read digit by digit into a significand of at most 64 bits and a power of ten. Once
the significand is full, further digits in front of the point only raise the power, and further
digits behind it change nothing. Whole numbers that fit stay integers; minus zero and everything
else is a number that no declaration can use, provided that its size is finite.
-/

namespace TypedClients.Json

/-- The largest significand. -/
def maxSignificand : Nat := 18446744073709551615

/-- The largest exponent that is still counted. -/
def maxExponent : Nat := 2147483647

/-- The value of a decimal digit. -/
def digit? (c : Char) : Option Nat :=
  if c.isDigit then some (c.toNat - '0'.toNat) else none

/-- The unread text behind the digits that it starts with. -/
def skipDigits (text : List Char) : List Char :=
  text.dropWhile Char.isDigit

/-- Whether `significand · 10 ^ exponent` stays finite when each factor is rounded to a double
before they are multiplied. Division by a power of ten always stays finite. -/
def isFinite (significand : Nat) (exponent : Int) : Bool :=
  if significand = 0 ∨ exponent < 0 then true
  else if exponent > 308 then false
  else
    Text.rounded significand * Text.rounded (Nat.pow 10 exponent.toNat) < Text.infinityThreshold

/-- A number with a point or an exponent, or one too long for an integer. -/
def scaled (significand : Nat) (exponent : Int) (rest : List Char) :
    Except Fault (Document × List Char) :=
  if isFinite significand exponent then .ok (.number, rest)
  else .error (faultAt .numberOutOfRange rest)

/-- The further digits of an exponent. An exponent too large to count is out of range, unless it
is negative or the significand is zero. -/
def readExponentDigits (significand : Nat) (base : Int) (negative : Bool) (exponent : Nat) :
    List Char → Except Fault (Document × List Char)
  | [] => scaled significand (if negative then base - exponent else base + exponent) []
  | c :: rest =>
    match digit? c with
    | none => scaled significand (if negative then base - exponent else base + exponent) (c :: rest)
    | some digit =>
      if exponent * 10 + digit > maxExponent then
        if significand ≠ 0 ∧ !negative then .error (faultAt .numberOutOfRange rest)
        else .ok (.number, skipDigits rest)
      else readExponentDigits significand base negative (exponent * 10 + digit) rest

/-- An exponent, behind its `e`. -/
def readExponent (significand : Nat) (base : Int) (text : List Char) :
    Except Fault (Document × List Char) :=
  let (negative, unsigned) := match text with
    | '+' :: rest => (false, rest)
    | '-' :: rest => (true, rest)
    | _ => (false, text)
  match unsigned with
  | [] => .error (faultAt .endInValue [])
  | c :: rest =>
    match digit? c with
    | none => .error (faultOn .numberInvalid (c :: rest))
    | some digit => readExponentDigits significand base negative digit rest

/-- What may stand behind the digits of a number with a point. -/
def readScaledEnd (significand : Nat) (base : Int) (text : List Char) :
    Except Fault (Document × List Char) :=
  match text with
  | 'e' :: rest | 'E' :: rest => readExponent significand base rest
  | _ => scaled significand base text

/-- The further digits behind a point. -/
def readFractionDigits (significand : Nat) (base : Int) :
    List Char → Except Fault (Document × List Char)
  | [] => readScaledEnd significand base []
  | c :: rest =>
    match digit? c with
    | none => readScaledEnd significand base (c :: rest)
    | some digit =>
      if significand * 10 + digit > maxSignificand then
        readScaledEnd significand base (skipDigits rest)
      else readFractionDigits (significand * 10 + digit) (base - 1) rest

/-- The digits behind a point, of which there is at least one. -/
def readFraction (significand : Nat) (base : Int) (text : List Char) :
    Except Fault (Document × List Char) :=
  match text with
  | [] => .error (faultAt .endInValue [])
  | c :: _ =>
    if c.isDigit then readFractionDigits significand base text
    else .error (faultOn .numberInvalid text)

/-- The further digits of a whole part that no longer fits. -/
def readLongDigits (significand : Nat) (base : Int) :
    List Char → Except Fault (Document × List Char)
  | [] => scaled significand base []
  | c :: rest =>
    if c.isDigit then readLongDigits significand (base + 1) rest
    else if c = '.' then readFraction significand base rest
    else readScaledEnd significand base (c :: rest)

/-- A whole number as a document: minus zero and what does not fit 64 bits are no integers. -/
def wholeNumber (negative : Bool) (significand : Nat) : Document :=
  if !negative then .int significand
  else if significand = 0 ∨ !Document.fitsSigned (-significand) then .number
  else .int (-significand)

/-- What may stand behind the whole part of a number. -/
def readWholeEnd (negative : Bool) (significand : Nat) (text : List Char) :
    Except Fault (Document × List Char) :=
  match text with
  | '.' :: rest => readFraction significand 0 rest
  | 'e' :: rest | 'E' :: rest => readExponent significand 0 rest
  | _ => .ok (wholeNumber negative significand, text)

/-- The further digits of a whole part. -/
def readWholeDigits (negative : Bool) (significand : Nat) :
    List Char → Except Fault (Document × List Char)
  | [] => readWholeEnd negative significand []
  | c :: rest =>
    match digit? c with
    | none => readWholeEnd negative significand (c :: rest)
    | some digit =>
      if significand * 10 + digit > maxSignificand then
        readLongDigits significand 0 (c :: rest)
      else readWholeDigits negative (significand * 10 + digit) rest

/-- A number, behind its sign. A zero is followed by no further digit of the whole part. -/
def readNumber (negative : Bool) (text : List Char) : Except Fault (Document × List Char) :=
  match text with
  | [] => .error (faultAt .endInValue [])
  | '0' :: rest =>
    match rest with
    | c :: _ =>
      if c.isDigit then .error (faultOn .numberInvalid rest) else readWholeEnd negative 0 rest
    | [] => readWholeEnd negative 0 []
  | c :: rest =>
    match digit? c with
    | some digit => readWholeDigits negative digit rest
    | none => .error (faultOn .numberInvalid text)

end TypedClients.Json
