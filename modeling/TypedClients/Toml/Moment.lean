import TypedClients.Text.Digits

/-!
# Moments of TOML

A moment is a date, a time of day, or a date with a time of day behind it; the last may be set
off from universal time. Every part has its digits in full, and a date exists in the calendar.

A moment is read for where it ends and for whether it exists. What it denotes is not kept, as no
setting is a moment.
-/

namespace TypedClients.Toml

/-- A number of so many decimal digits. -/
def readFixed (count : Nat) (text : List Char) : Option (Nat × List Char) :=
  let digits := text.take count
  if digits.length = count ∧ digits.all Char.isDigit then
    (Text.number? 10 digits).map fun value => (value, text.drop count)
  else none

/-- The text behind a character that has to start it. -/
def behindMark? (mark : Char) (text : List Char) : Option (List Char) :=
  match text with
  | c :: rest => if c = mark then some rest else none
  | [] => none

/-- Whether a year has a 29th of February. -/
def isLeapYear (year : Nat) : Bool :=
  year % 4 = 0 && (year % 100 ≠ 0 || year % 400 = 0)

/-- The number of days of a month. -/
def daysOfMonth (year month : Nat) : Nat :=
  if month = 2 then if isLeapYear year then 29 else 28
  else if month ∈ [4, 6, 9, 11] then 30
  else 31

/-- The text behind a date. -/
def behindDate? (text : List Char) : Option (List Char) := do
  let (year, rest) ← readFixed 4 text
  let (month, rest) ← readFixed 2 (← behindMark? '-' rest)
  let (day, rest) ← readFixed 2 (← behindMark? '-' rest)
  if 1 ≤ month ∧ month ≤ 12 ∧ 1 ≤ day ∧ day ≤ daysOfMonth year month then some rest else none

/-- The text behind the fraction of a second, all of it when there is none. -/
def behindFraction (text : List Char) : List Char :=
  match text with
  | '.' :: c :: rest => if c.isDigit then rest.dropWhile Char.isDigit else text
  | _ => text

/-- The text behind a time of day. A minute may have a leap second. -/
def behindTime? (text : List Char) : Option (List Char) := do
  let (hour, rest) ← readFixed 2 text
  let (minute, rest) ← readFixed 2 (← behindMark? ':' rest)
  let (second, rest) ← readFixed 2 (← behindMark? ':' rest)
  if hour ≤ 23 ∧ minute ≤ 59 ∧ second ≤ 60 then some (behindFraction rest) else none

/-- The text behind the distance from universal time. -/
def behindOffset? (text : List Char) : Option (List Char) :=
  match text with
  | 'Z' :: rest | 'z' :: rest => some rest
  | '+' :: rest | '-' :: rest => do
    let (hour, rest) ← readFixed 2 rest
    let (minute, rest) ← readFixed 2 (← behindMark? ':' rest)
    if hour ≤ 23 ∧ minute ≤ 59 then some rest else none
  | _ => none

/-- The text behind the time of a dated moment and the mark in front of it. -/
def behindDatedTime? (text : List Char) : Option (List Char) :=
  match text with
  | 'T' :: rest | 't' :: rest | ' ' :: rest => do
    let rest ← behindTime? rest
    return (behindOffset? rest).getD rest
  | _ => none

/-- The text behind a moment. -/
def behindMoment? (text : List Char) : Option (List Char) :=
  match behindDate? text with
  | some rest => some ((behindDatedTime? rest).getD rest)
  | none => behindTime? text

end TypedClients.Toml
