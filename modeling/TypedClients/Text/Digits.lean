/-!
# Digits and the numbers they denote

Digits of any base up to sixteen, in either letter case, and the numbers that they spell with
or without a sign.

No digits denote no number, and a digit that the base does not have makes the text denote none. A
sign may stand in front, but not two.
-/

namespace TypedClients.Text

/-- The value of a hexadecimal digit. The digits of smaller bases are among these. -/
def digitValue? (c : Char) : Option Nat :=
  if c.isDigit then some (c.toNat - '0'.toNat)
  else if 'a' ≤ c ∧ c ≤ 'f' then some (c.toNat - 'a'.toNat + 10)
  else if 'A' ≤ c ∧ c ≤ 'F' then some (c.toNat - 'A'.toNat + 10)
  else none

/-- The number that digits denote, the first one weighing most. -/
def weighed (base : Nat) (values : List Nat) : Nat :=
  values.foldl (fun number digit => number * base + digit) 0

/-- The number that digits of a base denote. No digits denote none. -/
def number? (base : Nat) (digits : List Char) : Option Nat :=
  match digits.mapM digitValue? with
  | some (first :: others) =>
    if (first :: others).all fun value => value < base then some (weighed base (first :: others))
    else none
  | _ => none

/-- The number that digits of a base denote, perhaps behind a sign. -/
def signedNumber? (base : Nat) (text : List Char) : Option Int :=
  match text with
  | '-' :: digits => (number? base digits).map fun value => -(value : Int)
  | '+' :: digits => (number? base digits).map Int.ofNat
  | digits => (number? base digits).map Int.ofNat

end TypedClients.Text
