/-!
# The reach of doubles

A reader of numbers keeps no fraction here, but it still refuses a number that a double cannot
hold. Whether one is too large is decided over the naturals, exactly: a number is rounded to
infinity when it lies no lower than the middle between the largest finite double and the power
of two behind it, since that middle has an odd neighbour below it.
-/

namespace TypedClients.Text

/-- The lowest number that is rounded to infinity: `2 ^ 1024` less half the distance between
doubles of that size. -/
def infinityThreshold : Nat := Nat.pow 2 1024 - Nat.pow 2 970

/-- Whether `significand · 10 ^ exponent` is rounded to a finite double. A number of fewer
digits than the threshold has is below it, and one of more digits is above it. -/
def roundsToFinite (significand : Nat) (exponent : Int) : Bool :=
  if significand = 0 then true
  else
    let magnitude := (Nat.toDigits 10 significand).length + exponent
    if magnitude ≠ 309 then magnitude < 309
    else if exponent < 0 then significand < infinityThreshold * Nat.pow 10 (-exponent).toNat
    else significand * Nat.pow 10 exponent.toNat < infinityThreshold

/-- A whole number rounded to 53 significant bits, a tie to the even neighbour. -/
def rounded (number : Nat) : Nat :=
  let unit := Nat.pow 2 (number.log2 - 52)
  let below := number / unit
  let rest := 2 * (number % unit)
  if rest < unit ∨ (rest = unit ∧ below % 2 = 0) then below * unit else (below + 1) * unit

end TypedClients.Text
