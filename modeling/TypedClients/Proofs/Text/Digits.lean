import Mathlib.Data.Nat.Basic
import TypedClients.Text.Digits

/-!
# The digits of a number

A number is written with decimal digits, and these spell the number.

Reading the digits from the first to the last weighs each one by its place. It is used where numbers
stand behind names, in elements by index and in the headings of hunks.
-/

namespace TypedClients.Text

/-- The value of a decimal digit. -/
def decimal (c : Char) : Nat :=
  c.toNat - '0'.toNat

/-- Decimal digits all have a value, and the values are found one after the other. -/
theorem mapM_digitValue? {digits : List Char} (decimals : ∀ c ∈ digits, c.isDigit = true) :
    digits.mapM digitValue? = some (digits.map decimal) := by
  induction digits with
  | nil => rfl
  | cons c digits inductionHypothesis =>
    obtain ⟨first, others⟩ := List.forall_mem_cons.mp decimals
    simp [List.mapM_cons, digitValue?, first, inductionHypothesis others, decimal]

/-- The value of a decimal digit is below ten. -/
theorem decimal_lt {c : Char} (digit : c.isDigit = true) : decimal c < 10 := by
  have last : c.toNat ≤ '9'.toNat := (Char.isDigit_iff_toNat.mp digit).2
  have : '9'.toNat = '0'.toNat + 9 := rfl
  unfold decimal
  omega

/-- A number is written in decimal digits only. -/
theorem isDigit_of_mem_toString {number : Nat} {c : Char} (member : c ∈ (toString number).toList) :
    c.isDigit = true := by
  rw [Nat.toString_eq_repr, Nat.toList_repr] at member
  exact Nat.isDigit_of_mem_toDigits (by decide) (by decide) member

/-- The digits of a number spell it, so a number that is printed can be read again. -/
theorem number?_toString (number : Nat) : number? 10 (toString number).toList = some number := by
  have digit (c : Char) := @isDigit_of_mem_toString number c
  rw [Nat.toString_eq_repr, Nat.toList_repr] at digit ⊢
  have value : weighed 10 ((Nat.toDigits 10 number).map decimal) = number := by
    rw [weighed, List.foldl_map]
    simpa only [Nat.ofDigitChars, Nat.mul_comm, decimal] using
      Nat.ofDigitChars_toDigits (n := number) (by decide : 1 < 10) (Nat.le_refl 10)
  obtain ⟨first, others, spelled⟩ := List.exists_cons_of_ne_nil
    (Nat.toDigits_ne_nil (n := number) (b := 10))
  rw [spelled] at digit value ⊢
  have small : ((first :: others).map decimal).all (· < 10) = true := by
    simp only [List.all_map, List.all_eq_true, Function.comp_apply, decide_eq_true_eq]
    exact fun c member => decimal_lt (digit c member)
  rw [number?, mapM_digitValue? digit]
  exact (if_pos small).trans (congrArg some value)

end TypedClients.Text
