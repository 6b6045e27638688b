import Mathlib.Data.String.Basic
import TypedClients.Text.Fold

/-!
# Marks in folded text

Folding turns letters into letters and leaves all other characters as they are. So two texts that
are the same up to the case of letters have the same marks in them.

A mark is any character that is no letter. To look for one in a text or in its folding is the same,
which is how the dots of a name and its white space are kept when the name is spelled in another
case.
-/

namespace TypedClients.Text

/-- A capital is replaced by a small letter, so that folding a second time changes nothing. -/
theorem isLower_toLower {c : Char} (capital : c.isUpper = true) : c.toLower.isLower = true := by
  have within : 'A'.val ≤ c.val ∧ c.val ≤ 'Z'.val := of_decide_eq_true capital
  have bounds : 65 ≤ c.val.toNat ∧ c.val.toNat ≤ 90 := within
  have moved : c.toLower.val = c.val + 32 := congrArg Char.val (dif_pos within)
  have small : c.val.toNat + 32 < 2 ^ 32 := by omega
  have sum : c.toLower.val.toNat = c.val.toNat + 32 := by
    rw [moved, UInt32.toNat_add]
    exact Nat.mod_eq_of_lt small
  have low : 'a'.val ≤ c.toLower.val := by
    rw [UInt32.le_iff_toNat_le, sum]
    change 97 ≤ c.val.toNat + 32
    omega
  have high : c.toLower.val ≤ 'z'.val := by
    rw [UInt32.le_iff_toNat_le, sum]
    change c.val.toNat + 32 ≤ 122
    omega
  exact Bool.and_eq_true_iff.mpr ⟨decide_eq_true low, decide_eq_true high⟩

/-- Any other character stays as it is. -/
theorem toLower_of_not_capital {c : Char} (other : c.isUpper = false) : c.toLower = c :=
  dif_neg (of_decide_eq_false other)

/-- Only a mark itself is folded to that mark. A letter is folded to a letter, and a mark that is no
letter stays. -/
theorem toLower_eq_mark_iff {c mark : Char} (unlettered : mark.isAlpha = false) :
    c.toLower = mark ↔ c = mark := by
  obtain ⟨no_capital, no_small⟩ := Bool.or_eq_false_iff.mp unlettered
  constructor
  · rintro rfl
    cases capital : c.isUpper with
    | true => cases (isLower_toLower capital).symm.trans no_small
    | false => exact (toLower_of_not_capital capital).symm
  · rintro rfl
    exact toLower_of_not_capital no_capital

/-- A folded text has the marks of the text. -/
theorem mark_mem_folded_iff {mark : Char} (unlettered : mark.isAlpha = false) {text : String} :
    mark ∈ (folded text).toList ↔ mark ∈ text.toList := by
  simp [folded, toLower_eq_mark_iff unlettered]

/-- Folding goes piece by piece. -/
theorem folded_append (first second : String) :
    folded (first ++ second) = folded first ++ folded second := by
  simp [folded]

end TypedClients.Text
