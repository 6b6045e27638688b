import Mathlib.Data.List.Basic
import Std.Data.String.ToNat

/-!
# Numbers behind names

A name becomes another one when a positive number is written behind it. Where two names make the
same name in this way, one of them makes the other: what the longer one has behind the shorter one
begins a number, and the beginning of a positive number is a positive number.

This is what tells stubs apart: candidates for names have numbers behind them, and two bases share a
candidate only if one base is a candidate of the other.
-/

namespace TypedClients.Text

/-- A name with a positive number behind it. -/
def Numbered (base name : String) : Prop :=
  ∃ number, 0 < number ∧ name = base ++ toString number

/-- The digits of a positive number, cut anywhere but before the first one, begin with those of a
positive number. -/
theorem digits_beginning {first rest : List Char} {number : Nat} (positive : 0 < number)
    (some : first ≠ []) (cut : Nat.toDigits 10 number = first ++ rest) :
    ∃ beginning, 0 < beginning ∧ first = Nat.toDigits 10 beginning := by
  -- The induction takes digits from the end, until what is left ends where the cut is.
  induction number using Nat.strongRecOn generalizing rest with
  | ind number inductionHypothesis =>
    rcases rest.eq_nil_or_concat' with rfl | ⟨before, last, rfl⟩
    · exact ⟨number, positive, by simpa using cut.symm⟩
    · have large : 10 ≤ number := by
        by_contra small
        rw [Nat.toDigits_of_lt_base (by omega)] at cut
        have lengths := congrArg List.length cut
        have := List.length_pos_iff.mpr some
        simp at lengths
        omega
      rw [Nat.toDigits_of_base_le (by decide) large, ← List.append_assoc] at cut
      exact inductionHypothesis (number / 10) (by omega) (by omega)
        (List.append_inj_left' cut rfl)

/-- A name with a number behind it is another name. -/
theorem ne_append_toString (base : String) (number : Nat) : base ≠ base ++ toString number := by
  intro same
  have lengths := congrArg String.length same
  simp at lengths

/-- Different numbers behind a name make different names. -/
theorem append_toString_injective (base : String) {first second : Nat}
    (same : base ++ toString first = base ++ toString second) : first = second := by
  have digits : toString first = toString second := by simpa using same
  exact Nat.repr_inj.mp digits

namespace Numbered

variable {first second name : String}

/-- A common beginning makes no difference. -/
theorem append_iff {start : String} :
    Numbered (start ++ first) (start ++ second) ↔ Numbered first second := by
  simp [Numbered, String.append_assoc]

/-- Of two names that are cut from one before a number, one is the other with a number behind. -/
theorem of_cut {beginning : List Char} {number : Nat} (positive : 0 < number)
    (longer : second.toList = first.toList ++ beginning) (different : first ≠ second)
    {rest : List Char} (cut : (toString number).toList = beginning ++ rest) :
    Numbered first second := by
  have some : beginning ≠ [] := by
    rintro rfl
    exact different (String.toList_inj.mp (by simpa using longer.symm))
  rw [Nat.toString_eq_repr, Nat.toList_repr] at cut
  obtain ⟨other, larger, same⟩ := digits_beginning positive some cut
  refine ⟨other, larger, ?_⟩
  rw [← String.toList_inj, String.toList_append, longer, same, Nat.toString_eq_repr,
    Nat.toList_repr]

/-- Two names that make one name are equal, or one makes the other, as both stand at the beginning
of the name that they make. -/
theorem comparable (fromFirst : name = first ∨ Numbered first name)
    (fromSecond : name = second ∨ Numbered second name) (different : first ≠ second) :
    Numbered first second ∨ Numbered second first := by
  rcases fromFirst with rfl | ⟨number, positive, rfl⟩
  · rcases fromSecond with rfl | numbered
    · exact absurd rfl different
    · exact Or.inr numbered
  · rcases fromSecond with rfl | ⟨other, positive', same⟩
    · exact Or.inl ⟨number, positive, rfl⟩
    · rw [← String.toList_inj, String.toList_append, String.toList_append] at same
      rcases List.append_eq_append_iff.mp same with
        ⟨beginning, longer, cut⟩ | ⟨beginning, longer, cut⟩
      · exact Or.inl (of_cut positive longer different cut)
      · exact Or.inr (of_cut positive' longer different.symm cut)

end Numbered

end TypedClients.Text
