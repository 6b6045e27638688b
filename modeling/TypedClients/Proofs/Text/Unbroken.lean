import Mathlib.Data.List.Basic
import Std.Data.String.ToNat

/-!
# Texts on one line

A text without a line feed stays on the line on which it is written. What is put together from
such texts is one again, so that a long printed line is seen to be one from its words. A plain line
also begins with a character that is neither a blank nor a brace: where such a line stands, its
indentation ends at its first character, and it cannot be taken for the line of a brace.

The property is closed under putting texts together, which is all that the printer does.
-/

namespace TypedClients.Text

/-- A text without a line feed. -/
def Unbroken (text : String) : Prop :=
  '\n' ∉ text.toList

instance (text : String) : Decidable (Unbroken text) :=
  inferInstanceAs (Decidable (¬ _))

/-- A text on one line that shows where it begins, and does not begin like a brace. -/
def PlainLine (text : String) : Prop :=
  ∃ first rest, text.toList = first :: rest ∧ first ∉ [' ', '{', '}', '\r', '\n'] ∧ '\n' ∉ rest

namespace Unbroken

/-- A text that is given by its characters. -/
theorem of_chars {chars : List Char} (free : '\n' ∉ chars) : Unbroken (String.ofList chars) := by
  rwa [Unbroken, String.toList_ofList]

/-- Two texts stay on one line together when each does. -/
theorem append_iff {first second : String} :
    Unbroken (first ++ second) ↔ Unbroken first ∧ Unbroken second := by
  simp [Unbroken]

/-- Two texts without a line feed have none together. -/
theorem append {first second : String} (before : Unbroken first) (behind : Unbroken second) :
    Unbroken (first ++ second) :=
  append_iff.mpr ⟨before, behind⟩

/-- Texts one behind the other. -/
theorem join {texts : List String} (each : ∀ text ∈ texts, Unbroken text) :
    Unbroken (String.join texts) := by
  intro broken
  rw [String.toList_join, List.mem_flatMap] at broken
  obtain ⟨text, member, broken⟩ := broken
  exact each text member broken

/-- Texts with a separator between each two stay on one line, when the texts and the separator do.
-/
theorem intercalate {separator : String} (separating : Unbroken separator) {texts : List String}
    (each : ∀ text ∈ texts, Unbroken text) : Unbroken (separator.intercalate texts) := by
  induction texts with
  | nil => exact of_chars List.not_mem_nil
  | cons text others inductionHypothesis =>
    have own := each text List.mem_cons_self
    by_cases last : others = []
    · subst last
      simpa using own
    · have rest := inductionHypothesis fun other member =>
        each other (List.mem_cons_of_mem _ member)
      rw [String.intercalate_cons_of_ne_nil last]
      exact (own.append separating).append rest

/-- The digits of a number. -/
theorem toString_nat (number : Nat) : Unbroken (toString number) := by
  intro broken
  rw [Nat.toString_eq_repr, Nat.toList_repr] at broken
  have digit := Nat.isDigit_of_mem_toDigits (by decide) (by decide) broken
  exact absurd digit (by decide)

end Unbroken

namespace PlainLine

/-- A line that is given by its characters. -/
theorem of_chars {first : Char} {rest : List Char}
    (visible : first ∉ [' ', '{', '}', '\r', '\n']) (free : '\n' ∉ rest) :
    PlainLine (String.ofList (first :: rest)) :=
  ⟨first, rest, String.toList_ofList, visible, free⟩

/-- A plain line stays on its line. -/
theorem unbroken {text : String} (plain : PlainLine text) : Unbroken text := by
  obtain ⟨first, rest, chars, visible, free⟩ := plain
  rw [Unbroken, chars]
  intro member
  rcases List.mem_cons.mp member with rfl | member
  · exact visible (by simp)
  · exact free member

/-- A plain line may be longer. -/
theorem append {first second : String} (plain : PlainLine first) (behind : Unbroken second) :
    PlainLine (first ++ second) := by
  obtain ⟨start, rest, chars, visible, free⟩ := plain
  refine ⟨start, rest ++ second.toList, ?_, visible, ?_⟩
  · rw [String.toList_append, chars, List.cons_append]
  · rw [List.mem_append, not_or]
    exact ⟨free, behind⟩

end PlainLine

end TypedClients.Text
