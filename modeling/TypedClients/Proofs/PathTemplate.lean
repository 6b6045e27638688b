import TypedClients.PathTemplate
import TypedClients.Proofs.Text.Pieces

/-!
# Where a path template is cut

A template with a placeholder is literal text without a `{`, the placeholder up to its first `}`,
and what is left. Every other template has no `{` at all, or no `}` behind its first `{`. A proof
by recursion over the segments of a template has exactly these cases.

The cut is found by looking for the first mark, so the cases come from the two cases of a text and a
mark. The part that is left is shorter, which is what the recursion goes by.
-/

namespace TypedClients.PathTemplate

open Text

/-- A path that has a placeholder is put together again from the text before it, what stands
inside it and the text behind it. The cut is at the first `{` and at the first `}` behind that. -/
theorem firstPlaceholder_parts {path before inner rest : List Char}
    (found : firstPlaceholder? path = some (before, inner, rest)) :
    path = before ++ '{' :: (inner ++ '}' :: rest) ∧ '{' ∉ before ∧ '}' ∉ inner := by
  unfold firstPlaceholder? at found
  split at found
  · simp at found
  · rename_i first behind opened
    split at found
    · simp at found
    · rename_i last tail closed
      obtain ⟨rfl, rfl, rfl⟩ := by simpa using found
      have outer : path = path.takeWhile (· != '{') ++ '{' :: behind := (cut_at_mark opened).2
      have inside : behind = behind.takeWhile (· != '}') ++ '}' :: tail := (cut_at_mark closed).2
      refine ⟨?_, mark_not_mem_before '{' path, mark_not_mem_before '}' behind⟩
      rw [← inside]
      exact outer

/-- A path without a placeholder has no `{`, or is never closed behind its first one. A `}` before
the first `{` closes nothing. -/
theorem firstPlaceholder_none {path : List Char} (absent : firstPlaceholder? path = none) :
    '{' ∉ path ∨ ∃ before behind, path = before ++ '{' :: behind ∧ '{' ∉ before ∧ '}' ∉ behind := by
  unfold firstPlaceholder? at absent
  split at absent
  · rename_i exhausted
    exact Or.inl (mark_not_mem_of_exhausted exhausted)
  · rename_i first behind opened
    split at absent
    · rename_i exhausted
      exact Or.inr ⟨path.takeWhile (· != '{'), behind, (cut_at_mark opened).2,
        mark_not_mem_before '{' path, mark_not_mem_of_exhausted exhausted⟩
    · simp at absent

/-- A path without a placeholder has no segment but its literal text. -/
theorem segmentsOf_of_none {path : List Char} (absent : firstPlaceholder? path = none) :
    segmentsOf path = literalSegment path := by
  rw [segmentsOf]
  split
  · rfl
  · rename_i found
    simp [absent] at found

/-- The segments of a path with a placeholder: the text before it, the placeholder, and the
segments of what is left. -/
theorem segmentsOf_of_some {path before inner rest : List Char}
    (found : firstPlaceholder? path = some (before, inner, rest)) :
    segmentsOf path =
      literalSegment before ++ .placeholder (String.ofList inner) :: segmentsOf rest := by
  rw [segmentsOf]
  split
  · rename_i absent
    simp [found] at absent
  · rename_i again
    obtain ⟨rfl, rfl, rfl⟩ := by simpa using found.symm.trans again
    rfl

end TypedClients.PathTemplate
