import Mathlib.Data.List.TakeWhile
import TypedClients.Text.Pieces

/-!
# Cutting at the first mark

A text either has no mark in it, or is what stands before its first mark, the mark, and what
stands behind it. Everything that looks for the first `{`, `}` or `:` of a text rests on these
two cases. What takes the longest run of characters of one kind is cut at the first character of
another kind.
-/

namespace TypedClients.Text

/-- What stands before the first mark has no mark in it. -/
theorem mark_not_mem_before (mark : Char) (text : List Char) :
    mark ∉ text.takeWhile (· != mark) := by
  intro member
  simpa using List.mem_takeWhile_imp member

/-- A text of which nothing is left at its first mark has no mark. -/
theorem mark_not_mem_of_exhausted {mark : Char} {text : List Char}
    (exhausted : text.dropWhile (· != mark) = []) : mark ∉ text := by
  intro member
  simpa using List.dropWhile_eq_nil_iff.mp exhausted mark member

/-- What is left of a text at its first mark begins with that mark, and the text is put together
again from the three parts. -/
theorem cut_at_mark {mark first : Char} {text behind : List Char}
    (left : text.dropWhile (· != mark) = first :: behind) :
    first = mark ∧ text = text.takeWhile (· != mark) ++ mark :: behind := by
  have stopped : first = mark := by
    have head := List.head?_dropWhile_not (· != mark) text
    simpa [left] using head
  refine ⟨stopped, ?_⟩
  calc text = text.takeWhile (· != mark) ++ text.dropWhile (· != mark) :=
        List.takeWhile_append_dropWhile.symm
    _ = text.takeWhile (· != mark) ++ mark :: behind := by rw [left, stopped]

/-- A run of characters of one kind is cut off exactly where it ends, when what stands behind it
begins with a character of another kind. -/
theorem cut_behind_run {kind : Char → Bool} {run rest : List Char}
    (inside : ∀ c ∈ run, kind c = true) (ends : ∀ c ∈ rest.head?, kind c = false) :
    (run ++ rest).takeWhile kind = run ∧ (run ++ rest).dropWhile kind = rest := by
  rw [List.takeWhile_append_of_pos inside, List.dropWhile_append_of_pos inside]
  cases rest with
  | nil => simp
  | cons c rest => simp [ends c rfl]

/-- The characters of a text without a mark are other ones. -/
theorem ne_mark_of_not_mem {mark : Char} {text : List Char} (free : mark ∉ text) :
    ∀ c ∈ text, (c != mark) = true := by
  intro c member
  have other : c ≠ mark := fun same => free (same ▸ member)
  simpa using other

/-- A text has one first mark, so that there is one way to cut it there. -/
theorem cut_unique {mark : Char} {first second behind rest : List Char} (free : mark ∉ first)
    (alsoFree : mark ∉ second) (same : first ++ mark :: behind = second ++ mark :: rest) :
    first = second ∧ behind = rest := by
  have cut (text : List Char) : ∀ c ∈ (mark :: text).head?, (c != mark) = false := by simp
  obtain ⟨before, left⟩ := cut_behind_run (ne_mark_of_not_mem free) (cut behind)
  obtain ⟨alsoBefore, alsoLeft⟩ := cut_behind_run (ne_mark_of_not_mem alsoFree) (cut rest)
  rw [same] at before left
  exact ⟨before.symm.trans alsoBefore, (List.cons.inj (left.symm.trans alsoLeft)).2⟩

/-- A text is the first piece of another one between its marks. -/
def FirstPiece (mark : Char) (text piece : List Char) : Prop :=
  mark ∉ piece ∧ (text = piece ∨ ∃ behind, text = piece ++ mark :: behind)

/-- What stands before the first mark is the first piece, which is the whole text where there is no
mark. -/
theorem beforeFirst_eq_iff {mark : Char} {text piece : List Char} :
    beforeFirst mark text = piece ↔ FirstPiece mark text piece := by
  unfold beforeFirst
  constructor
  · rintro rfl
    refine ⟨mark_not_mem_before mark text, ?_⟩
    cases left : text.dropWhile (· != mark) with
    | nil =>
      have whole := List.takeWhile_append_dropWhile (p := (· != mark)) (l := text)
      rw [left, List.append_nil] at whole
      exact Or.inl whole.symm
    | cons first behind => exact Or.inr ⟨behind, (cut_at_mark left).2⟩
  · rintro ⟨free, rfl | ⟨behind, rfl⟩⟩
    · exact List.takeWhile_eq_self_iff.mpr (ne_mark_of_not_mem free)
    · exact (cut_behind_run (ne_mark_of_not_mem free) (by simp)).1

/-- A text is cut at its first mark into what stands before it and what stands behind it. -/
theorem cut_at_first {mark : Char} {before : List Char} (free : mark ∉ before)
    (behind : List Char) :
    beforeFirst mark (before ++ mark :: behind) = before ∧
      afterFirst mark (before ++ mark :: behind) = behind := by
  obtain ⟨taken, left⟩ := cut_behind_run (ne_mark_of_not_mem free)
    (show ∀ c ∈ (mark :: behind).head?, (c != mark) = false by simp)
  exact ⟨taken, by rw [afterFirst, left, List.drop_one, List.tail_cons]⟩

/-- A text is what stands behind the first mark of another one. Nothing stands there when there is
no mark. -/
def BehindFirst (mark : Char) (text behind : List Char) : Prop :=
  mark ∉ text ∧ behind = [] ∨ ∃ before, mark ∉ before ∧ text = before ++ mark :: behind

/-- Only what stands behind the first mark is behind it, later marks included. -/
theorem afterFirst_eq_iff {mark : Char} {text behind : List Char} :
    afterFirst mark text = behind ↔ BehindFirst mark text behind := by
  constructor
  · rintro rfl
    by_cases marked : mark ∈ text
    · obtain ⟨before, behind, rfl, free⟩ := List.eq_append_cons_of_mem marked
      exact Or.inr ⟨before, free, by rw [(cut_at_first free behind).2]⟩
    · have exhausted : text.dropWhile (· != mark) = [] :=
        List.dropWhile_eq_nil_iff.mpr (ne_mark_of_not_mem marked)
      exact Or.inl ⟨marked, by rw [afterFirst, exhausted, List.drop_nil]⟩
  · rintro (⟨free, rfl⟩ | ⟨before, free, rfl⟩)
    · have exhausted : text.dropWhile (· != mark) = [] :=
        List.dropWhile_eq_nil_iff.mpr (ne_mark_of_not_mem free)
      rw [afterFirst, exhausted, List.drop_nil]
    · exact (cut_at_first free behind).2

/-- A text is the last piece of another one between its marks. -/
def LastPiece (mark : Char) (text piece : List Char) : Prop :=
  mark ∉ piece ∧ (text = piece ∨ ∃ front, text = front ++ mark :: piece)

/-- What stands behind the last mark is the last piece, which is the whole text when there is no
mark. -/
theorem afterLast_eq_iff {mark : Char} {text piece : List Char} :
    afterLast mark text = piece ↔ LastPiece mark text piece := by
  unfold afterLast
  rw [List.reverse_eq_iff]
  constructor
  · intro taken
    have free : mark ∉ piece := by
      have before := mark_not_mem_before mark text.reverse
      rw [taken] at before
      simpa using before
    refine ⟨free, ?_⟩
    cases left : text.reverse.dropWhile (· != mark) with
    | nil =>
      have whole := List.takeWhile_append_dropWhile (p := (· != mark)) (l := text.reverse)
      rw [left, taken, List.append_nil, List.reverse_inj] at whole
      exact Or.inl whole.symm
    | cons first behind =>
      obtain ⟨rfl, split⟩ := cut_at_mark left
      rw [taken] at split
      refine Or.inr ⟨behind.reverse, ?_⟩
      simpa using congrArg List.reverse split
  · rintro ⟨free, whole⟩
    have inside : ∀ c ∈ piece.reverse, (c != mark) = true :=
      ne_mark_of_not_mem (by simpa using free)
    rcases whole with rfl | ⟨front, rfl⟩
    · simpa using List.takeWhile_eq_self_iff.mpr inside
    · have ends : ∀ c ∈ (mark :: front.reverse).head?, (c != mark) = false := by simp
      simpa using (cut_behind_run inside ends).1

/-- A text has a first piece. -/
theorem pieces_ne_nil (mark : Char) (text : List Char) : pieces mark text ≠ [] := by
  cases text with
  | nil => exact List.cons_ne_nil _ _
  | cons c text =>
    unfold pieces
    split
    · exact List.cons_ne_nil _ _
    · split <;> exact List.cons_ne_nil _ _

/-- The pieces of a text between its marks make up the text: the first as it stands, and each other
one behind a mark. -/
theorem eq_of_pieces {mark : Char} {text first : List Char} {others : List (List Char)}
    (cut : pieces mark text = first :: others) : text = first ++ others.flatMap (mark :: ·) := by
  induction text generalizing first others with
  | nil =>
    obtain ⟨rfl, rfl⟩ := List.cons.inj cut
    rfl
  | cons c text inductionHypothesis =>
    obtain ⟨next, later, rest⟩ := List.exists_cons_of_ne_nil (pieces_ne_nil mark text)
    rw [inductionHypothesis rest]
    by_cases marked : c = mark
    · obtain ⟨rfl, rfl⟩ : [] = first ∧ next :: later = others := by
        simpa [pieces, marked, rest] using cut
      simp [marked]
    · obtain ⟨rfl, rfl⟩ : c :: next = first ∧ later = others := by
        simpa [pieces, marked, rest] using cut
      rfl

/-- A mark separates the pieces before it from those behind it. -/
theorem pieces_append (mark : Char) (before behind : List Char) :
    pieces mark (before ++ mark :: behind) = pieces mark before ++ pieces mark behind := by
  induction before with
  | nil => simp [pieces]
  | cons c before inductionHypothesis =>
    by_cases marked : c = mark
    · simp [pieces, marked, inductionHypothesis]
    · obtain ⟨piece, others, cut⟩ := List.exists_cons_of_ne_nil (pieces_ne_nil mark before)
      simp [pieces, marked, inductionHypothesis, cut]

/-- A text without a mark is one piece. -/
theorem pieces_of_not_mem {mark : Char} {text : List Char} (free : mark ∉ text) :
    pieces mark text = [text] := by
  induction text with
  | nil => rfl
  | cons c text inductionHypothesis =>
    obtain ⟨other, rest⟩ := not_or.mp (mt List.mem_cons.mpr free)
    simp [pieces, Ne.symm other, inductionHypothesis rest]

/-- The last piece of a text has the ending of the text, when there is no mark in the ending. -/
theorem exists_pieces_ending {mark : Char} {ending : List Char} (free : mark ∉ ending)
    (text : List Char) : ∃ front last,
      pieces mark (text ++ ending) = front ++ [last ++ ending] := by
  by_cases marked : mark ∈ text
  · obtain ⟨before, behind, rfl⟩ := List.append_of_mem marked
    obtain ⟨front, last, split⟩ := exists_pieces_ending free behind
    refine ⟨pieces mark before ++ front, last, ?_⟩
    rw [List.append_assoc, List.cons_append, pieces_append, split, List.append_assoc]
  · have whole : mark ∉ text ++ ending := by simp [marked, free]
    exact ⟨[], text, pieces_of_not_mem whole⟩
termination_by text.length

/-- A text has something behind a beginning exactly when it is the beginning and that. -/
theorem behind?_eq_some_iff {start text rest : List Char} :
    behind? start text = some rest ↔ text = start ++ rest := by
  unfold behind?
  rw [Option.ite_none_right_eq_some, List.isPrefixOf_iff_prefix, Option.some.injEq]
  constructor
  · rintro ⟨⟨rest, rfl⟩, rfl⟩
    simp
  · rintro rfl
    simp

end TypedClients.Text
