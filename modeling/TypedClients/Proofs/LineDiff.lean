import Mathlib.Data.List.Forall2
import Mathlib.Data.List.Infix
import TypedClients.LineDiff

/-!
# Edit scripts and lines

A script goes from one list to another when its steps use up the one and give the other. The script
that is computed does. The lines of a text give the text back, and where the text has line feeds
only and ends with one, each of its lines does.

The script is computed row by row from the end of the old list, and each cell of a row is a script
between two ends of the lists. `IsRow` says so of a row and is kept from each row to the next.
-/

namespace TypedClients.LineDiff

/-! ## Scripts -/

section Scripts

variable {α : Type}

/-- A script that goes from an old list to a new one. -/
structure IsScript (edits : List (Edit α)) (old new : List α) : Prop where
  uses : edits.flatMap Edit.oldItems = old
  gives : edits.flatMap Edit.newItems = new

namespace IsScript

variable {cell : Cell α} {item : α} {old new : List α}

/-- The empty cell is a script between nothing and nothing. -/
theorem empty : IsScript (Cell.empty : Cell α).edits [] [] :=
  ⟨rfl, rfl⟩

/-- A cell that keeps an item in front is a script between both lists with the item. -/
theorem keep (item : α) (script : IsScript cell.edits old new) :
    IsScript (cell.keep item).edits (item :: old) (item :: new) :=
  ⟨congrArg (item :: ·) script.uses, congrArg (item :: ·) script.gives⟩

/-- A cell that deletes an item in front is a script from the list with the item. -/
theorem delete (item : α) (script : IsScript cell.edits old new) :
    IsScript (cell.delete item).edits (item :: old) new :=
  ⟨congrArg (item :: ·) script.uses, script.gives⟩

/-- A cell that inserts an item in front is a script to the list with the item. -/
theorem insert (item : α) (script : IsScript cell.edits old new) :
    IsScript (cell.insert item).edits old (item :: new) :=
  ⟨script.uses, congrArg (item :: ·) script.gives⟩

end IsScript

/-- A row has a script from one list to each ending of another, the longest ending first. -/
def IsRow (old new : List α) (row : List (Cell α)) : Prop :=
  List.Forall₂ (fun cell ending => IsScript cell.edits old ending) row new.tails

/-- A row for a list with one item more has one cell more, which is a script to the whole list. -/
theorem isRow_cons {old new : List α} {item : α} {cell : Cell α} {row : List (Cell α)} :
    IsRow old (item :: new) (cell :: row) ↔
      IsScript cell.edits old (item :: new) ∧ IsRow old new row := by
  rw [IsRow, List.tails_cons, List.forall₂_cons, IsRow]

/-- The first script of a row goes to the whole list. -/
theorem IsRow.head {old new : List α} {row : List (Cell α)} (isRow : IsRow old new row) :
    IsScript (row.headD .empty).edits old new := by
  cases new with
  | nil =>
    obtain ⟨cell, row, first, _, rfl⟩ := List.forall₂_cons_right_iff.mp isRow
    exact first
  | cons item new =>
    obtain ⟨cell, row, first, _, rfl⟩ := List.forall₂_cons_right_iff.mp isRow
    exact first

/-- The scripts behind the first one go to the endings of what is behind the first item. -/
theorem IsRow.tail {old new : List α} {item : α} {row : List (Cell α)}
    (isRow : IsRow old (item :: new) row) : IsRow old new row.tail := by
  rw [IsRow, List.tails_cons] at isRow
  obtain ⟨cell, row, _, others, rfl⟩ := List.forall₂_cons_right_iff.mp isRow
  exact others

/-- From nothing, every cell inserts what is there. -/
theorem isRow_insertions (new : List α) : IsRow [] new (insertions new) := by
  induction new with
  | nil => exact .cons .empty .nil
  | cons item new inductionHypothesis =>
    exact isRow_cons.mpr ⟨inductionHypothesis.head.insert item, inductionHypothesis⟩

/-- The next row goes from a list with one more item. Each of its scripts begins with a step over
that item, over the first item of the ending, or over both when they are the same. -/
theorem isRow_nextRow [DecidableEq α] (item : α) {old new : List α} {below : List (Cell α)}
    (isRow : IsRow old new below) : IsRow (item :: old) new (nextRow item new below) := by
  induction new generalizing below with
  | nil => exact .cons (isRow.head.delete item) .nil
  | cons other new inductionHypothesis =>
    have row := inductionHypothesis isRow.tail
    refine isRow_cons.mpr ⟨?_, row⟩
    split
    · rename_i same
      exact same ▸ isRow.tail.head.keep item
    · split
      · exact isRow.head.delete item
      · exact row.head.insert other

/-- The table is filled with scripts: each row is computed from the one below, which holds the
scripts for the old list without its first item. -/
theorem isRow_rowOf [DecidableEq α] (new old : List α) : IsRow old new (rowOf new old) := by
  induction old with
  | nil => exact isRow_insertions new
  | cons item old inductionHypothesis => exact isRow_nextRow item inductionHypothesis

/-- The script from one list to another goes from the one to the other. -/
theorem isScript_script [DecidableEq α] (old new : List α) : IsScript (script old new) old new :=
  (isRow_rowOf new old).head

end Scripts

/-! ## Lines -/

/-- A line that has a line feed at its end, and no line end before. -/
def IsFullLine (line : List Char) : Prop :=
  ∃ body, line = body ++ ['\n'] ∧ '\n' ∉ body ∧ '\r' ∉ body

/-- The lines of a text give the text back. -/
theorem flatten_linesOf (text : List Char) : (linesOf text).flatten = text := by
  fun_induction linesOf text with
  | case1 => rfl
  | case2 rest inductionHypothesis => simp [inductionHypothesis]
  | case3 c rest _ _ inductionHypothesis => simp [inductionHypothesis]
  | case4 c rest _ _ none inductionHypothesis => simpa [none] using inductionHypothesis
  | case5 c rest _ _ line others some inductionHypothesis =>
    simpa [some] using inductionHypothesis

/-- The lines of a text, put together, are the text again. -/
theorem join_lines (text : String) : String.join (lines text) = text := by
  rw [← String.toList_inj, String.toList_join, lines]
  simpa [List.flatMap_map] using flatten_linesOf text.toList

/-- A full line at the beginning of a text is the first of its lines, whatever follows it. Without
its line feed it would go on into the rest. -/
theorem linesOf_append {line rest : List Char} (full : IsFullLine line) :
    linesOf (line ++ rest) = line :: linesOf rest := by
  obtain ⟨body, rfl, feedless, returnless⟩ := full
  induction body with
  | nil => simp [linesOf]
  | cons c body inductionHypothesis =>
    have others := inductionHypothesis (fun member => feedless (List.mem_cons_of_mem c member))
      (fun member => returnless (List.mem_cons_of_mem c member))
    have plain : ¬ (c = '\n' ∨ c = '\r') := by
      rintro (rfl | rfl)
      · exact feedless List.mem_cons_self
      · exact returnless List.mem_cons_self
    have unmarked : c ≠ '\r' := fun same => plain (Or.inr same)
    rw [List.cons_append, List.cons_append, linesOf.eq_3 _ _ (fun _ same _ => unmarked same),
      if_neg plain, others]

/-- A text of full lines has these lines. -/
theorem linesOf_flatten {fullLines : List (List Char)}
    (full : ∀ line ∈ fullLines, IsFullLine line) : linesOf fullLines.flatten = fullLines := by
  induction fullLines with
  | nil => rfl
  | cons line fullLines inductionHypothesis =>
    obtain ⟨first, others⟩ := List.forall_mem_cons.mp full
    rw [List.flatten_cons, linesOf_append first, inductionHypothesis others]

/-- A text with line feeds as its only line ends, which is empty or ends with one. -/
structure IsLineText (text : String) : Prop where
  ended : text = "" ∨ text.toList.getLast? = some '\n'
  returnless : '\r' ∉ text.toList

/-- The lines of such a text are full: each ends in the line feed at which it was cut, and has no
other line end. -/
theorem isFullLine_linesOf {text : List Char} (ended : text = [] ∨ text.getLast? = some '\n')
    (returnless : '\r' ∉ text) : ∀ line ∈ linesOf text, IsFullLine line := by
  have ends {c : Char} {rest : List Char} (ended : (c :: rest).getLast? = some '\n') :
      rest = [] ∨ rest.getLast? = some '\n' := by
    cases rest with
    | nil => exact Or.inl rfl
    | cons next rest => exact Or.inr (by simpa using ended)
  fun_induction linesOf text with
  | case1 => simp
  | case2 rest _ => simp at returnless
  | case3 c rest _ mark inductionHypothesis =>
    obtain ⟨other, free⟩ := List.ne_and_not_mem_of_not_mem_cons returnless
    obtain rfl : c = '\n' := mark.resolve_right (Ne.symm other)
    have others := inductionHypothesis (ends (ended.resolve_left (by simp))) free
    exact List.forall_mem_cons.mpr ⟨⟨[], rfl, by simp, by simp⟩, others⟩
  | case4 c rest _ plain none _ =>
    obtain rfl : rest = [] := by simpa [none] using (flatten_linesOf rest).symm
    exact absurd (Or.inl (by simpa using ended)) plain
  | case5 c rest _ plain line others some inductionHypothesis =>
    obtain ⟨_, free⟩ := List.ne_and_not_mem_of_not_mem_cons returnless
    have full := inductionHypothesis (ends (ended.resolve_left (by simp))) free
    obtain ⟨⟨body, rfl, feedless, bodyFree⟩, behind⟩ := List.forall_mem_cons.mp (some ▸ full)
    refine List.forall_mem_cons.mpr ⟨⟨c :: body, rfl, ?_, ?_⟩, behind⟩
    · exact List.not_mem_cons_of_ne_of_not_mem (fun same => plain (Or.inl same.symm)) feedless
    · exact List.not_mem_cons_of_ne_of_not_mem (fun same => plain (Or.inr same.symm)) bodyFree

/-- The lines of such a text, as they are listed, are full. -/
theorem IsLineText.lines {text : String} (isLineText : IsLineText text) :
    ∀ line ∈ LineDiff.lines text, IsFullLine line.toList := by
  have ended : text.toList = [] ∨ text.toList.getLast? = some '\n' :=
    isLineText.ended.imp_left fun empty => by simp [empty]
  intro line member
  obtain ⟨chars, listed, rfl⟩ := List.mem_map.mp member
  simpa using isFullLine_linesOf ended isLineText.returnless chars listed

end TypedClients.LineDiff
