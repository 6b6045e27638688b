import TypedClients.FileChange
import TypedClients.Proofs.LineDiff.Patch
import TypedClients.Proofs.Text.Digits
import TypedClients.Proofs.Text.Pieces

/-!
# The report of a change as a patch

Behind its first line, the report of a changed text is read as a patch: a line that begins with
`@@` heads a hunk, and each line behind it begins with the mark of its step. What is read are the
hunks of the script, so the patch makes the generated text of the one on disk, and undone the one on
disk of the generated one.

The reader of a patch knows nothing of the printer. It takes one line at a time: by its first
character a line is a step, and what is no step has to be a heading.
-/

namespace TypedClients

open LineDiff Text

/-! ## Reading a patch -/

namespace LineDiff

/-- A range as a heading spells it: the number of a line, and a count unless it is one. -/
def readRange? (chars : List Char) : Option LineRange :=
  if ',' ∈ chars then do
    some ⟨← number? 10 (beforeFirst ',' chars), ← number? 10 (afterFirst ',' chars)⟩
  else (number? 10 chars).map fun number => ⟨number, 1⟩

/-- The ranges of a heading, the old one first. -/
def readHeading? (line : List Char) : Option (LineRange × LineRange) := do
  let ranges ← behind? "@@ -".toList line
  let second ← behind? ['+'] (afterFirst ' ' ranges)
  if afterFirst ' ' second = "@@\n".toList then
    some (← readRange? (beforeFirst ' ' ranges), ← readRange? (beforeFirst ' ' second))
  else none

/-- A step as its line spells it, with a mark in front of the item. -/
def readEdit? : List Char → Option (Edit String)
  | ' ' :: item => some (.keep (String.ofList item))
  | '-' :: item => some (.delete (String.ofList item))
  | '+' :: item => some (.insert (String.ofList item))
  | _ => none

/-- The steps before the first heading among some lines, and the hunks behind it. -/
def readHunks? : List (List Char) → Option (List (Edit String) × List (PatchHunk String))
  | [] => some ([], [])
  | line :: rest => do
    let (edits, hunks) ← readHunks? rest
    match readEdit? line with
    | some edit => some (edit :: edits, hunks)
    | none =>
      let (old, new) ← readHeading? line
      some ([], ⟨old, new, edits⟩ :: hunks)

/-- The hunks of a printed patch, which begins with a heading if it has any lines. -/
def readPatch? (printed : String) : Option (List (PatchHunk String)) :=
  match readHunks? (linesOf printed.toList) with
  | some ([], hunks) => some hunks
  | _ => none

/-- What a patch makes of a text. -/
def applyPatch (patch : List (PatchHunk String)) (text : String) : Option String :=
  (applyHunks 0 patch (lines text)).map String.join

/-- A patch between two texts. -/
structure Patches (patch : List (PatchHunk String)) (old new : String) : Prop where
  forward : applyPatch patch old = some new
  backward : applyPatch (patch.map PatchHunk.reversed) new = some old
  counted : ∀ hunk ∈ patch, hunk.old.count = hunk.uses.length ∧ hunk.new.count = hunk.gives.length
  ordered : patch.Pairwise PatchHunk.Precedes

/-- The hunks of a script are a patch between the texts that it goes between, applied forwards and
backwards. -/
theorem patches_hunks {edits : List (Edit String)} {old new : String}
    (script : IsScript edits (lines old) (lines new)) :
    Patches ((hunks edits).map Hunk.headed) old new where
  forward := by
    rw [applyPatch, ← script.uses, (covers_hunks edits).applyHunks_eq, script.gives]
    exact congrArg some (join_lines new)
  backward := by
    have undone := (covers_hunks edits).reversed.applyHunks_eq
    simp only [List.map_map, List.flatMap_map, Edit.oldItems_reversed, Edit.newItems_reversed]
      at undone
    have headings : PatchHunk.reversed ∘ Hunk.headed = Hunk.headed ∘ Hunk.reversed (α := String) :=
      funext fun hunk => hunk.headed_reversed.symm
    rw [applyPatch, List.map_map, headings, ← script.gives, undone, script.uses]
    exact congrArg some (join_lines old)
  counted := by
    intro hunk member
    obtain ⟨covering, _, rfl⟩ := List.mem_map.mp member
    exact ⟨rfl, rfl⟩
  ordered := (covers_hunks edits).pairwise

/-! ## What is printed is read -/

/-- A number and a count with a comma between them are a range. -/
theorem readRange?_pair (number count : Nat) :
    readRange? (toString number ++ "," ++ toString count).toList = some ⟨number, count⟩ := by
  have free : ',' ∉ (toString number).toList := fun member =>
    absurd (isDigit_of_mem_toString member) (by decide)
  obtain ⟨first, second⟩ := cut_at_first free (toString count).toList
  have comma : ",".toList = [','] := rfl
  rw [String.toList_append, String.toList_append, comma, List.append_assoc, List.singleton_append]
  rw [readRange?, if_pos (by simp), first, second, number?_toString, number?_toString]
  rfl

/-- A number alone is a range of one line. -/
theorem readRange?_single (number : Nat) :
    readRange? (toString number).toList = some ⟨number, 1⟩ := by
  have free : ',' ∉ (toString number).toList := fun member =>
    absurd (isDigit_of_mem_toString member) (by decide)
  rw [readRange?, if_neg free, number?_toString, Option.map_some]

/-- The text of a range spells the range, in each of its three forms: one item, no items, and a
number of them. -/
theorem readRange?_rangeText (before count : Nat) :
    readRange? (rangeText before count).toList = some (.behind before count) := by
  unfold rangeText
  split
  · rename_i single
    rw [readRange?_single, LineRange.behind, if_neg (by omega), single]
  · split
    · rename_i empty
      rw [LineRange.behind, if_pos empty, empty]
      simpa [String.append_assoc] using readRange?_pair before 0
    · rename_i several
      rw [readRange?_pair, LineRange.behind, if_neg several]

/-- A range is spelled with digits and commas, so that the marks of a heading around it are found.
-/
theorem mem_rangeText {before count : Nat} {c : Char}
    (member : c ∈ (rangeText before count).toList) : c.isDigit = true ∨ c = ',' := by
  have zero : "0".toList.all Char.isDigit = true := by decide
  unfold rangeText at member
  split at member
  · exact Or.inl (isDigit_of_mem_toString member)
  · split at member
    · simp only [String.toList_append, List.mem_append] at member
      rcases member with digits | mark
      · exact Or.inl (isDigit_of_mem_toString digits)
      · have : c = ',' ∨ c = '0' := by simpa using mark
        rcases this with rfl | rfl <;> simp
    · simp only [String.toList_append, List.mem_append] at member
      rcases member with (digits | mark) | digits
      · exact Or.inl (isDigit_of_mem_toString digits)
      · exact Or.inr (by simpa using mark)
      · exact Or.inl (isDigit_of_mem_toString digits)

/-- The range of a hunk is made of digits and a comma. -/
theorem not_mem_rangeText {c : Char} (other : c.isDigit = false) (unmarked : c ≠ ',')
    (before count : Nat) : c ∉ (rangeText before count).toList := by
  intro member
  rcases mem_rangeText member with digit | mark
  · exact absurd (other.symm.trans digit) (by decide)
  · exact unmarked mark

/-- The characters of a heading, with the line feed behind it. -/
theorem toList_heading (hunk : Hunk String) :
    (hunk.heading ++ "\n").toList =
      "@@ -".toList ++ ((rangeText hunk.oldBefore hunk.oldItems.length).toList ++
        ' ' :: ('+' :: ((rangeText hunk.newBefore hunk.newItems.length).toList ++
          ' ' :: "@@\n".toList))) := by
  simp [Hunk.heading]

/-- A heading spells the ranges of its hunk: what stands between its marks is read as the two ranges
that it was written from. -/
theorem readHeading?_heading (hunk : Hunk String) :
    readHeading? (hunk.heading ++ "\n").toList = some (hunk.headed.old, hunk.headed.new) := by
  have blankless := not_mem_rangeText (c := ' ') (by decide) (by decide)
  obtain ⟨old, behindOld⟩ := cut_at_first (blankless hunk.oldBefore hunk.oldItems.length)
    ('+' :: ((rangeText hunk.newBefore hunk.newItems.length).toList ++ ' ' :: "@@\n".toList))
  obtain ⟨new, behindNew⟩ := cut_at_first (blankless hunk.newBefore hunk.newItems.length)
    "@@\n".toList
  have plus (chars : List Char) : behind? ['+'] ('+' :: chars) = some chars :=
    behind?_eq_some_iff.mpr rfl
  have start (chars : List Char) : behind? "@@ -".toList ("@@ -".toList ++ chars) = some chars :=
    behind?_eq_some_iff.mpr rfl
  rw [toList_heading, readHeading?, start, Option.bind_eq_bind, Option.bind_some, behindOld, plus,
    Option.bind_eq_bind, Option.bind_some, behindNew, if_pos rfl, old, new, readRange?_rangeText,
    readRange?_rangeText]
  rfl

/-- A heading is a full line. -/
theorem isFullLine_heading (hunk : Hunk String) : IsFullLine (hunk.heading ++ "\n").toList := by
  refine ⟨hunk.heading.toList, by simp, ?_, ?_⟩
  · have free := not_mem_rangeText (c := '\n') (by decide) (by decide)
    simp [Hunk.heading, free]
  · have free := not_mem_rangeText (c := '\r') (by decide) (by decide)
    simp [Hunk.heading, free]

end LineDiff

namespace FileChange

/-- A full line is printed as it is. -/
theorem printedLine_of_full {line : String} (full : IsFullLine line.toList) :
    printedLine line = line := by
  obtain ⟨body, spelled, _, _⟩ := full
  simp [printedLine, spelled]

/-- The item of a step. -/
def item : Edit String → String
  | .keep item | .delete item | .insert item => item

/-- The items of a script are lines of one of the two texts. -/
theorem item_mem {edits : List (Edit String)} {old new : List String}
    (script : IsScript edits old new) {edit : Edit String} (member : edit ∈ edits) :
    item edit ∈ old ∨ item edit ∈ new := by
  cases edit with
  | keep line | delete line =>
    exact Or.inl (script.uses ▸ List.mem_flatMap.mpr ⟨_, member, List.mem_singleton_self line⟩)
  | insert line =>
    exact Or.inr (script.gives ▸ List.mem_flatMap.mpr ⟨_, member, List.mem_singleton_self line⟩)

/-- The mark of a step. -/
def mark : Edit String → Char
  | .keep _ => ' '
  | .delete _ => '-'
  | .insert _ => '+'

/-- A step over a full line is printed as its mark and the line. -/
theorem toList_printEdit {edit : Edit String} (full : IsFullLine (item edit).toList) :
    (printEdit false edit).toList = mark edit :: (item edit).toList := by
  cases edit with
  | keep line | delete line | insert line =>
    have same := printedLine_of_full full
    simp only [item] at same
    simp [printEdit, Style.paint, same, mark, item]

/-- The printed line of a step is full when its item is. -/
theorem isFullLine_printEdit {edit : Edit String} (full : IsFullLine (item edit).toList) :
    IsFullLine (printEdit false edit).toList := by
  have visible : '\n' ≠ mark edit ∧ '\r' ≠ mark edit := by
    cases edit <;> simp [mark]
  obtain ⟨body, spelled, free, returnless⟩ := id full
  refine ⟨mark edit :: body, by rw [toList_printEdit full, spelled, List.cons_append], ?_, ?_⟩
  · exact List.not_mem_cons_of_ne_of_not_mem visible.1 free
  · exact List.not_mem_cons_of_ne_of_not_mem visible.2 returnless

/-- The printed line of a step spells the step. -/
theorem readEdit?_printEdit {edit : Edit String} (full : IsFullLine (item edit).toList) :
    readEdit? (printEdit false edit).toList = some edit := by
  rw [toList_printEdit full]
  cases edit <;> simp [mark, readEdit?, item]

/-- The lines of a printed hunk. -/
def hunkLines (hunk : Hunk String) : List (List Char) :=
  (hunk.heading ++ "\n").toList :: hunk.edits.map fun edit => (printEdit false edit).toList

/-- A hunk that is printed without colours is its lines, one behind the other. -/
theorem toList_printHunk (hunk : Hunk String) :
    (printHunk false hunk).toList = (hunkLines hunk).flatten := by
  simp [printHunk, hunkLines, Style.paint, List.flatMap_def, Function.comp_def]

/-- The hunks of a script, as a report prints them. -/
def printedHunks (edits : List (Edit String)) : String :=
  String.join ((hunks edits).map (printHunk false))

/-- What is printed of an edit script without colours is the lines of its hunks, one behind the
other. -/
theorem toList_printedHunks (edits : List (Edit String)) :
    (printedHunks edits).toList = ((hunks edits).flatMap hunkLines).flatten := by
  simp only [printedHunks, String.toList_join, List.flatMap_def, List.flatten_flatten,
    List.map_map, Function.comp_def, toList_printHunk]

/-- The lines of steps in front of others spell the steps. Each step is one line, since its item is
a full line. -/
theorem readHunks?_edits {edits : List (Edit String)}
    (full : ∀ edit ∈ edits, IsFullLine (item edit).toList) {behind : List (List Char)}
    {others : List (Edit String)} {hunks : List (PatchHunk String)}
    (read : readHunks? behind = some (others, hunks)) :
    readHunks? (edits.map (fun edit => (printEdit false edit).toList) ++ behind) =
      some (edits ++ others, hunks) := by
  induction edits with
  | nil => exact read
  | cons edit edits inductionHypothesis =>
    obtain ⟨first, rest⟩ := List.forall_mem_cons.mp full
    simp [readHunks?, inductionHypothesis rest, readEdit?_printEdit first]

/-- The lines of hunks spell the hunks, one behind the other: a heading ends the steps of the hunk
before it. -/
theorem readHunks?_hunkLines {hunks : List (Hunk String)}
    (full : ∀ hunk ∈ hunks, ∀ edit ∈ hunk.edits, IsFullLine (item edit).toList) :
    readHunks? (hunks.flatMap hunkLines) = some ([], hunks.map Hunk.headed) := by
  induction hunks with
  | nil => rfl
  | cons hunk hunks inductionHypothesis =>
    obtain ⟨first, rest⟩ := List.forall_mem_cons.mp full
    have behind := readHunks?_edits first (inductionHypothesis rest)
    have heading : readEdit? (hunk.heading ++ "\n").toList = none := by
      simp [Hunk.heading, readEdit?]
    rw [List.flatMap_cons, hunkLines, List.cons_append, readHunks?, behind]
    simp [-String.toList_append, heading, readHeading?_heading, Hunk.headed]

/-- The printed hunks of a script between texts of full lines spell its hunks, so that nothing of
them is lost in print. -/
theorem readPatch?_printedHunks {edits : List (Edit String)} {old new : String}
    (script : IsScript edits (lines old) (lines new)) (oldLines : IsLineText old)
    (newLines : IsLineText new) :
    readPatch? (printedHunks edits) = some ((hunks edits).map Hunk.headed) := by
  have full (hunk : Hunk String) (one : hunk ∈ hunks edits) (edit : Edit String)
      (member : edit ∈ hunk.edits) : IsFullLine (item edit).toList :=
    (item_mem script ((covers_hunks edits).mem one member)).elim (oldLines.lines _)
      (newLines.lines _)
  have fullLines : ∀ line ∈ (hunks edits).flatMap hunkLines, IsFullLine line := by
    intro line member
    obtain ⟨hunk, one, listed⟩ := List.mem_flatMap.mp member
    rcases List.mem_cons.mp listed with rfl | printed
    · exact isFullLine_heading hunk
    · obtain ⟨edit, inside, rfl⟩ := List.mem_map.mp printed
      exact isFullLine_printEdit (full hunk one edit inside)
  rw [readPatch?, toList_printedHunks, linesOf_flatten fullLines, readHunks?_hunkLines full]

/-! ## The report -/

/-- The report of a text that differs from the one on disk is a patch behind its first line. Any
script between the two would be printed as one. -/
theorem report_is_patch {change : FileChange} {existing : String}
    (onDisk : change.existing = some existing) (differ : existing ≠ change.text)
    (oldLines : IsLineText existing) (newLines : IsLineText change.text) :
    IsScript change.edits (lines existing) (lines change.text) ∧
      change.report? false = some (change.modifiedLine false ++ printedHunks change.edits) ∧
      ∀ edits, IsScript edits (lines existing) (lines change.text) →
        ∃ patch, readPatch? (printedHunks edits) = some patch ∧
          Patches patch existing change.text := by
  refine ⟨?_, ?_, ?_⟩
  · rw [FileChange.edits, onDisk]
    exact isScript_script _ _
  · simp [report?, kind, onDisk, differ, printedHunks]
  · intro edits script
    exact ⟨_, readPatch?_printedHunks script oldLines newLines, patches_hunks script⟩

/-- A second line is replaced by two others. -/
theorem report_of_longer_text_is_patch :
    ∃ patch, readPatch? (printedHunks (script (lines "one\ntwo\n") (lines "one\nthree\nfour\n"))) =
      some patch ∧ Patches patch "one\ntwo\n" "one\nthree\nfour\n" := by
  have onDisk : (FileChange.mk "List.g.cs" "one\nthree\nfour\n" "one\ntwo\n").existing =
      some "one\ntwo\n" := rfl
  have reported := report_is_patch onDisk (by decide) ⟨Or.inr (by decide), by decide⟩
    ⟨Or.inr (by decide), by decide⟩
  exact reported.2.2 _ reported.1

end FileChange

end TypedClients
