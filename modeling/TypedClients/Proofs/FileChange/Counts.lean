import TypedClients.Proofs.FileChange
import TypedClients.Proofs.LineDiff.Counts

/-!
# Counts and printed lines

The report of a check is read as it is seen: a line of it counts by its first visible character, so
that control codes before it do not matter. Every line of the two texts is printed as one line,
whatever its end is and also without one. So the lines that are seen behind the first one are the
headings of the hunks and their steps, and there are as many insertions and deletions among them as
the first line says.

Nothing is assumed of the script but that it is one between the two texts, so that the theorem holds
for whichever script is computed. With colours or without, a printed line has the same first visible
character.
-/

namespace TypedClients

open LineDiff Text

/-! ## Lines put together -/

namespace LineDiff

/-- A text without a line end. -/
def IsUnended (text : List Char) : Prop :=
  '\n' ∉ text ∧ '\r' ∉ text

/-- A line with a line end, of any kind. -/
def IsEnded (line : List Char) : Prop :=
  ∃ body ending, line = body ++ ending ∧ IsUnended body ∧
    ending ∈ [['\n'], ['\r'], ['\r', '\n']]

variable {text front line rest first : List Char} {others : List (List Char)} {c : Char}

/-- A text is free of line ends when its first character and the rest are. -/
theorem isUnended_cons : IsUnended (c :: text) ↔ (c ≠ '\n' ∧ c ≠ '\r') ∧ IsUnended text := by
  simp only [IsUnended, List.mem_cons, not_or, @ne_comm _ c, ne_eq]
  exact and_and_and_comm

/-- A text that is put together is free of line ends when both parts are. -/
theorem isUnended_append : IsUnended (front ++ text) ↔ IsUnended front ∧ IsUnended text := by
  simp only [IsUnended, List.mem_append, not_or]
  exact and_and_and_comm

/-- A character that ends no line belongs to the line behind it. -/
theorem linesOf_cons (visible : c ≠ '\n' ∧ c ≠ '\r') (text : List Char) :
    linesOf (c :: text) = match linesOf text with
      | [] => [[c]]
      | line :: others => (c :: line) :: others := by
  have step := linesOf.eq_3 _ text fun _ same _ => visible.2 same
  rw [if_neg (not_or.mpr visible)] at step
  exact step.trans (by cases linesOf text <;> rfl)

/-- A text without a line end is one line, unless it is empty and has none. -/
theorem linesOf_of_unended (unended : IsUnended text) (filled : text ≠ []) :
    linesOf text = [text] := by
  induction text with
  | nil => exact absurd rfl filled
  | cons c text inductionHypothesis =>
    obtain ⟨visible, behind⟩ := isUnended_cons.mp unended
    rw [linesOf_cons visible]
    by_cases last : text = []
    · rw [last, linesOf]
    · rw [inductionHypothesis behind last]

/-- In front of other lines it belongs to the first of them. -/
theorem linesOf_unended_append (unended : IsUnended front)
    (lines : linesOf text = first :: others) :
    linesOf (front ++ text) = (front ++ first) :: others := by
  induction front with
  | nil => exact lines
  | cons c front inductionHypothesis =>
    obtain ⟨visible, behind⟩ := isUnended_cons.mp unended
    rw [List.cons_append, linesOf_cons visible, inductionHypothesis behind, List.cons_append]

/-- A line with an end is the first line of a text, unless the text goes on with a line feed, which
might belong to that end. -/
theorem linesOf_ended_append (ended : IsEnded line) (fed : rest.head? ≠ some '\n') :
    linesOf (line ++ rest) = line :: linesOf rest := by
  obtain ⟨body, ending, rfl, unended, kind⟩ := ended
  have behind : linesOf (ending ++ rest) = ending :: linesOf rest := by
    simp only [List.mem_cons, List.not_mem_nil, or_false] at kind
    rcases kind with rfl | rfl | rfl
    · rw [List.singleton_append, linesOf.eq_3 _ _ fun _ same _ => absurd same (by decide)]
      rfl
    · rw [List.singleton_append, linesOf.eq_3]
      · rfl
      · rintro feed - rfl
        exact fed rfl
    · rfl
  rw [List.append_assoc, linesOf_unended_append unended behind]

/-- A line with an end keeps it when another character is put in front. -/
theorem IsEnded.cons (visible : c ≠ '\n' ∧ c ≠ '\r') (ended : IsEnded line) :
    IsEnded (c :: line) := by
  obtain ⟨body, ending, rfl, unended, kind⟩ := ended
  exact ⟨c :: body, ending, rfl, isUnended_cons.mpr ⟨visible, unended⟩, kind⟩

/-- The lines of a text have an end, but perhaps the last one has none. So each of them can be
printed as one line, with an end added where there is none. -/
theorem ended_or_unended (text : List Char) :
    ∀ line ∈ linesOf text, IsEnded line ∨ IsUnended line := by
  fun_induction linesOf text with
  | case1 => exact fun _ member => absurd member List.not_mem_nil
  | case2 rest inductionHypothesis =>
    have first : IsEnded ['\r', '\n'] := ⟨[], _, rfl, by simp [IsUnended], by simp⟩
    exact List.forall_mem_cons.mpr ⟨Or.inl first, inductionHypothesis⟩
  | case3 c rest _ mark inductionHypothesis =>
    have first : IsEnded [c] := by
      refine ⟨[], [c], rfl, by simp [IsUnended], ?_⟩
      rcases mark with rfl | rfl <;> simp
    exact List.forall_mem_cons.mpr ⟨Or.inl first, inductionHypothesis⟩
  | case4 c rest _ plain _ _ =>
    have first : IsUnended [c] := isUnended_cons.mpr ⟨not_or.mp plain, by simp [IsUnended]⟩
    exact List.forall_mem_singleton.mpr (Or.inr first)
  | case5 c rest _ plain line others some inductionHypothesis =>
    rw [some, List.forall_mem_cons] at inductionHypothesis
    obtain ⟨first, behind⟩ := inductionHypothesis
    refine List.forall_mem_cons.mpr ⟨?_, behind⟩
    exact first.imp (IsEnded.cons (not_or.mp plain))
      fun unended => isUnended_cons.mpr ⟨not_or.mp plain, unended⟩

/-- So do the lines as they are listed. -/
theorem ended_or_unended_of_mem_lines {text line : String} (member : line ∈ lines text) :
    IsEnded line.toList ∨ IsUnended line.toList := by
  obtain ⟨chars, listed, rfl⟩ := List.mem_map.mp member
  simpa using ended_or_unended text.toList chars listed

end LineDiff

/-! ## Control codes -/

namespace Style

/-- What is seen of a text: all but the control codes. -/
def visible : List Char → List Char
  | [] => []
  | c :: rest => if c = '\x1b' then visible (afterFirst 'm' rest) else c :: visible rest
termination_by text => text.length
decreasing_by
  · have shorter := (List.dropWhile_sublist (p := (· != 'm')) (l := rest)).length_le
    rw [afterFirst, List.length_drop, List.length_cons]
    omega
  · exact Nat.lt_succ_self _

/-- Control codes, one behind the other. -/
def codes (numbers : List Nat) : List Char :=
  numbers.flatMap fun number => (code number).toList

variable {text rest : List Char} {c : Char}

/-- A control code is the escape character, a bracket, the digits of its number and the letter `m`.
-/
theorem toList_code (number : Nat) :
    (code number).toList = '\x1b' :: '[' :: ((toString number).toList ++ ['m']) := by
  simp [code]

/-- A control code is not seen, since the first letter `m` behind the escape character is the one
that ends it. -/
theorem visible_code (number : Nat) (rest : List Char) :
    visible ((code number).toList ++ rest) = visible rest := by
  have free : 'm' ∉ '[' :: (toString number).toList := by
    rw [List.mem_cons, not_or]
    exact ⟨by decide, fun member => absurd (isDigit_of_mem_toString member) (by decide)⟩
  have behind := (cut_at_first free rest).2
  rw [toList_code, List.cons_append, visible, if_pos rfl]
  simpa using congrArg visible behind

/-- However many control codes stand one behind the other, none is seen. -/
theorem visible_codes (numbers : List Nat) (rest : List Char) :
    visible (codes numbers ++ rest) = visible rest := by
  induction numbers with
  | nil => rfl
  | cons number numbers inductionHypothesis =>
    have split : codes (number :: numbers) = (code number).toList ++ codes numbers := rfl
    rw [split, List.append_assoc, visible_code, inductionHypothesis]

/-- A text without control codes is seen as it is. -/
theorem visible_append (plain : '\x1b' ∉ text) (rest : List Char) :
    visible (text ++ rest) = text ++ visible rest := by
  induction text with
  | nil => rfl
  | cons c text inductionHypothesis =>
    obtain ⟨other, behind⟩ := List.ne_and_not_mem_of_not_mem_cons plain
    rw [List.cons_append, visible, if_neg (Ne.symm other), inductionHypothesis behind,
      List.cons_append]

/-- The characters of control codes are three marks and digits, and there is no line end among them.
-/
theorem mem_codes {numbers : List Nat} (member : c ∈ codes numbers) :
    c ∈ ['\x1b', '[', 'm'] ∨ c.isDigit = true := by
  obtain ⟨number, -, inside⟩ := List.mem_flatMap.mp member
  rw [toList_code] at inside
  simp only [List.mem_cons, List.mem_append, List.not_mem_nil, or_false] at inside ⊢
  rcases inside with escape | bracket | digit | last
  · exact Or.inl (Or.inl escape)
  · exact Or.inl (Or.inr (Or.inl bracket))
  · exact Or.inr (isDigit_of_mem_toString digit)
  · exact Or.inl (Or.inr (Or.inr last))

/-- A character that is neither a digit nor one of the three marks is in no control code. -/
theorem not_mem_codes (other : c ∉ ['\x1b', '[', 'm']) (digitless : c.isDigit = false)
    (numbers : List Nat) : c ∉ codes numbers := by
  intro member
  rcases mem_codes member with mark | digit
  · exact other mark
  · cases digitless.symm.trans digit

/-- Control codes bring no line end. -/
theorem isUnended_codes (numbers : List Nat) : IsUnended (codes numbers) :=
  ⟨not_mem_codes (by decide) (by decide) numbers, not_mem_codes (by decide) (by decide) numbers⟩

/-- A painted text has control codes around it, or none. -/
theorem exists_codes (colors : Bool) (style : Style) (text : String) : ∃ before behind,
    (style.paint colors text).toList = codes before ++ (text.toList ++ codes behind) := by
  cases colors with
  | false => exact ⟨[], [], by simp [paint, codes]⟩
  | true =>
    obtain ⟨color, bold⟩ := style
    refine ⟨color.toList ++ if bold then [1] else [], [0], ?_⟩
    cases color <;> cases bold <;> simp [paint, codes]

end Style

namespace FileChange

open Style

/-- The first visible characters of the lines of a text; a line with none has no mark. -/
def marks (printed : List Char) : List Char :=
  (linesOf printed).filterMap fun line => (visible line).head?

variable {rest line : List Char} {c : Char}

/-- Control codes in front of a text leave the marks of its lines as they are, since they bring no
line end and are not seen. -/
theorem marks_codes (numbers : List Nat) (rest : List Char) :
    marks (codes numbers ++ rest) = marks rest := by
  cases lines : linesOf rest with
  | nil =>
    obtain rfl : rest = [] := by simpa [lines] using (flatten_linesOf rest).symm
    by_cases empty : codes numbers = []
    · rw [empty, List.append_nil]
    · have seen := visible_codes numbers []
      rw [List.append_nil] at seen ⊢
      rw [marks, linesOf_of_unended (isUnended_codes numbers) empty]
      simp [seen, visible, marks, linesOf]
  | cons first others =>
    rw [marks, linesOf_unended_append (isUnended_codes numbers) lines, marks, lines]
    simp only [List.filterMap_cons, visible_codes]

/-- A line with an end has a mark of its own. -/
theorem marks_ended (ended : IsEnded (c :: line)) (plain : c ≠ '\x1b')
    (fed : rest.head? ≠ some '\n') : marks (c :: line ++ rest) = c :: marks rest := by
  rw [marks, linesOf_ended_append ended fed]
  simp [visible, plain, marks]

/-! ## Printed hunks -/

/-- A line of a text is printed with an end, its own or a line feed that is added. -/
theorem isEnded_printedLine {line : String}
    (whole : IsEnded line.toList ∨ IsUnended line.toList) : IsEnded (printedLine line).toList := by
  unfold printedLine
  split
  · rename_i feed
    exact whole.resolve_right fun unended => unended.1 (List.mem_of_getLast? feed)
  · rename_i back
    exact whole.resolve_right fun unended => unended.2 (List.mem_of_getLast? back)
  · rename_i noFeed noReturn
    rcases whole with ⟨body, ending, spelled, -, kind⟩ | unended
    · simp only [List.mem_cons, List.not_mem_nil, or_false] at kind
      rcases kind with rfl | rfl | rfl
      · exact absurd (by simp [spelled]) noFeed
      · exact absurd (by simp [spelled]) noReturn
      · exact absurd (by simp [spelled]) noFeed
    · exact ⟨line.toList, ['\n'], by simp, unended, by simp⟩

/-- The mark of a step is no part of a line end or of a control code. -/
theorem mark_visible (edit : Edit String) :
    (mark edit ≠ '\n' ∧ mark edit ≠ '\r') ∧ mark edit ≠ '\x1b' := by
  cases edit <;> simp [mark]

/-- A step is printed as its mark and its line, with control codes around them or without, so both
ways of printing have one lemma. -/
theorem exists_codes_printEdit (colors : Bool) (edit : Edit String) : ∃ before behind,
    (printEdit colors edit).toList =
      codes before ++ (mark edit :: (printedLine (item edit)).toList ++ codes behind) := by
  cases edit with
  | keep line => exact ⟨[], [], by simp [printEdit, codes, mark, item]⟩
  | delete line =>
    obtain ⟨before, behind, painted⟩ := exists_codes colors red ("-" ++ printedLine line)
    exact ⟨before, behind, by simpa [printEdit, mark, item] using painted⟩
  | insert line =>
    obtain ⟨before, behind, painted⟩ := exists_codes colors green ("+" ++ printedLine line)
    exact ⟨before, behind, by simpa [printEdit, mark, item] using painted⟩

/-- Control codes do not begin with a line feed. -/
theorem head?_codes_append (numbers : List Nat) (fed : rest.head? ≠ some '\n') :
    (codes numbers ++ rest).head? ≠ some '\n' := by
  intro feed
  cases first : codes numbers with
  | nil => exact fed (by simpa [first] using feed)
  | cons c others =>
    obtain rfl : c = '\n' := by simpa [first] using feed
    exact (isUnended_codes numbers).1 (first ▸ List.mem_cons_self)

/-- A printed edit does not begin with a line feed, but with a control code or its mark. So the line
in front of it has ended where it should. -/
theorem head?_printEdit (colors : Bool) (edit : Edit String) (rest : List Char) :
    ((printEdit colors edit).toList ++ rest).head? ≠ some '\n' := by
  obtain ⟨before, behind, printed⟩ := exists_codes_printEdit colors edit
  rw [printed, List.append_assoc]
  refine head?_codes_append before ?_
  simpa using (mark_visible edit).1.1

/-- A printed edit is one line, whose mark is that of the edit, whether the item has a line end of
its own or one is added. -/
theorem marks_printEdit {edit : Edit String}
    (whole : IsEnded (item edit).toList ∨ IsUnended (item edit).toList) (colors : Bool)
    (fed : rest.head? ≠ some '\n') :
    marks ((printEdit colors edit).toList ++ rest) = mark edit :: marks rest := by
  obtain ⟨before, behind, printed⟩ := exists_codes_printEdit colors edit
  have ended := (isEnded_printedLine whole).cons (mark_visible edit).1
  rw [printed, List.append_assoc, marks_codes, List.append_assoc,
    marks_ended ended (mark_visible edit).2 (head?_codes_append behind fed), marks_codes]

/-- The printed steps of a hunk have their marks, in order. The induction is on the steps. -/
theorem marks_printEdits {edits : List (Edit String)}
    (whole : ∀ edit ∈ edits, IsEnded (item edit).toList ∨ IsUnended (item edit).toList)
    (colors : Bool) (fed : rest.head? ≠ some '\n') :
    marks (edits.flatMap (fun edit => (printEdit colors edit).toList) ++ rest) =
        edits.map mark ++ marks rest ∧
      (edits.flatMap (fun edit => (printEdit colors edit).toList) ++ rest).head? ≠ some '\n' := by
  induction edits with
  | nil => exact ⟨rfl, fed⟩
  | cons edit edits inductionHypothesis =>
    obtain ⟨first, others⟩ := List.forall_mem_cons.mp whole
    obtain ⟨seen, unfed⟩ := inductionHypothesis others
    rw [List.flatMap_cons, List.append_assoc, marks_printEdit first colors unfed, seen]
    exact ⟨rfl, head?_printEdit colors edit _⟩

/-- The marks of a hunk: that of its heading and those of its steps. -/
def hunkMarks (hunk : Hunk String) : List Char :=
  '@' :: hunk.edits.map mark

/-- A heading with the line feed behind it, and perhaps control codes in between, is a line, which
begins with an `@`. -/
theorem isEnded_heading (hunk : Hunk String) (numbers : List Nat) : ∃ behind,
    hunk.heading.toList = '@' :: behind ∧ IsEnded ('@' :: (behind ++ codes numbers ++ ['\n'])) := by
  obtain ⟨body, spelled, free⟩ := isFullLine_heading hunk
  have whole : hunk.heading.toList = body := by simpa using spelled
  obtain ⟨behind, begins⟩ : ∃ behind, hunk.heading.toList = '@' :: behind := by
    rw [Hunk.heading]
    exact ⟨_, by simp; rfl⟩
  refine ⟨behind, begins, '@' :: (behind ++ codes numbers), ['\n'], by simp, ?_, by simp⟩
  rw [← List.cons_append, ← begins, whole, isUnended_append]
  exact ⟨free, isUnended_codes numbers⟩

/-- A printed hunk is its heading, perhaps between control codes, and its edits. -/
theorem toList_printHunk_colored (colors : Bool) (hunk : Hunk String) : ∃ before behind,
    (printHunk colors hunk).toList = codes before ++ (hunk.heading.toList ++ codes behind ++
      '\n' :: hunk.edits.flatMap fun edit => (printEdit colors edit).toList) := by
  obtain ⟨before, behind, painted⟩ := exists_codes colors cyan hunk.heading
  refine ⟨before, behind, ?_⟩
  simp [printHunk, painted, List.flatMap_map]

/-- The marks of a printed hunk are that of the heading and those of the edits. As the hunk does not
begin with a line feed either, the hunk in front of it is read on its own. -/
theorem marks_printHunk {hunk : Hunk String} (whole : ∀ edit ∈ hunk.edits,
      IsEnded (item edit).toList ∨ IsUnended (item edit).toList)
    (colors : Bool) (fed : rest.head? ≠ some '\n') :
    marks ((printHunk colors hunk).toList ++ rest) = hunkMarks hunk ++ marks rest ∧
      ((printHunk colors hunk).toList ++ rest).head? ≠ some '\n' := by
  obtain ⟨before, behind, printed⟩ := toList_printHunk_colored colors hunk
  obtain ⟨others, begins, ended⟩ := isEnded_heading hunk behind
  obtain ⟨seen, unfed⟩ := marks_printEdits whole colors fed
  have split : (printHunk colors hunk).toList ++ rest =
      codes before ++ ('@' :: (others ++ codes behind ++ ['\n']) ++
        (hunk.edits.flatMap (fun edit => (printEdit colors edit).toList) ++ rest)) := by
    simp [printed, begins]
  rw [split, marks_codes, marks_ended ended (by decide) unfed, seen]
  exact ⟨rfl, head?_codes_append before (by simp)⟩

/-- The printed hunks have their marks, one behind the other. The induction is on the hunks. -/
theorem marks_printHunks {shown : List (Hunk String)}
    (whole : ∀ hunk ∈ shown, ∀ edit ∈ hunk.edits,
      IsEnded (item edit).toList ∨ IsUnended (item edit).toList) (colors : Bool) :
    marks (shown.flatMap fun hunk => (printHunk colors hunk).toList) = shown.flatMap hunkMarks ∧
      (shown.flatMap fun hunk => (printHunk colors hunk).toList).head? ≠ some '\n' := by
  induction shown with
  | nil => exact ⟨rfl, by simp⟩
  | cons hunk shown inductionHypothesis =>
    obtain ⟨first, others⟩ := List.forall_mem_cons.mp whole
    obtain ⟨seen, unfed⟩ := inductionHypothesis others
    rw [List.flatMap_cons, List.flatMap_cons, ← seen]
    exact marks_printHunk first colors unfed

/-- The hunks of a script as a report prints them, in colours or not. -/
def differences (colors : Bool) (edits : List (Edit String)) : String :=
  String.join ((hunks edits).map (printHunk colors))

/-- What is seen of the printed hunks of a script: the marks of each of them. Nothing is asked of
the script but that it is one between the two texts. -/
theorem marks_differences {edits : List (Edit String)} {old new : String}
    (script : IsScript edits (lines old) (lines new)) (colors : Bool) :
    marks (differences colors edits).toList = (hunks edits).flatMap hunkMarks := by
  have whole (hunk : Hunk String) (one : hunk ∈ hunks edits) (edit : Edit String)
      (member : edit ∈ hunk.edits) : IsEnded (item edit).toList ∨ IsUnended (item edit).toList :=
    (item_mem script ((covers_hunks edits).mem one member)).elim ended_or_unended_of_mem_lines
      ended_or_unended_of_mem_lines
  have printed : (differences colors edits).toList =
      (hunks edits).flatMap fun hunk => (printHunk colors hunk).toList := by
    simp [differences, List.flatMap_map]
  rw [printed]
  exact (marks_printHunks whole colors).1

/-- Among the marks of hunks are as many of one kind of change as there are such changes. The mark
of a heading is neither of the two. -/
theorem count_hunkMarks (shown : List (Hunk String)) :
    (shown.flatMap hunkMarks).count '+' = insertedCount (shown.flatMap Hunk.edits) ∧
      (shown.flatMap hunkMarks).count '-' = deletedCount (shown.flatMap Hunk.edits) := by
  have inserted (edit : Edit String) : (mark edit == '+') = edit.isInsertion := by
    cases edit <;> rfl
  have deleted (edit : Edit String) : (mark edit == '-') = edit.isDeletion := by
    cases edit <;> rfl
  unfold insertedCount deletedCount List.count
  induction shown with
  | nil => exact ⟨rfl, rfl⟩
  | cons hunk shown inductionHypothesis =>
    simp only [List.flatMap_cons, List.countP_append, inductionHypothesis, hunkMarks,
      List.countP_cons, List.countP_map, Function.comp_def, inserted, deleted]
    exact ⟨rfl, rfl⟩

/-- The marks of the printed hunks count the changes of their script, and there is a heading among
them when the texts differ. -/
theorem count_marks_differences {edits : List (Edit String)} {old new : String}
    (script : IsScript edits (lines old) (lines new)) (colors : Bool) :
    (marks (differences colors edits).toList).count '+' = insertedCount edits ∧
      (marks (differences colors edits).toList).count '-' = deletedCount edits ∧
      (marks (differences colors edits).toList).count '@' = (hunks edits).length := by
  have headings (edits : List (Edit String)) : (edits.map mark).count '@' = 0 := by
    rw [List.count_eq_zero]
    intro member
    obtain ⟨edit, -, same⟩ := List.mem_map.mp member
    cases edit <;> simp [mark] at same
  rw [marks_differences script, (count_hunkMarks _).1, (count_hunkMarks _).2,
    insertedCount_hunks, deletedCount_hunks]
  refine ⟨rfl, rfl, ?_⟩
  induction hunks edits with
  | nil => rfl
  | cons hunk shown inductionHypothesis =>
    rw [List.flatMap_cons, List.count_append, inductionHypothesis, hunkMarks,
      List.count_cons_self, headings, List.length_cons, Nat.zero_add, Nat.add_comm]

/-! ## The first line -/

/-- The numbers of inserted and of deleted lines that the line about another text gives. -/
def statedCounts? (line : List Char) : Option (Nat × Nat) := do
  let shown := visible (afterLast '(' line)
  let inserted ← behind? ['+'] (beforeFirst ',' shown)
  let deleted ← behind? [' ', '-'] (beforeFirst ')' (afterFirst ',' shown))
  some (← number? 10 inserted, ← number? 10 deleted)

/-- The number of lines that the line about a missing file gives. -/
def statedCount? (line : List Char) : Option Nat :=
  number? 10 (beforeFirst ' ' (visible (afterLast '(' line)))

/-- A painted text is seen as it is, when it has no control codes of its own. -/
theorem visible_painted {text : String} (plain : '\x1b' ∉ text.toList) (colors : Bool)
    (style : Style) (rest : List Char) :
    visible ((style.paint colors text).toList ++ rest) = text.toList ++ visible rest := by
  obtain ⟨before, behind, painted⟩ := exists_codes colors style text
  rw [painted, List.append_assoc, List.append_assoc, visible_codes, visible_append plain,
    visible_codes]

/-- A mark that is neither in a text nor in a control code is not in the painted text. -/
theorem not_mem_painted {text : String} (free : c ∉ text.toList)
    (other : c ∉ ['\x1b', '[', 'm']) (digitless : c.isDigit = false) (colors : Bool)
    (style : Style) : c ∉ (style.paint colors text).toList := by
  obtain ⟨before, behind, painted⟩ := exists_codes colors style text
  simp [painted, free, not_mem_codes other digitless]

/-- A number is printed in digits only. -/
theorem not_mem_toString (digitless : c.isDigit = false) (number : Nat) :
    c ∉ (toString number).toList := by
  intro member
  cases digitless.symm.trans (isDigit_of_mem_toString member)

/-- A mark that is not the sign of a number is not in the number. -/
theorem not_mem_signed {sign : String} (other : c ∉ sign.toList) (digitless : c.isDigit = false)
    (number : Nat) : c ∉ (sign ++ toString number).toList := by
  rw [String.toList_append, List.mem_append, not_or]
  exact ⟨other, not_mem_toString digitless number⟩

/-- What is seen of the two counts behind the bracket: signs, digits, a comma and the bracket at the
end. -/
theorem visible_counts (colors : Bool) (inserted deleted : Nat) :
    visible ((green.paint colors ("+" ++ toString inserted)).toList ++ ([',', ' '] ++
        ((red.paint colors ("-" ++ toString deleted)).toList ++ [')', '\n']))) =
      (['+'] ++ (toString inserted).toList) ++ ',' ::
        (([' ', '-'] ++ (toString deleted).toList) ++ ')' :: ['\n']) := by
  have escape (sign : String) (other : '\x1b' ∉ sign.toList) (number : Nat) :
      '\x1b' ∉ (sign ++ toString number).toList := not_mem_signed other (by decide) number
  have ending : visible [')', '\n'] = [')', '\n'] := by simp [visible]
  rw [visible_painted (escape "+" (by decide) inserted), visible_append (by decide),
    visible_painted (escape "-" (by decide) deleted), ending, String.toList_append,
    String.toList_append]
  rfl

/-- The line about another text gives the counts of the change. They are read between the brackets
behind the name of the file, with and without colours. -/
theorem statedCounts?_modifiedLine (change : FileChange) (colors : Bool) :
    statedCounts? (change.modifiedLine colors).toList = some (change.inserted, change.deleted) := by
  have last : LastPiece '(' (change.modifiedLine colors).toList
      ((green.paint colors ("+" ++ toString change.inserted)).toList ++ ([',', ' '] ++
        ((red.paint colors ("-" ++ toString change.deleted)).toList ++ [')', '\n']))) := by
    refine ⟨?_, Or.inr ⟨(yellow.inBold.paint colors "~" ++ " " ++
      plainBold.paint colors change.name ++ " out of date ").toList, ?_⟩⟩
    · have painted (sign : String) (other : '(' ∉ sign.toList) (number : Nat) (style : Style) :
          '(' ∉ (style.paint colors (sign ++ toString number)).toList :=
        not_mem_painted (not_mem_signed other (by decide) number) (by decide) (by decide) colors
          style
      simp only [List.mem_append, not_or]
      exact ⟨painted "+" (by decide) _ _, by decide, painted "-" (by decide) _ _, by decide⟩
    · simp [modifiedLine]
  have comma : ',' ∉ ['+'] ++ (toString change.inserted).toList :=
    List.not_mem_append (by decide) (not_mem_toString (by decide) _)
  have bracket : ')' ∉ [' ', '-'] ++ (toString change.deleted).toList :=
    List.not_mem_append (by decide) (not_mem_toString (by decide) _)
  have sign (signs text : List Char) : behind? signs (signs ++ text) = some text :=
    behind?_eq_some_iff.mpr rfl
  rw [statedCounts?, afterLast_eq_iff.mpr last, visible_counts, (cut_at_first comma _).1,
    (cut_at_first comma _).2, (cut_at_first bracket _).1, sign, sign, Option.bind_eq_bind,
    Option.bind_some, Option.bind_eq_bind, Option.bind_some, number?_toString, number?_toString]
  rfl

/-- The line about a missing file gives the number of lines that would be added, behind its last
bracket. -/
theorem statedCount?_missingLine (change : FileChange) (colors : Bool) :
    statedCount? (change.missingLine colors).toList = some change.inserted := by
  have last : LastPiece '(' (change.missingLine colors).toList
      ((toString change.inserted).toList ++ ' ' :: "lines)\n".toList) := by
    refine ⟨?_, Or.inr ⟨(green.inBold.paint colors "+" ++ " " ++
      plainBold.paint colors change.name ++ " missing ").toList, ?_⟩⟩
    · exact List.not_mem_append (not_mem_toString (by decide) _) (by decide)
    · simp [missingLine]
  have blank : ' ' ∉ (toString change.inserted).toList := not_mem_toString (by decide) _
  rw [statedCount?, afterLast_eq_iff.mpr last, visible_append (not_mem_toString (by decide) _),
    visible, if_neg (by decide), (cut_at_first blank _).1, number?_toString]

/-! ## The report -/

variable {change : FileChange} {existing : String}

/-- The script of a change goes from the text on disk to the generated one. -/
theorem isScript_edits (onDisk : change.existing = some existing) :
    IsScript change.edits (lines existing) (lines change.text) := by
  rw [FileChange.edits, onDisk]
  exact isScript_script _ _

/-- Nothing is counted exactly when the two texts are the same. -/
theorem counts_eq_zero_iff (onDisk : change.existing = some existing) :
    change.inserted = 0 ∧ change.deleted = 0 ↔ existing = change.text := by
  constructor
  · rintro ⟨noneInserted, noneDeleted⟩
    have same := (isScript_edits onDisk).eq_of_unchanged noneInserted noneDeleted
    rw [← join_lines existing, same, join_lines]
  · rintro rfl
    rw [inserted, deleted, FileChange.edits, onDisk]
    exact counts_script_self _

/-- For a missing file every line of the generated text is counted, since the script starts from no
lines. -/
theorem inserted_of_missing (missing : change.existing = none) :
    change.inserted = (lines change.text).length := by
  have script : IsScript change.edits [] (lines change.text) := by
    rw [FileChange.edits, missing]
    exact isScript_script _ _
  have balance := script.counts_balance
  have noneDeleted := script.deletedCount_le
  rw [List.length_nil] at balance noneDeleted
  rw [inserted]
  omega

/-- The counts of a script agree with the texts between which it goes, and with what is printed of
it. -/
structure CountsAgree (colors : Bool) (edits : List (Edit String)) (old new : String) : Prop where
  difference : (insertedCount edits : Int) - deletedCount edits =
    (lines new).length - (lines old).length
  insertions : (marks (differences colors edits).toList).count '+' = insertedCount edits
  deletions : (marks (differences colors edits).toList).count '-' = deletedCount edits
  headed : old ≠ new → 0 < (marks (differences colors edits).toList).count '@'

/-- The counts of any edit script between the lines of two texts agree with what is printed of it.
-/
theorem countsAgree_of_isScript {edits : List (Edit String)} {old new : String}
    (script : IsScript edits (lines old) (lines new)) (colors : Bool) :
    CountsAgree colors edits old new := by
  obtain ⟨insertions, deletions, headings⟩ := count_marks_differences script colors
  refine ⟨?_, insertions, deletions, fun differ => ?_⟩
  · have balance := script.counts_balance
    omega
  · have unequal : lines old ≠ lines new := by
      intro same
      exact differ (by rw [← join_lines old, same, join_lines])
    rw [headings]
    exact List.length_pos_iff.mpr (script.hunks_ne_nil unequal)

/-- There is a report unless the text on disk is the generated one. For a missing file it gives the
number of lines of the generated text. Where a text is on disk, the counts differ as the numbers of
lines do, and both are zero only for the same text; the report of another text gives, in its first
line, as many insertions and deletions as are seen behind it, in hunks, of which there is at least
one. The script that is counted and printed is a valid one, and with any other valid script the
counts would agree in the same way. -/
theorem counts_agree_with_report (change : FileChange) (colors : Bool) :
    (change.kind = .unchanged ↔ change.report? colors = none) ∧
      (change.kind = .unchanged ↔ change.isStale = false) ∧
      (change.existing = none →
        change.report? colors = some (change.missingLine colors) ∧
          statedCount? (change.missingLine colors).toList = some (lines change.text).length) ∧
      ∀ existing, change.existing = some existing →
        (change.inserted : Int) - change.deleted =
            (lines change.text).length - (lines existing).length ∧
          (change.inserted = 0 ∧ change.deleted = 0 ↔ existing = change.text) ∧
          (change.kind = .modified →
            change.report? colors =
                some (change.modifiedLine colors ++ differences colors change.edits) ∧
              statedCounts? (change.modifiedLine colors).toList =
                some ((marks (differences colors change.edits).toList).count '+',
                  (marks (differences colors change.edits).toList).count '-') ∧
              0 < (marks (differences colors change.edits).toList).count '@') ∧
          IsScript change.edits (lines existing) (lines change.text) ∧
          ∀ edits, IsScript edits (lines existing) (lines change.text) →
            CountsAgree colors edits existing change.text := by
  refine ⟨?_, ?_, fun missing => ⟨?_, ?_⟩, fun existing onDisk => ?_⟩
  · unfold report?
    cases change.kind <;> simp
  · simp [isStale]
  · simp [report?, kind, missing]
  · rw [statedCount?_missingLine, inserted_of_missing missing]
  · have agree := countsAgree_of_isScript (isScript_edits onDisk) colors
    refine ⟨agree.difference, counts_eq_zero_iff onDisk, fun modified => ⟨?_, ?_, ?_⟩,
      isScript_edits onDisk, fun edits script => countsAgree_of_isScript script colors⟩
    · simp [report?, modified, differences]
    · rw [statedCounts?_modifiedLine, agree.insertions, agree.deletions]
      rfl
    · refine agree.headed ?_
      rintro rfl
      simp [kind, onDisk] at modified

/-- A text that has other line ends, and at its end one more. -/
def retyped : FileChange where
  name := "List.g.cs"
  text := "one\r\ntwo\rthree\n"
  existing := "one\ntwo\rthree"

/-- Where only line ends differ, the lines are counted, and are seen in the report, in colours
too. -/
theorem retyped_counts : retyped.existing = some "one\ntwo\rthree" ∧ retyped.kind = .modified ∧
    retyped.inserted = 2 ∧
    statedCounts? (retyped.modifiedLine true).toList =
      some ((marks (differences true retyped.edits).toList).count '+',
        (marks (differences true retyped.edits).toList).count '-') := by
  have onDisk : retyped.existing = some "one\ntwo\rthree" := rfl
  have modified : retyped.kind = .modified := by decide
  obtain ⟨-, -, reported, -⟩ := (counts_agree_with_report retyped true).2.2.2 _ onDisk
  exact ⟨onDisk, modified, by decide +kernel, (reported modified).2.1⟩

end FileChange

end TypedClients
