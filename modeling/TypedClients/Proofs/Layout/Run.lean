import TypedClients.Proofs.Layout.Lines

/-!
# Pages after whole runs

A page takes any steps up to the first brace that is closed without being open, and stops there.
Up to that point as many braces are open as were opened and not closed again, and the text of the
page is made of the lines of the steps: each with a line feed behind it, and with four blanks in
front of it for each brace around its step, unless it is empty. The brace that a step opens or
closes is not around the step. So the number of blanks in front of each line is known from the
steps alone, and without them the text has the lines that were written.

A run is followed from its beginning, with the steps that were already taken at hand. What a step
does depends on them only through the number of braces that they leave open.
-/

namespace TypedClients.Layout

/-- How many braces are open behind some steps. -/
def openBraces (steps : List Step) : Nat :=
  steps.count .opening - steps.count .closing

/-- No brace is closed that is not open. -/
def Grounded (steps : List Step) : Prop :=
  ∀ before after, steps = before ++ .closing :: after →
    before.count .closing < before.count .opening

/-- A line and how many braces are open around it. -/
structure PlacedLine where
  depth : Nat
  content : List Char

/-- A line as it stands on a page. -/
def PlacedLine.indented (line : PlacedLine) : List Char :=
  if line.content = [] then [] else indentedLine line.depth line.content

/-- The lines that a step writes. -/
def Step.written : Step → List (List Char)
  | .line text => (text.toList.splitOn '\n').map withoutReturn
  | .blank => [[]]
  | .opening => [['{']]
  | .closing => [['}']]

/-- How many braces are open around a step, both before and behind it. -/
def bracesAround (done : List Step) (step : Step) : Nat :=
  min (openBraces done) (openBraces (done ++ [step]))

/-- The lines of some steps, behind steps that were taken before. -/
def placedBehind (done : List Step) : List Step → List PlacedLine
  | [] => []
  | step :: steps =>
    step.written.map (PlacedLine.mk (bracesAround done step)) ++ placedBehind (done ++ [step]) steps

/-- The lines of a run, from its beginning. -/
def placedLines (steps : List Step) : List PlacedLine :=
  placedBehind [] steps

/-- The text of some lines. -/
def printedLines (lines : List PlacedLine) : List Char :=
  unlines (lines.map PlacedLine.indented)

/-! ## Braces that are open -/

section Grounded

variable {steps done : List Step} {step : Step}

/-- No lines return to where they started. -/
theorem grounded_nil : Grounded [] := by
  intro before after split
  cases before <;> cases split

/-- One more step closes no brace that is not open. Only a closing brace asks for one, so it is the
only step with a condition. -/
theorem grounded_concat : Grounded (done ++ [step]) ↔
    Grounded done ∧ (step = .closing → done.count .closing < done.count .opening) := by
  constructor
  · intro grounded
    refine ⟨fun before after split => ?_, ?_⟩
    · exact grounded before (after ++ [step]) (by simp [split])
    · rintro rfl
      exact grounded done [] rfl
  · rintro ⟨grounded, last⟩ before after split
    rcases List.eq_nil_or_concat after with rfl | ⟨others, final, rfl⟩
    · obtain ⟨rfl, same⟩ := List.append_inj' split rfl
      exact last (List.singleton_inj.mp same)
    · have shorter : done ++ [step] = (before ++ .closing :: others) ++ [final] := by
        simpa using split
      exact grounded before others (List.append_inj' shorter rfl).1

/-- What was grounded so far was grounded at every moment. -/
theorem Grounded.of_append {first second : List Step} (grounded : Grounded (first ++ second)) :
    Grounded first := by
  intro before after split
  exact grounded before (after ++ second) (by simp [split])

/-- No more braces are closed than were opened, which is what the condition says of all steps
together. -/
theorem Grounded.count_le (grounded : Grounded steps) :
    steps.count .closing ≤ steps.count .opening := by
  induction steps using List.reverseRecOn with
  | nil => rfl
  | append_singleton steps step inductionHypothesis =>
    obtain ⟨before, last⟩ := grounded_concat.mp grounded
    have bound := inductionHypothesis before
    cases step with
    | closing =>
      have below := last rfl
      simpa [List.count_append, Nat.succ_le_iff] using below
    | opening => simpa [List.count_append] using Nat.le_succ_of_le bound
    | _ => simpa [List.count_append] using bound

/-- The braces that are open behind one more step. -/
theorem openBraces_concat (grounded : Grounded (done ++ [step])) :
    openBraces (done ++ [step]) = match step with
      | .opening => openBraces done + 1
      | .closing => openBraces done - 1
      | _ => openBraces done := by
  have bound := (grounded_concat.mp grounded).1.count_le
  cases step <;> simp [openBraces, List.count_append] <;> omega

/-- Steps that are not grounded have a first closing brace without a brace to close. Those before it
are grounded and have closed whatever they opened. -/
theorem exists_first_ungrounded (ungrounded : ¬ Grounded steps) :
    ∃ before after, steps = before ++ .closing :: after ∧ Grounded before ∧
      before.count .closing = before.count .opening := by
  induction steps using List.reverseRecOn with
  | nil => exact absurd grounded_nil ungrounded
  | append_singleton steps step inductionHypothesis =>
    by_cases grounded : Grounded steps
    · obtain ⟨rfl, last⟩ : step = .closing ∧ ¬ steps.count .closing < steps.count .opening := by
        simpa [grounded_concat, grounded] using ungrounded
      exact ⟨steps, [], rfl, grounded, Nat.le_antisymm grounded.count_le (Nat.le_of_not_lt last)⟩
    · obtain ⟨before, after, rfl, first⟩ := inductionHypothesis grounded
      exact ⟨before, after ++ [step], by simp, first⟩

end Grounded

/-! ## One step -/

/-- Lines that are placed behind others are printed behind them. -/
theorem printedLines_append (first second : List PlacedLine) :
    printedLines (first ++ second) = printedLines first ++ printedLines second := by
  simp [printedLines]

/-- A text at a depth is printed as its lines at that depth. -/
theorem linesAt_eq (depth : Nat) (text : String) :
    linesAt depth text =
      String.ofList (printedLines ((Step.line text).written.map (PlacedLine.mk depth))) := by
  have each (line : List Char) :
      lineAt depth line = (PlacedLine.mk depth line).indented ++ ['\n'] := by
    cases line <;> simp [lineAt, PlacedLine.indented, indentedLine]
  simp only [linesAt, printedLines, unlines, Step.written, List.map_map, List.flatMap_map, each,
    Function.comp_apply]

/-- A brace at a depth is printed as a line of its own. -/
theorem linesAt_brace (depth : Nat) (brace : Char) (visible : brace ≠ '\n' ∧ brace ≠ '\r') :
    linesAt depth (String.ofList [brace]) = String.ofList (printedLines [⟨depth, [brace]⟩]) := by
  have single : [brace].splitOn '\n' = [[brace]] :=
    List.splitOn_eq_singleton (by simpa using visible.1.symm)
  rw [linesAt_eq]
  simp [Step.written, single, withoutReturn, visible.2]

/-- A step behind steps that leave no brace unaccounted for puts its lines on the page, at the depth
that the braces before it make. -/
theorem write_eq {done : List Step} {step : Step} (grounded : Grounded (done ++ [step]))
    (text : String) :
    Page.write ⟨text, openBraces done⟩ step =
      .ok ⟨text ++ String.ofList (printedLines
        (step.written.map (PlacedLine.mk (bracesAround done step)))),
        openBraces (done ++ [step])⟩ := by
  have behind := openBraces_concat grounded
  cases step with
  | line content => simp [Page.write, bracesAround, behind, linesAt_eq]
  | blank =>
    simp [Page.write, bracesAround, behind, Step.written, printedLines, PlacedLine.indented]
  | opening =>
    have brace := linesAt_brace (openBraces done) '{' (by decide)
    simpa [Page.write, bracesAround, behind, Step.written] using brace
  | closing =>
    have below := (grounded_concat.mp grounded).2 rfl
    obtain ⟨outer, opened⟩ : ∃ outer, openBraces done = outer + 1 :=
      Nat.exists_eq_add_one.mpr (Nat.sub_pos_of_lt below)
    have brace := linesAt_brace outer '}' (by decide)
    rw [opened] at behind
    simpa [Page.write, bracesAround, behind, opened, Step.written] using brace

/-! ## A whole run -/

/-- Grounded steps are taken to the last one, whatever was taken before. The induction is on the
steps that are still to be taken. -/
theorem writeAll_eq (done : List Step) {steps : List Step} (grounded : Grounded (done ++ steps))
    (text : String) :
    Page.writeAll ⟨text, openBraces done⟩ steps =
      .ok ⟨text ++ String.ofList (printedLines (placedBehind done steps)),
        openBraces (done ++ steps)⟩ := by
  induction steps generalizing done text with
  | nil => simp [Page.writeAll, placedBehind, printedLines, unlines]
  | cons step steps inductionHypothesis =>
    rw [List.append_cons] at grounded
    have taken := write_eq grounded.of_append text
    rw [Page.writeAll, taken]
    simp only [inductionHypothesis _ grounded]
    simp [placedBehind, printedLines_append, String.append_assoc]

/-- A page that took grounded steps from the beginning. -/
theorem writeAll_of_grounded {steps : List Step} (grounded : Grounded steps) :
    Page.empty.writeAll steps =
      .ok ⟨String.ofList (printedLines (placedLines steps)), openBraces steps⟩ := by
  have run := writeAll_eq [] grounded ""
  rwa [String.empty_append, List.nil_append] at run

/-- A page stops at the first brace that is closed without being open. -/
theorem writeAll_of_ungrounded {before after : List Step} (grounded : Grounded before)
    (none_open : before.count .closing = before.count .opening) :
    Page.empty.writeAll (before ++ .closing :: after) = .error .notOpen := by
  have closed : openBraces before = 0 := by simp [openBraces, none_open]
  rw [Page.writeAll_append_of_ok (writeAll_of_grounded grounded), Page.writeAll, Page.write]
  simp only [closed]

/-! ## The lines that are read again -/

/-- The pieces between line feeds have no line feed in them. The induction is on the text, where one
character either begins a piece or goes to the front of the first. -/
theorem not_mem_of_mem_splitOn {text piece : List Char} (member : piece ∈ text.splitOn '\n') :
    '\n' ∉ piece := by
  induction text generalizing piece with
  | nil => simp_all
  | cons c text inductionHypothesis =>
    rw [List.splitOn_cons_eq_if_modifyHead] at member
    obtain ⟨first, others, pieces⟩ := List.exists_cons_of_ne_nil (List.splitOn_ne_nil '\n' text)
    rw [pieces] at member inductionHypothesis
    split at member
    · rcases List.mem_cons.mp member with rfl | member
      · exact List.not_mem_nil
      · exact inductionHypothesis member
    · rename_i other
      rcases List.mem_cons.mp member with rfl | member
      · have free := inductionHypothesis List.mem_cons_self
        simpa [free] using Ne.symm (by simpa using other)
      · exact inductionHypothesis (List.mem_cons_of_mem _ member)

/-- No line that a step writes has a line feed in it. -/
theorem Step.written_unbroken (step : Step) : ∀ line ∈ step.written, '\n' ∉ line := by
  intro line member
  cases step with
  | line text =>
    obtain ⟨piece, cut, rfl⟩ := List.mem_map.mp member
    have free := not_mem_of_mem_splitOn cut
    unfold withoutReturn
    split
    · exact fun broken => free (List.dropLast_subset _ broken)
    · exact free
  | blank => simp_all [Step.written]
  | opening => simp_all [Step.written]
  | closing => simp_all [Step.written]

/-- A text of lines is cut into these lines again. -/
theorem splitOn_unlines {lines : List (List Char)} (free : ∀ line ∈ lines, '\n' ∉ line) :
    (unlines lines).splitOn '\n' = lines ++ [[]] := by
  induction lines with
  | nil => rfl
  | cons line lines inductionHypothesis =>
    obtain ⟨own, others⟩ := List.forall_mem_cons.mp free
    have spelled : unlines (line :: lines) = line ++ '\n' :: unlines lines := by simp [unlines]
    rw [spelled, List.splitOn_append_cons_self_of_not_mem own, inductionHypothesis others,
      List.cons_append]

/-- The lines of a run are those that its steps write. -/
theorem placedBehind_content (done steps : List Step) :
    (placedBehind done steps).map PlacedLine.content = steps.flatMap Step.written := by
  induction steps generalizing done with
  | nil => rfl
  | cons step steps inductionHypothesis =>
    simp [placedBehind, inductionHypothesis, Function.comp_def]

/-- Indentation is taken away by its length. -/
theorem PlacedLine.drop_indented (line : PlacedLine) :
    line.indented.drop (4 * line.depth) = line.content := by
  unfold PlacedLine.indented
  split
  · rename_i empty
    rw [List.drop_nil, empty]
  · simp [indentedLine]

/-- A placed line stays on its line when it is indented. -/
theorem PlacedLine.indented_unbroken {line : PlacedLine} (free : '\n' ∉ line.content) :
    '\n' ∉ line.indented := by
  unfold PlacedLine.indented
  split
  · exact List.not_mem_nil
  · simp [indentedLine, List.mem_replicate, free]

/-- The text of a run is cut into its lines again, with an empty piece behind the last line feed, so
that the lines can be told from the text alone. -/
theorem splitOn_printedLines (steps : List Step) :
    (printedLines (placedLines steps)).splitOn '\n' =
      (placedLines steps).map PlacedLine.indented ++ [[]] := by
  refine splitOn_unlines fun indented member => ?_
  obtain ⟨line, placed, rfl⟩ := List.mem_map.mp member
  refine PlacedLine.indented_unbroken ?_
  have content : line.content ∈ steps.flatMap Step.written := by
    rw [← placedBehind_content [] steps]
    exact List.mem_map_of_mem placed
  obtain ⟨step, _, written⟩ := List.mem_flatMap.mp content
  exact step.written_unbroken _ written

/-- What the run of some steps on an empty page comes to. -/
structure WrittenOut (steps : List Step) : Prop where
  /-- Grounded steps are taken, and no others. -/
  taken : ∀ page, Page.empty.writeAll steps = .ok page ↔ Grounded steps ∧
    page = ⟨String.ofList (printedLines (placedLines steps)), openBraces steps⟩
  /-- A run stops only at the first brace that is closed while none is open. -/
  stopped : ∀ fault, Page.empty.writeAll steps = .error fault ↔ fault = .notOpen ∧
    ∃ before after, steps = before ++ .closing :: after ∧ Grounded before ∧
      before.count .closing = before.count .opening
  counted : Grounded steps → openBraces steps + steps.count .closing = steps.count .opening
  /-- A text is finished when no brace is open. -/
  finished : ∀ text, render steps = .ok text ↔ Grounded steps ∧ openBraces steps = 0 ∧
    text = String.ofList (printedLines (placedLines steps))
  /-- A text that is not finished is refused with the number of braces that are open. -/
  unfinished : ∀ depth, render steps = .error (.leftOpen depth) ↔
    Grounded steps ∧ 0 < depth ∧ depth = openBraces steps
  /-- The lines of the text, without the blanks in front of them, are those that the steps write. -/
  readBack : ∃ lines, (printedLines (placedLines steps)).splitOn '\n' = lines ++ [[]] ∧
    lines.zipWith (fun line placed => line.drop (4 * placed.depth)) (placedLines steps) =
      steps.flatMap Step.written

/-- Every run is written out: the page takes the steps until a brace is closed that is not open,
counts the braces that are open, and holds the lines of the steps, each indented by the braces
around it. -/
theorem runs_are_written_out (steps : List Step) : WrittenOut steps := by
  -- What a page makes of the steps is decided by whether they are grounded, and so is each clause.
  have run : Grounded steps ∧ Page.empty.writeAll steps =
        .ok ⟨String.ofList (printedLines (placedLines steps)), openBraces steps⟩ ∨
      ¬ Grounded steps ∧ Page.empty.writeAll steps = .error .notOpen := by
    by_cases grounded : Grounded steps
    · exact Or.inl ⟨grounded, writeAll_of_grounded grounded⟩
    · obtain ⟨before, after, rfl, first, none_open⟩ := exists_first_ungrounded grounded
      exact Or.inr ⟨grounded, writeAll_of_ungrounded first none_open⟩
  constructor
  case taken =>
    intro page
    rcases run with ⟨grounded, result⟩ | ⟨ungrounded, result⟩
    · simp [result, grounded, eq_comm]
    · simp [result, ungrounded]
  case stopped =>
    intro fault
    constructor
    · intro refused
      rcases run with ⟨_, result⟩ | ⟨ungrounded, result⟩
      · rw [result] at refused
        cases refused
      · rw [result] at refused
        exact ⟨(Except.error.inj refused).symm, exists_first_ungrounded ungrounded⟩
    · rintro ⟨rfl, before, after, rfl, first, none_open⟩
      exact writeAll_of_ungrounded first none_open
  case counted =>
    intro grounded
    exact Nat.sub_add_cancel grounded.count_le
  case finished =>
    intro text
    rcases run with ⟨grounded, result⟩ | ⟨ungrounded, result⟩
    · by_cases closed : openBraces steps = 0 <;>
        simp [render, result, Page.finish, grounded, closed, eq_comm]
    · simp [render, result, ungrounded]
  case unfinished =>
    intro depth
    rcases run with ⟨grounded, result⟩ | ⟨ungrounded, result⟩
    · by_cases closed : openBraces steps = 0
      · simp only [render, result, Page.finish, closed]
        simp [Nat.pos_iff_ne_zero]
      · simp only [render, result, Page.finish, closed, if_false, Except.error.injEq,
          Fault.leftOpen.injEq, grounded, true_and]
        omega
    · simp [render, result, ungrounded]
  case readBack =>
    refine ⟨(placedLines steps).map PlacedLine.indented, splitOn_printedLines steps, ?_⟩
    rw [← placedBehind_content [] steps, List.zipWith_map_left, List.zipWith_self]
    exact List.map_congr_left fun line _ => line.drop_indented

/-- A text of several lines between braces, with a carriage return and an empty line in it; and a
run that closes a brace too many. -/
theorem runs_with_braces :
    Grounded [.opening, .line "a\r\n\nb", .closing] ∧
      render [.opening, .line "a\r\n\nb", .closing] = .ok "\x7b\n    a\n\n    b\n\x7d\n" ∧
      Grounded [.opening, .closing] ∧ ¬ Grounded [.opening, .closing, .closing, .opening] := by
  have written : render [.opening, .line "a\r\n\nb", .closing] =
      .ok "\x7b\n    a\n\n    b\n\x7d\n" := by decide +kernel
  have taken : Page.empty.writeAll [.opening, .closing] =
      .ok ⟨"\x7b\n\x7d\n", 0⟩ := by decide +kernel
  have refused : Page.empty.writeAll [.opening, .closing, .closing, .opening] =
      .error .notOpen := by decide +kernel
  refine ⟨(((runs_are_written_out _).finished _).mp written).1, written,
    (((runs_are_written_out _).taken _).mp taken).1, fun grounded => ?_⟩
  have other := ((runs_are_written_out _).taken _).mpr ⟨grounded, rfl⟩
  rw [refused] at other
  cases other

end TypedClients.Layout
