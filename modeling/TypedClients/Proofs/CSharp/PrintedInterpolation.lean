import Mathlib.Data.List.Induction
import TypedClients.CSharp.Printer
import TypedClients.Proofs.CSharp.Escape

/-!
# Reading what was printed as an interpolated string

The text of a string is printed character by character, and is read as that text unless it has one
of three rare line ends in it. A format is printed as it is given. It is read as that format
exactly when each of its characters stands for itself: a mark in it is read as a part of an
escape, as the end of the hole or not at all, and nothing behind it can make up for that.

The parts are read from the first to the last, and each is read whatever comes behind it, apart from
a format: a closing brace directly behind one would be taken for a part of it, which is why the
parts have to be `Separated`.
-/

namespace TypedClients.CSharp

/-! ## Printed characters -/

/-- The line ends for which no escape is printed. -/
def rareLineEnds : List Char :=
  ['\u0085', '\u2028', '\u2029']

/-- For the other line ends there is one. -/
theorem mem_escapedMarks_or_rare {c : Char} (ending : c ∈ lineEnds) :
    c ∈ escapedMarks ∨ c ∈ rareLineEnds := by
  simp only [lineEnds, List.mem_cons, List.not_mem_nil, or_false] at ending
  rcases ending with rfl | rfl | rare
  · simp [escapedMarks]
  · simp [escapedMarks]
  · exact Or.inr (by simpa [rareLineEnds] using rare)

/-- What is printed for a character is read as that character, unless it is a rare line end. -/
theorem readChar?_printedChar {c : Char} (usual : c ∉ rareLineEnds) (rest : List Char) :
    readChar? (printedChar c ++ rest) = some (c, rest) := by
  rw [← readTextChar?_lineEnds]
  exact readTextChar?_printedChar
    (fun barred => (mem_escapedMarks_or_rare barred).resolve_right usual) rest

/-! ## Printed formats -/

/-- What is read of a format, once it has fallen behind the text by some marks, never comes level
with the text again: a mark that is missing is only read where the text has it twice, and then two
more of them are missing. -/
theorem readFormat?_stays_behind {mark : Char} (marked : mark ∈ doubledMarks) {tail : List Char}
    (single : tail.head? ≠ some '}') (format : List Char) (count : ℕ) (rest : List Char) :
    readFormat? (format ++ '}' :: tail) ≠
      some (List.replicate (count + 1) mark ++ format, rest) := by
  -- Each mark that is read takes two characters, hence the steps of two.
  induction format using List.twoStepInduction generalizing count with
  | nil =>
    intro read
    obtain ⟨_, found, _⟩ := readFormat?_eq_some_cons.mp read
    obtain ⟨rfl, rfl⟩ := by simpa using readChar?_doubledMark marked found
    simp at single
  | singleton c =>
    intro read
    simp only [List.replicate_succ, List.cons_append, List.nil_append] at read
    obtain ⟨left, found, readOthers⟩ := readFormat?_eq_some_cons.mp read
    obtain ⟨rfl, rfl, rfl⟩ := by simpa using readChar?_doubledMark marked found
    -- The mark is the brace that was to close the hole, and a brace is still missing.
    have again : List.replicate count '}' ++ ['}'] = '}' :: List.replicate count '}' := by
      rw [← List.replicate_succ', List.replicate_succ]
    rw [again] at readOthers
    obtain ⟨_, foundAgain, _⟩ := readFormat?_eq_some_cons.mp readOthers
    simp [readChar?_doubledMark marked foundAgain] at single
  | cons_cons a b format inductionHypothesis _ =>
    intro read
    simp only [List.replicate_succ, List.cons_append] at read
    obtain ⟨left, found, readOthers⟩ := readFormat?_eq_some_cons.mp read
    obtain ⟨twice, again, rfl⟩ := by simpa using readChar?_doubledMark marked found
    have further : List.replicate count mark ++ a :: b :: format =
        List.replicate (count + 1 + 1) mark ++ format := by
      simp [List.replicate_succ', twice, again]
    rw [further] at readOthers
    exact inductionHypothesis (count + 1) readOthers

/-- A printed format is read as the format exactly when each of its characters stands for itself.
Directly behind it there must be no other closing brace. -/
theorem readFormat?_printed {tail : List Char} (single : tail.head? ≠ some '}')
    (format rest : List Char) :
    readFormat? (format ++ '}' :: tail) = some (format, rest) ↔
      (∀ c ∈ format, StandsForItself c) ∧ rest = tail := by
  induction format with
  | nil =>
    rw [List.nil_append, readFormat?_eq_some_nil]
    constructor
    · rintro ⟨same, _⟩
      exact ⟨by simp, (List.cons.inj same).2.symm⟩
    · rintro ⟨_, rfl⟩
      exact ⟨rfl, single⟩
  | cons c format inductionHypothesis =>
    rw [List.cons_append, readFormat?_eq_some_cons, List.forall_mem_cons, and_assoc,
      ← inductionHypothesis]
    constructor
    · rintro ⟨left, found, readOthers⟩
      rcases standsForItself_of_readChar? found with stands | marked
      · obtain rfl : format ++ '}' :: tail = left := by
          simpa [readChar?_of_standsForItself stands] using found
        exact ⟨stands, readOthers⟩
      · -- The character is a mark, so that the text has it twice and the format falls behind.
        exfalso
        have doubled := readChar?_doubledMark marked found
        cases format with
        | nil =>
          obtain ⟨rfl, rfl⟩ := by simpa using doubled
          simp [(readFormat?_eq_some_nil.mp readOthers).1] at single
        | cons next format =>
          obtain ⟨rfl, rfl⟩ := by simpa using doubled
          exact readFormat?_stays_behind marked single format 0 rest readOthers
    · rintro ⟨stands, readOthers⟩
      exact ⟨_, readChar?_of_standsForItself stands _, readOthers⟩

/-! ## Printed strings -/

/-- What is to be found where a part is printed. -/
def InterpolationPart.elements : InterpolationPart → List Element
  | .text value => value.toList.map .char
  | .hole name format => [.hole name.toList (format.map String.toList)]

/-- Whether a part is printed so that it is read as what it is for. -/
def InterpolationPart.Readable : InterpolationPart → Prop
  | .text value => ∀ c ∈ value.toList, c ∉ rareLineEnds
  | .hole _ none => True
  | .hole _ (some format) => format ≠ "" ∧ ∀ c ∈ format.toList, StandsForItself c

instance : DecidablePred InterpolationPart.Readable
  | .text value => List.decidableBAll (· ∉ rareLineEnds) value.toList
  | .hole _ none => inferInstanceAs (Decidable True)
  | .hole _ (some format) =>
    @instDecidableAnd _ _ inferInstance (List.decidableBAll StandsForItself format.toList)

/-- Whether the hole of a part has an identifier as its name. -/
def InterpolationPart.Named (alphabet : NameAlphabet) : InterpolationPart → Prop
  | .text _ => True
  | .hole name _ => alphabet.IsIdentifier name.toList

/-- The text of parts one after the other. -/
def printedParts (parts : List InterpolationPart) : List Char :=
  parts.flatMap fun part => part.print.toList

/-- No closing brace is printed directly behind a format. It would be taken for a part of it. -/
def Separated : List InterpolationPart → Prop
  | [] => True
  | .hole _ (some _) :: parts => (printedParts parts).head? ≠ some '}' ∧ Separated parts
  | _ :: parts => Separated parts

variable {alphabet : NameAlphabet} {text rest : List Char} {found : List Element}

/-- What is printed for a character is the next element of the string, unless it is a rare line
end. -/
theorem readElement?_printedChar (c : Char) (left : List Char) :
    readElement? alphabet (printedChar c ++ text) = some (.char c, left) ↔
      c ∉ rareLineEnds ∧ left = text := by
  by_cases rare : c ∈ rareLineEnds
  · have unread : readElement? alphabet (printedChar c ++ text) = none := by
      simp only [rareLineEnds, List.mem_cons, List.not_mem_nil, or_false] at rare
      rcases rare with rfl | rfl | rfl <;> rfl
    simp [unread, rare]
  · simp [readElement?, readChar?_printedChar rare, rare, eq_comm]

/-- The printed text of a string is read as that text, unless it has a rare line end in it, where
the reading stops. What is behind the text is read on its own. -/
theorem readElements?_printedText {value : List Char} :
    readElements? alphabet (value.flatMap printedChar ++ text) =
        some (value.map .char ++ found, rest) ↔
      (∀ c ∈ value, c ∉ rareLineEnds) ∧ readElements? alphabet text = some (found, rest) := by
  induction value with
  | nil => simp
  | cons c value inductionHypothesis =>
    rw [List.flatMap_cons, List.append_assoc, List.map_cons, List.cons_append,
      List.forall_mem_cons, and_assoc, ← inductionHypothesis]
    exact readElements?_of_first (readElement?_printedChar c)

/-- A hole without a format is read as it is printed. -/
theorem readElement?_plainHole {name : List Char} (named : alphabet.IsIdentifier name)
    (left : List Char) :
    readElement? alphabet ('{' :: (name ++ '}' :: text)) = some (.hole name none, left) ↔
      True ∧ left = text := by
  rw [← readPart?_lineEnds, readPart?_plainHole named]
  simp [eq_comm]

/-- A hole with a format is read as it is printed exactly when there is a format and each of its
characters stands for itself. -/
theorem readElement?_formattedHole {name : List Char} (named : alphabet.IsIdentifier name)
    (single : text.head? ≠ some '}') (format left : List Char) :
    readElement? alphabet ('{' :: (name ++ ':' :: (format ++ '}' :: text))) =
        some (.hole name (some format), left) ↔
      (format ≠ [] ∧ ∀ c ∈ format, StandsForItself c) ∧ left = text := by
  have ends : ∀ c ∈ (':' :: (format ++ '}' :: text)).head?, alphabet.continues c = false := by
    simp [alphabet.continues_ascii]
  rw [and_assoc, ← readFormat?_printed single, readElement?_hole named ends, ← readHoleEnd?_colon]
  simp

/-- Text is printed character by character. -/
theorem toList_print_text (value : String) :
    (InterpolationPart.text value).print.toList = value.toList.flatMap printedChar := by
  simp only [InterpolationPart.print, escapedInterpolated, escaped, String.toList_ofList,
    List.flatMap_assoc]
  rfl

/-- A hole without a format is printed as its name in braces. -/
theorem toList_print_plainHole (name : String) :
    (InterpolationPart.hole name none).print.toList = '{' :: (name.toList ++ ['}']) := by
  simp [InterpolationPart.print]

/-- A format is printed as it is, behind a colon. -/
theorem toList_print_formattedHole (name format : String) :
    (InterpolationPart.hole name (some format)).print.toList =
      '{' :: (name.toList ++ ':' :: (format.toList ++ ['}'])) := by
  simp [InterpolationPart.print]

/-- The printed parts of a string are read as what they are for exactly when each of them is
printed readably. The induction is on the parts; where one is not readable, what is read goes
wrong at it, whatever is behind it. -/
theorem readElements?_printedParts {parts : List InterpolationPart}
    (named : ∀ part ∈ parts, part.Named alphabet) (separated : Separated parts) :
    readElements? alphabet (printedParts parts ++ '"' :: rest) =
        some (parts.flatMap InterpolationPart.elements, rest) ↔
      ∀ part ∈ parts, part.Readable := by
  induction parts with
  | nil => simp [printedParts, readElements?_quote]
  | cons part parts inductionHypothesis =>
    obtain ⟨first, others⟩ := List.forall_mem_cons.mp named
    rw [List.forall_mem_cons, printedParts, List.flatMap_cons, List.flatMap_cons,
      List.append_assoc]
    match part with
    | .text value =>
      rw [← inductionHypothesis others separated, toList_print_text]
      exact readElements?_printedText
    | .hole name none =>
      rw [← inductionHypothesis others separated, toList_print_plainHole]
      simpa [printedParts, InterpolationPart.elements, InterpolationPart.Readable] using
        readElements?_of_first (readElement?_plainHole first)
    | .hole name (some format) =>
      rw [← inductionHypothesis others separated.2, toList_print_formattedHole]
      have single : (printedParts parts ++ '"' :: rest).head? ≠ some '}' := by
        cases printed : printedParts parts with
        | nil => simp
        | cons c behind => simpa [printed] using separated.1
      simpa [printedParts, InterpolationPart.elements, InterpolationPart.Readable] using
        readElements?_of_first (readElement?_formattedHole first single format.toList)

/-- A printed interpolated string, with anything behind it, is read to its last quote and as what
its parts are for exactly when each of the parts is printed readably. -/
theorem readInterpolated?_print {parts : List InterpolationPart}
    (named : ∀ part ∈ parts, part.Named alphabet) (separated : Separated parts) :
    readInterpolated? alphabet ((Expr.interpolated parts).print.toList ++ rest) =
        some (parts.flatMap InterpolationPart.elements, rest) ↔
      ∀ part ∈ parts, part.Readable := by
  have printed : (Expr.interpolated parts).print.toList ++ rest =
      '$' :: '"' :: (printedParts parts ++ '"' :: rest) := by
    simp [Expr.print, printedParts, List.flatMap_map]
  rw [printed]
  exact readElements?_printedParts named separated

end TypedClients.CSharp
