import TypedClients.Proofs.Text.Pieces
import TypedClients.Text.Blank

/-!
# Runs of white space

White space in front of a token is skipped, however much of it there is. A run of it is described
by its characters, so that the empty run is one too.

`Trims` relates a text to what is left when white space is taken from both of its ends. What is left
is the same when more of it is taken.
-/

namespace TypedClients.Text

/-- A run of white space, perhaps empty. -/
def Blanks (text : List Char) : Prop :=
  ∀ c ∈ text, isBlank c = true

/-- A text without characters is blank. -/
@[simp] theorem blanks_nil : Blanks [] := by
  simp [Blanks]

/-- A text is blank when its first character and the rest are. -/
@[simp] theorem blanks_cons {c : Char} {text : List Char} :
    Blanks (c :: text) ↔ isBlank c = true ∧ Blanks text := by
  simp [Blanks]

/-- Blank texts are blank one behind the other. -/
theorem Blanks.append {first second : List Char} (blank : Blanks first) (blanks : Blanks second) :
    Blanks (first ++ second) :=
  List.forall_mem_append.mpr ⟨blank, blanks⟩

/-- A run of white space in front of a text is skipped with the white space of the text. -/
theorem Blanks.skipped {before : List Char} (blank : Blanks before) (text : List Char) :
    skipBlanks (before ++ text) = skipBlanks text :=
  List.dropWhile_append_of_pos blank

/-- A text is what is skipped in front of it, and what is left. -/
theorem exists_skipped (text : List Char) :
    ∃ before, Blanks before ∧ text = before ++ skipBlanks text :=
  ⟨text.takeWhile isBlank, fun _ member => List.mem_takeWhile_imp member,
    List.takeWhile_append_dropWhile.symm⟩

/-- Nothing is skipped in front of a character that is not white space. -/
theorem skipBlanks_of_not_blank {c : Char} {text : List Char} (visible : isBlank c = false) :
    skipBlanks (c :: text) = c :: text := by
  simp [skipBlanks, visible]

/-- A text without the white space around it: it begins and ends with other characters, if there
is anything left of it. -/
structure Trims (text core : List Char) : Prop where
  around : ∃ before after, Blanks before ∧ Blanks after ∧ text = before ++ core ++ after
  first : ∀ c ∈ core.head?, isBlank c = false
  last : ∀ c ∈ core.getLast?, isBlank c = false

/-- White space in front of other characters is all that is skipped. -/
theorem skipBlanks_eq {before rest : List Char} (blank : Blanks before)
    (visible : ∀ c ∈ rest.head?, isBlank c = false) : skipBlanks (before ++ rest) = rest :=
  (cut_behind_run blank visible).2

/-- White space behind other characters is all that is dropped at the end. -/
theorem dropTrailingBlanks_eq {core after : List Char} (blank : Blanks after)
    (visible : ∀ c ∈ core.getLast?, isBlank c = false) :
    dropTrailingBlanks (core ++ after) = core := by
  have reversed : Blanks after.reverse := fun c member => blank c (List.mem_reverse.mp member)
  have skipped : skipBlanks (after.reverse ++ core.reverse) = core.reverse :=
    skipBlanks_eq reversed (by simpa using visible)
  simpa [dropTrailingBlanks, skipBlanks] using congrArg List.reverse skipped

/-- What is left of a text without the white space at its end does not end in white space, and
nothing but white space was dropped. -/
theorem exists_dropped (text : List Char) :
    (∃ after, Blanks after ∧ text = dropTrailingBlanks text ++ after) ∧
      ∀ c ∈ (dropTrailingBlanks text).getLast?, isBlank c = false := by
  obtain ⟨before, blank, split⟩ := exists_skipped text.reverse
  refine ⟨⟨before.reverse, fun c member => blank c (List.mem_reverse.mp member), ?_⟩, ?_⟩
  · simpa [dropTrailingBlanks, skipBlanks] using congrArg List.reverse split
  · intro c member
    have stopped := List.head?_dropWhile_not isBlank text.reverse
    rw [dropTrailingBlanks, List.getLast?_reverse] at member
    simpa [Option.mem_def.mp member] using stopped

/-- A text is trimmed to what is left of it without the white space around it, and there is one way
only to take white space away from both ends. -/
theorem trimBlanks_eq_iff {text core : List Char} : trimBlanks text = core ↔ Trims text core := by
  constructor
  · rintro rfl
    obtain ⟨before, blankBefore, split⟩ := exists_skipped text
    obtain ⟨⟨after, blankAfter, kept⟩, last⟩ := exists_dropped (skipBlanks text)
    refine ⟨⟨before, after, blankBefore, blankAfter, ?_⟩, ?_, last⟩
    · rw [List.append_assoc, trimBlanks, ← kept, ← split]
    · intro c member
      have begins : (text.dropWhile isBlank).head? = some c := by
        change (skipBlanks text).head? = some c
        rw [kept, List.head?_append, ← trimBlanks, Option.mem_def.mp member, Option.some_or]
      have stopped := List.head?_dropWhile_not isBlank text
      simpa [begins] using stopped
  · rintro ⟨⟨before, after, blankBefore, blankAfter, rfl⟩, first, last⟩
    unfold trimBlanks
    cases core with
    | nil =>
      have skipped : skipBlanks (before ++ after ++ []) = [] :=
        skipBlanks_eq (blankBefore.append blankAfter) (by simp)
      simpa [dropTrailingBlanks] using congrArg dropTrailingBlanks skipped
    | cons c core =>
      have visible : ∀ other ∈ (c :: core ++ after).head?, isBlank other = false := by
        simpa using first
      rw [List.append_assoc, skipBlanks_eq blankBefore visible,
        dropTrailingBlanks_eq blankAfter last]

/-- A string without the white space around it is what is left of its text. -/
theorem trims_ofList (text : List Char) : Trims text (String.ofList (trimBlanks text)).toList := by
  rw [String.toList_ofList]
  exact trimBlanks_eq_iff.mp rfl

/-- What is left of a text without the white space around it has only characters of that text. -/
theorem Trims.mem {text core : List Char} (trims : Trims text core) {c : Char}
    (member : c ∈ core) : c ∈ text := by
  obtain ⟨before, after, _, _, rfl⟩ := trims.around
  simp [member]

/-- There is nothing more to trim. -/
theorem Trims.again {text core : List Char} (trims : Trims text core) : Trims core core where
  around := ⟨[], [], blanks_nil, blanks_nil, by simp⟩
  first := trims.first
  last := trims.last

end TypedClients.Text
