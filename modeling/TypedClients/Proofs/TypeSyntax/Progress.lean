import TypedClients.Proofs.Text.Digits
import TypedClients.Proofs.Text.Pieces
import TypedClients.Proofs.TypeSyntax.Reading

/-!
# How far a type is read

Whatever reads a type moves forward: a type takes at least one character of the text, its arguments
take at least as much, and what is left is an end of the text. So the bound on the steps is never
what stops a reader that starts with more of them than the text has characters: any two such bounds
come to the same result, be it a type or a fault.

A fault is about the place where the reading stopped, which is a place in the text. The offset that
one of them gives is that of the character it names, and the text in front of it is a type.
-/

namespace TypedClients.TypeSyntax

open Text

variable {text rest : List Char}

/-! ## Progress -/

/-- Skipping white space does not make a text longer. -/
theorem skipBlanks_length_le (text : List Char) : (skipBlanks text).length ≤ text.length :=
  (List.dropWhile_suffix isBlank).length_le

/-- A name takes at least one character. -/
theorem readName_progress {name : String} (read : readName text = .ok (name, rest)) :
    rest.length < text.length := by
  obtain ⟨run, rfl, named, _⟩ := readName_spells read
  have long := List.length_pos_iff.mpr named.nonempty
  rw [List.length_append]
  omega

/-- A type is spelled with at least one character. -/
theorem Spells.type_ne_nil {front : List Char} {type : TypeSyntax}
    (spelled : Spells front (.type type)) : front ≠ [] := by
  cases spelled with
  | type _ named =>
    intro none
    simp only [List.append_eq_nil_iff] at none
    exact named.nonempty none.2.1

/-- A type takes at least one character, and leaves the text behind it. -/
theorem readType_progress {steps : Nat} {type : TypeSyntax}
    (read : readType steps text = .ok (type, rest)) : ∃ used, used ≠ [] ∧ text = used ++ rest := by
  obtain ⟨front, split, spelled⟩ := (readType_spells steps).1 _ _ _ read
  exact ⟨front, spelled.type_ne_nil, split⟩

/-- To read a type takes at least one character. -/
theorem readType_length_lt {steps : Nat} {type : TypeSyntax}
    (read : readType steps text = .ok (type, rest)) : rest.length < text.length := by
  obtain ⟨used, some, rfl⟩ := readType_progress read
  have long := List.length_pos_iff.mpr some
  rw [List.length_append]
  omega

/-! ## Steps -/

/-- Where there are more steps than characters, it does not matter how many. The induction is on
the steps; arguments are read from the same text as the first of them, and take one step more. -/
theorem readType_steps (steps : Nat) :
    (∀ other text, text.length < steps → text.length < other →
      readType steps text = readType other text) ∧
    (∀ other text, text.length + 1 < steps → text.length + 1 < other →
      readArguments steps text = readArguments other text) := by
  induction steps with
  | zero =>
    refine ⟨fun other text enough => absurd enough (Nat.not_lt_zero _), fun other text enough => ?_⟩
    exact absurd enough (Nat.not_lt_zero _)
  | succ steps inductionHypothesis =>
    obtain ⟨types, lists⟩ := inductionHypothesis
    constructor
    · intro other text enough alsoEnough
      obtain ⟨other, rfl⟩ := Nat.exists_eq_add_one_of_ne_zero (Nat.ne_zero_of_lt alsoEnough)
      rw [readType, readType]
      cases name_read : readName (skipBlanks text) with
      | error fault => rfl
      | ok named =>
        obtain ⟨name, behind⟩ := named
        have name_used := readName_progress name_read
        have blanks := skipBlanks_length_le text
        have more_blanks := skipBlanks_length_le behind
        simp only
        split
        · rename_i inside opened
          rw [opened, List.length_cons] at more_blanks
          rw [lists other inside (by omega) (by omega)]
        · rfl
    · intro other text enough alsoEnough
      obtain ⟨other, rfl⟩ := Nat.exists_eq_add_one_of_ne_zero (Nat.ne_zero_of_lt alsoEnough)
      rw [readArguments, readArguments, types other text (by omega) (by omega)]
      cases argument_read : readType other text with
      | error fault => rfl
      | ok argument =>
        obtain ⟨type, behind⟩ := argument
        have used := readType_length_lt argument_read
        have blanks := skipBlanks_length_le behind
        simp only
        split
        · rename_i others comma
          rw [comma, List.length_cons] at blanks
          rw [lists other others (by omega) (by omega)]
        all_goals rfl

/-! ## Faults and where they are -/

/-- A text that is used up, or goes on with a visible character. -/
def BeginsVisibly (text : List Char) : Prop :=
  ∀ c ∈ text.head?, isBlank c = false

/-- What a fault says of the place where a reader of a type stopped: of what it had used, and of
what was left. No such reader minds what stands behind the type. -/
def Fault.StopsAt (used left : List Char) : Fault → Prop
  | .nameExpected found => left.head? = found ∧ EndsName left ∧ BeginsVisibly left
  | .nameInvalid name =>
    (∃ before, used = before ++ name.toList) ∧ EndsName left ∧ ¬ IsTypeName name.toList
  | .argumentsUnterminated => left = []
  | .argumentUnexpected found =>
    left.head? = some found ∧ BeginsVisibly left ∧ found ≠ ',' ∧ found ≠ '>'
  | .bracketExpected found => left.head? = found ∧ BeginsVisibly left ∧ found ≠ some ']'
  | .trailing .. => False

/-- A fault is about a place in a text. -/
def Fault.IsIn (fault : Fault) (text : List Char) : Prop :=
  ∃ used left, text = used ++ left ∧ fault.StopsAt used left

/-- A place in a text is one in every text that ends with it. -/
theorem Fault.IsIn.behind {fault : Fault} (inside : fault.IsIn text) (before : List Char) :
    fault.IsIn (before ++ text) := by
  obtain ⟨used, left, rfl, stops⟩ := inside
  refine ⟨before ++ used, left, (List.append_assoc _ _ _).symm, ?_⟩
  cases fault with
  | nameInvalid name =>
    obtain ⟨⟨front, rfl⟩, others⟩ := stops
    exact ⟨⟨before ++ front, (List.append_assoc _ _ _).symm⟩, others⟩
  | _ => exact stops

/-- A place behind the white space of a text is one in the text. -/
theorem Fault.IsIn.of_skipBlanks {fault : Fault} (inside : fault.IsIn (skipBlanks text)) :
    fault.IsIn text := by
  obtain ⟨before, _, whole⟩ := exists_skipped text
  rw [whole]
  exact inside.behind before

/-- What is left when white space is skipped does not begin with any. -/
theorem beginsVisibly_skipBlanks (text : List Char) : BeginsVisibly (skipBlanks text) := by
  intro c first
  have stopped := List.head?_dropWhile_not isBlank text
  rw [← skipBlanks, Option.mem_def.mp first] at stopped
  simpa using stopped

/-- A fault in reading a name is in the text, at the place where the name was expected. What was
read up to there is no name, and nothing behind it could be a part of it. -/
theorem readName_fault {fault : Fault} (visible : BeginsVisibly text)
    (failed : readName text = .error fault) : fault.IsIn text := by
  have ends : EndsName (text.dropWhile isNameChar) := by
    intro c first
    simpa [Option.mem_def.mp first] using List.head?_dropWhile_not isNameChar text
  have whole : text = text.takeWhile isNameChar ++ text.dropWhile isNameChar :=
    List.takeWhile_append_dropWhile.symm
  simp only [readName] at failed
  split at failed
  · rename_i empty
    obtain rfl := Except.error.inj failed
    have unused : text.dropWhile isNameChar = text := by
      rw [List.isEmpty_iff.mp empty, List.nil_append] at whole
      exact whole.symm
    rw [unused] at ends ⊢
    exact ⟨[], text, rfl, rfl, ends, visible⟩
  · split at failed
    · cases failed
    · rename_i refused
      obtain rfl := Except.error.inj failed
      refine ⟨_, _, whole, ⟨[], by simp⟩, ends, fun rule => refused ?_⟩
      simpa using (isTypeName_iff.mp rule).2.2

/-- The faults of suffixes and of a closing bracket are about places in what was left. A bracket is
looked for behind white space, so that the place is that of the first visible character. -/
theorem readSuffixes_fault (text : List Char) :
    (∀ base fault, readSuffixes base text = .error fault → fault.IsIn text) ∧
    (∀ base fault, readClosingBracket base text = .error fault → fault.IsIn text) := by
  induction text with
  | nil =>
    constructor
    · intro base fault failed
      cases failed
    · intro base fault failed
      obtain rfl := Except.error.inj failed
      exact ⟨[], [], rfl, rfl, by simp [BeginsVisibly], by simp⟩
  | cons c text inductionHypothesis =>
    obtain ⟨suffixes, bracket⟩ := inductionHypothesis
    constructor
    · intro base fault failed
      rw [readSuffixes] at failed
      split at failed
      · exact (suffixes base fault failed).behind [c]
      · split at failed
        · exact (suffixes _ fault failed).behind [c]
        · split at failed
          · exact (bracket base fault failed).behind [c]
          · cases failed
    · intro base fault failed
      rw [readClosingBracket] at failed
      split at failed
      · exact (bracket base fault failed).behind [c]
      · rename_i visible
        split at failed
        · exact (suffixes _ fault failed).behind [c]
        · rename_i other
          obtain rfl := Except.error.inj failed
          exact ⟨[], c :: text, rfl, rfl, by simpa [BeginsVisibly] using visible,
            by simpa using other⟩

/-- A fault in a type is in its name, among its arguments or behind these. What is read of the
arguments is allowed one step less. -/
theorem readType_fault_of {steps : Nat} {fault : Fault}
    (lists : ∀ text fault, text.length + 1 < steps → readArguments steps text = .error fault →
      fault.IsIn text)
    (enough : text.length < steps + 1) (failed : readType (steps + 1) text = .error fault) :
    fault.IsIn text := by
  rw [readType] at failed
  refine Fault.IsIn.of_skipBlanks ?_
  split at failed
  · rename_i name_failed
    obtain rfl := Except.error.inj failed
    exact readName_fault (beginsVisibly_skipBlanks text) name_failed
  · rename_i name behind name_read
    obtain ⟨run, split_name, _⟩ := readName_spells name_read
    have name_used := readName_progress name_read
    have blanks := skipBlanks_length_le text
    have more_blanks := skipBlanks_length_le behind
    rw [split_name]
    refine Fault.IsIn.behind (Fault.IsIn.of_skipBlanks ?_) run
    split at failed
    · rename_i inside opened
      rw [opened, List.length_cons] at more_blanks
      rw [opened]
      split at failed
      · rename_i inside_failed
        obtain rfl := Except.error.inj failed
        exact (lists inside _ (by omega) inside_failed).behind ['<']
      · rename_i arguments left arguments_read
        obtain ⟨front, rfl, _⟩ := (readType_spells steps).2 _ _ _ arguments_read
        have later := (readSuffixes_fault left).1 _ fault failed
        have spelled : '<' :: (front ++ '>' :: left) = ('<' :: (front ++ ['>'])) ++ left := by
          simp
        rw [spelled]
        exact later.behind _
    · exact (readSuffixes_fault (skipBlanks behind)).1 _ fault failed

/-- A fault in a list of arguments is in its first one, among the others, or at the character behind
the first one that neither goes on with the list nor closes it. -/
theorem readArguments_fault_of {steps : Nat} {fault : Fault}
    (types : ∀ text fault, text.length < steps → readType steps text = .error fault →
      fault.IsIn text)
    (lists : ∀ text fault, text.length + 1 < steps → readArguments steps text = .error fault →
      fault.IsIn text)
    (enough : text.length + 1 < steps + 1)
    (failed : readArguments (steps + 1) text = .error fault) : fault.IsIn text := by
  rw [readArguments] at failed
  split at failed
  · rename_i argument_failed
    obtain rfl := Except.error.inj failed
    exact types text _ (by omega) argument_failed
  · rename_i argument behind argument_read
    obtain ⟨used, _, split_type⟩ := readType_progress argument_read
    have type_used := readType_length_lt argument_read
    have blanks := skipBlanks_length_le behind
    have visible := beginsVisibly_skipBlanks behind
    rw [split_type]
    refine Fault.IsIn.behind (Fault.IsIn.of_skipBlanks ?_) used
    split at failed
    · rename_i others comma
      rw [comma, List.length_cons] at blanks
      rw [comma]
      split at failed
      · rename_i others_failed
        obtain rfl := Except.error.inj failed
        exact (lists others _ (by omega) others_failed).behind [',']
      · cases failed
    · cases failed
    · rename_i c left no_comma no_close found
      obtain rfl := Except.error.inj failed
      rw [found] at visible ⊢
      exact ⟨[], c :: left, rfl, rfl, visible, no_comma, no_close⟩
    · rename_i none
      obtain rfl := Except.error.inj failed
      rw [none]
      exact ⟨[], [], rfl, rfl⟩

/-- The faults of types and arguments are about places in the text, where there are steps enough
for it. -/
theorem readType_fault (steps : Nat) :
    (∀ text fault, text.length < steps → readType steps text = .error fault → fault.IsIn text) ∧
    (∀ text fault, text.length + 1 < steps → readArguments steps text = .error fault →
      fault.IsIn text) := by
  induction steps with
  | zero =>
    refine ⟨fun text fault enough => absurd enough (Nat.not_lt_zero _), fun text fault enough => ?_⟩
    exact absurd enough (Nat.not_lt_zero _)
  | succ steps inductionHypothesis =>
    obtain ⟨types, lists⟩ := inductionHypothesis
    exact ⟨fun _ _ => readType_fault_of lists, fun _ _ => readArguments_fault_of types lists⟩

/-! ## Texts that go on behind a type -/

/-- Suffixes are read up to a visible character, since white space between two of them is passed
over, and white space behind the last one as well. -/
theorem readSuffixes_visible (text : List Char) :
    (∀ base type rest, readSuffixes base text = .ok (type, rest) → BeginsVisibly rest) ∧
    (∀ base type rest, readClosingBracket base text = .ok (type, rest) → BeginsVisibly rest) := by
  induction text with
  | nil =>
    constructor
    · intro base type rest read
      obtain ⟨_, rfl⟩ := by simpa [readSuffixes] using read
      simp [BeginsVisibly]
    · intro base type rest read
      cases read
  | cons c text inductionHypothesis =>
    obtain ⟨suffixes, bracket⟩ := inductionHypothesis
    constructor
    · intro base type rest read
      rw [readSuffixes] at read
      split at read
      · exact suffixes _ _ _ read
      · rename_i visible
        split at read
        · exact suffixes _ _ _ read
        · split at read
          · exact bracket _ _ _ read
          · obtain ⟨_, rfl⟩ := by simpa using read
            simpa [BeginsVisibly] using visible
    · intro base type rest read
      rw [readClosingBracket] at read
      split at read
      · exact bracket _ _ _ read
      · split at read
        · exact suffixes _ _ _ read
        · cases read

/-- A type is read up to a visible character, or to the end of the text: the white space behind a
type is read with it. -/
theorem readType_visible {steps : Nat} {type : TypeSyntax}
    (read : readType steps text = .ok (type, rest)) : BeginsVisibly rest := by
  cases steps with
  | zero => cases read
  | succ steps =>
    rw [readType] at read
    split at read
    · cases read
    · split at read
      · split at read
        · cases read
        · exact (readSuffixes_visible _).1 _ _ _ read
      · exact (readSuffixes_visible _).1 _ _ _ read

/-- Only a text that goes on behind a type is refused for what it goes on with. The offset is that
of the first character that does not belong to the type, and that character is visible. -/
theorem parse_trailing {text whole : String} {found : Char} {offset : Nat}
    (failed : parse text = .error (.trailing found offset whole)) :
    ∃ front rest type, text.toList = front ++ found :: rest ∧ offset = front.length ∧
      text = whole ∧ isBlank found = false ∧ parse (String.ofList front) = .ok type := by
  unfold parse at failed
  split at failed
  · rename_i inner
    obtain rfl := Except.error.inj failed
    obtain ⟨_, _, _, never⟩ := (readType_fault _).1 _ _ (Nat.lt_succ_self _) inner
    exact never.elim
  · cases failed
  · rename_i type c rest read
    obtain ⟨rfl, offset_eq, rfl⟩ := by simpa using failed
    obtain ⟨front, split, spelled⟩ := (readType_spells _).1 _ _ _ read
    have visible := readType_visible read
    refine ⟨front, rest, type, split, ?_, rfl, by simpa [BeginsVisibly] using visible, ?_⟩
    · rw [← offset_eq, split, List.length_append, List.length_cons]
      omega
    · exact parse_eq_ok.mpr (by rwa [String.toList_ofList])

/-- A number's digits end at the blank behind them, so the number in front of a text can be told
from the text. -/
theorem toString_inj_of_blank_behind {first second : Nat} {behind rest : List Char}
    (same : (toString first).toList ++ ' ' :: behind = (toString second).toList ++ ' ' :: rest) :
    first = second := by
  have free (number : Nat) : ' ' ∉ (toString number).toList := by
    intro member
    exact absurd (isDigit_of_mem_toString member) (by decide)
  have digits := (cut_unique (free first) (free second) same).1
  have spelled : some first = some second := by
    rw [← number?_toString first, digits, number?_toString second]
  exact Option.some.inj spelled

/-- The wording of a fault tells whether it is about what stands behind a type, and at which
offset. -/
theorem eq_trailing_of_message {fault : Fault} {c : Char} {offset : Nat} {behind : String}
    (message : fault.message =
      "unexpected '" ++ c.toString ++ "' at offset " ++ toString offset ++ " in type" ++ behind) :
    ∃ text, fault = .trailing c offset text := by
  simp only [String.append_assoc] at message
  cases fault <;> dsimp only [Fault.message] at message
  case trailing found place text =>
    simp only [String.append_assoc, String.append_right_inj] at message
    have letters := congrArg String.toList message
    simp only [String.toList_append, Char.toString, String.toList_singleton, List.cons_append,
      List.nil_append, List.cons.injEq, List.append_cancel_left_eq] at letters
    obtain ⟨rfl, offsets⟩ := letters
    obtain rfl : place = offset := toString_inj_of_blank_behind offsets
    exact ⟨text, rfl⟩
  case argumentUnexpected found =>
    -- What stands behind the character begins with `' i` here and with `' a` there.
    simp only [String.append_assoc, String.append_right_inj] at message
    simpa using congrArg (·.toList.take 4) message
  -- The other wordings differ within their first letters.
  case argumentsUnterminated => simpa using congrArg (·.toList.take 3) message
  case nameInvalid name => simpa using congrArg (·.toList.take 2) message
  case nameExpected found => simpa using congrArg (·.toList.head?) message
  case bracketExpected found => simpa using congrArg (·.toList.head?) message

/-! ## The whole text -/

/-- What holds of every reading of a text. Positions count its characters, and what stands at one
is what is left of the text there. -/
structure Progresses (text : String) : Prop where
  /-- The reader comes to its result by itself: more steps than there are characters make no
  difference. -/
  ends (steps : Nat) : text.toList.length < steps →
    readType steps text.toList = readType (text.toList.length + 1) text.toList
  /-- Wherever a type is read, the reading goes on behind that position and within the text. -/
  advances (steps start : Nat) (type : TypeSyntax) (rest : List Char) :
    readType steps (text.toList.drop start) = .ok (type, rest) →
      ∃ stop, start < stop ∧ stop ≤ text.toList.length ∧ rest = text.toList.drop stop
  /-- A fault is about a position in the text. -/
  stops (fault : Fault) : parse text = .error fault →
    ∃ stop ≤ text.toList.length,
      fault.StopsAt (text.toList.take stop) (text.toList.drop stop) ∨
        ∃ c, text.toList[stop]? = some c ∧ fault = .trailing c stop text
  /-- An offset in a message is that of the visible character named with it, and what stands in
  front of this character is a type. -/
  offset (fault : Fault) (c : Char) (position : Nat) (behind : String) :
    parse text = .error fault →
    fault.message = "unexpected '" ++ c.toString ++ "' at offset " ++ toString position
      ++ " in type" ++ behind →
    position < text.toList.length ∧ text.toList[position]? = some c ∧ isBlank c = false ∧
      ∃ type, parse (String.ofList (text.toList.take position)) = .ok type

/-- A type that is read from a position on is read up to a later one. -/
theorem readType_drop {steps start : Nat} {type : TypeSyntax}
    (read : readType steps (text.drop start) = .ok (type, rest)) :
    ∃ stop, start < stop ∧ stop ≤ text.length ∧ rest = text.drop stop := by
  obtain ⟨used, some, split⟩ := readType_progress read
  have long := List.length_pos_iff.mpr some
  have lengths : text.length - start = used.length + rest.length := by
    rw [← List.length_drop, split, List.length_append]
  refine ⟨start + used.length, by omega, by omega, ?_⟩
  rw [← List.drop_drop, split, List.drop_left]

/-- A fault in a text stops somewhere in it, with the text before it read. -/
theorem Fault.IsIn.exists_position {fault : Fault} (inside : fault.IsIn text) :
    ∃ stop ≤ text.length, fault.StopsAt (text.take stop) (text.drop stop) := by
  obtain ⟨used, left, rfl, stops⟩ := inside
  refine ⟨used.length, by simp, ?_⟩
  rwa [List.take_left, List.drop_left]

/-- A text is refused for what stands at a place in it, or for what stands behind a type. -/
theorem parse_fault {text : String} {fault : Fault} (failed : parse text = .error fault) :
    fault.IsIn text.toList ∨ ∃ c position whole, fault = .trailing c position whole := by
  unfold parse at failed
  split at failed
  · rename_i inner
    obtain rfl := Except.error.inj failed
    exact .inl ((readType_fault _).1 _ _ (Nat.lt_succ_self _) inner)
  · cases failed
  · exact .inr ⟨_, _, _, (Except.error.inj failed).symm⟩

/-- Every text is read forward and within its bounds, and its faults are where they are said to be.
The reader comes to its result in as many steps as the text has characters and one more; each type
that it reads takes some of the text; and an offset in a message is that of the character named with
it. -/
theorem reading_progresses (text : String) : Progresses text where
  ends steps enough := (readType_steps steps).1 _ _ enough (Nat.lt_succ_self _)
  advances steps start type rest read := readType_drop read
  stops fault failed := by
    rcases parse_fault failed with inside | ⟨c, position, whole, rfl⟩
    · obtain ⟨stop, within, stops⟩ := inside.exists_position
      exact ⟨stop, within, .inl stops⟩
    · obtain ⟨front, rest, type, split, rfl, rfl, _⟩ := parse_trailing failed
      refine ⟨front.length, by simp [split], .inr ⟨c, ?_, rfl⟩⟩
      simp [split]
  offset fault c position behind failed message := by
    obtain ⟨whole, rfl⟩ := eq_trailing_of_message message
    obtain ⟨front, rest, type, split, rfl, rfl, visible, alone⟩ := parse_trailing failed
    have long : front.length < text.toList.length := by simp [split]
    have found : text.toList[front.length]? = some c := by simp [split]
    have cut : text.toList.take front.length = front := by rw [split, List.take_left]
    exact ⟨long, found, visible, type, by rwa [cut]⟩

/-- A type in front of a name, and a name behind a type and a blank. -/
theorem reading_progresses_to_faults :
    (∃ stop, 0 < stop ∧ stop ≤ 7 ∧ ['x'] = "int[]?x".toList.drop stop) ∧
      (5 < 6 ∧ "Task x".toList[5]? = some 'x' ∧ isBlank 'x' = false ∧
        ∃ type, parse (String.ofList ("Task x".toList.take 5)) = .ok type) := by
  have read : readType 9 ("int[]?x".toList.drop 0) =
      .ok (.nullable (.array (.named "int" [])), ['x']) := by
    rfl
  have failed : parse "Task x" = .error (.trailing 'x' 5 "Task x") := by
    rfl
  have worded : (Fault.trailing 'x' 5 "Task x").message =
      "unexpected '" ++ Char.toString 'x' ++ "' at offset " ++ toString 5 ++ " in type"
        ++ " 'Task x'" := by
    decide +kernel
  exact ⟨(reading_progresses "int[]?x").advances 9 0 _ _ read,
    (reading_progresses "Task x").offset _ 'x' 5 " 'Task x'" failed worded⟩

end TypedClients.TypeSyntax
