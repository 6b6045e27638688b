import TypedClients.Proofs.CSharp.Precedence

/-!
# Reading operands and operators

The reader of expressions does at each place what stands there: marks, words and operators are read
where they were printed, spaces are passed over, and nothing is read where nothing goes on. An
expression is read back when it is read where it was printed, in front of whatever does not go on
with it. With its operands an operator is read back, whether it stands before one, behind one or
between two of them, as long as they bind tight enough.

How tight a printed expression binds is its level. The reader is asked for an operand of a level,
and what stands behind the operand must not go on at that level: `Follows` says so of the text
behind, and what `Closes` an expression follows every one, whatever its level.
-/

namespace TypedClients.CSharp

open Text

/-! ## Marks and words -/

/-- At the end of the text there is no space to skip. -/
@[simp] theorem skipSpaces_nil : skipSpaces [] = [] := rfl

/-- A space in front is skipped, and then those behind it. -/
@[simp] theorem skipSpaces_space (text : List Char) : skipSpaces (' ' :: text) = skipSpaces text :=
  rfl

/-- Any other character in front stays, and nothing is skipped. -/
@[simp] theorem skipSpaces_cons {c : Char} (visible : c ≠ ' ') (text : List Char) :
    skipSpaces (c :: text) = c :: text := by
  simp [skipSpaces, visible]

/-- No mark is read at the end of the text. -/
@[simp] theorem readMark?_nil (mark : Char) : readMark? mark [] = none := rfl

/-- A mark may have spaces in front. -/
@[simp] theorem readMark?_space (mark : Char) (text : List Char) :
    readMark? mark (' ' :: text) = readMark? mark text := rfl

/-- Where no space is in front, a mark is read exactly when it is the next character. -/
@[simp] theorem readMark?_cons {mark c : Char} (visible : c ≠ ' ') (text : List Char) :
    readMark? mark (c :: text) = if c = mark then some text else none := by
  rw [readMark?, skipSpaces_cons visible, behind?]
  by_cases same : c = mark
  · simp [same]
  · simp [same, Ne.symm same]

section Words

variable {alphabet : NameAlphabet} {name rest : List Char} {c : Char}

/-- What stands behind a name, or a number, and does not go on with it. -/
def EndsWord (alphabet : NameAlphabet) (rest : List Char) : Prop :=
  ∀ c ∈ rest.head?, alphabet.continues c = false

/-- A word ends before any character that could not go on with a name of the alphabet. -/
theorem endsWord_cons {rest : List Char} (mark : alphabet.continues c = false) :
    EndsWord alphabet (c :: rest) := by
  simpa [EndsWord] using mark

/-- An ASCII character that is neither a letter nor a digit does not belong to a name. -/
theorem endsWord_mark {rest : List Char} (small : c.toNat < 128)
    (mark : (c.isAlphanum || c == '_') = false) : EndsWord alphabet (c :: rest) :=
  endsWord_cons ((alphabet.continues_ascii small).trans mark)

/-- Whether a character of ASCII is none that an identifier begins with. -/
def beginsNoName (c : Char) : Bool :=
  decide (c.toNat < 128) && !(c.isAlpha || c == '_' || c == '@')

/-- A digit begins no identifier. -/
theorem beginsNoName_of_isDigit (digit : c.isDigit = true) : beginsNoName c = true := by
  have each : ∀ code < 128, (Char.ofNat code).isDigit = true →
      beginsNoName (Char.ofNat code) = true := by decide
  have named : asciiNames.continues c = true := by simp [asciiNames, Char.isAlphanum, digit]
  have same := each c.toNat (toNat_lt_of_continues named)
  rw [Char.ofNat_toNat] at same
  exact same digit

/-- An identifier begins with no character that begins no name, so where one stands it is told from
its first character that no mark stands there. -/
theorem NameAlphabet.IsIdentifier.exists_begin (identified : alphabet.IsIdentifier name) :
    ∃ first others, name = first :: others ∧ beginsNoName first = false := by
  obtain ⟨first, others, rfl, rfl | starting⟩ := identified.exists_first
  · exact ⟨_, _, rfl, rfl⟩
  · refine ⟨first, others, rfl, ?_⟩
    by_contra barred
    simp only [Bool.not_eq_false, beginsNoName, Bool.and_eq_true, decide_eq_true_eq,
      Bool.not_eq_true', Bool.or_eq_false_iff] at barred
    rw [alphabet.starts_ascii barred.1] at starting
    simp [barred.2] at starting

/-- No word is read where no identifier begins, whichever word is looked for. -/
theorem readWord?_of_beginsNoName (visible : c ≠ ' ') (barred : beginsNoName c = true)
    (word : String) : readWord? alphabet word (c :: rest) = none := by
  have unread : alphabet.readIdentifier? (c :: rest) = none := by
    simp only [beginsNoName, Bool.and_eq_true, decide_eq_true_eq, Bool.not_eq_true',
      Bool.or_eq_false_iff] at barred
    obtain ⟨small, letterless, unmarked⟩ := barred
    have starts : alphabet.starts c = false := by simp [alphabet.starts_ascii small, letterless]
    unfold NameAlphabet.readIdentifier?
    split
    · rename_i same
      obtain ⟨rfl, rfl⟩ := List.cons.inj same
      simp at unmarked
    · simp [NameAlphabet.readName?, starts]
  rw [readWord?, skipSpaces_cons visible, unread]

/-- No space stands in front of an identifier. -/
theorem skipSpaces_identifier (identified : alphabet.IsIdentifier name)
    (text : List Char) : skipSpaces (name ++ text) = name ++ text := by
  obtain ⟨first, others, rfl, begins⟩ := identified.exists_begin
  have visible : first ≠ ' ' := by
    rintro rfl
    simp [beginsNoName] at begins
  rw [List.cons_append, skipSpaces_cons visible]

/-- Where an identifier stands, it is the word that is read. -/
theorem readWord?_identifier (identified : alphabet.IsIdentifier name)
    (ends : EndsWord alphabet rest) (word : String) :
    readWord? alphabet word (name ++ rest) =
      if String.ofList name = word then some rest else none := by
  rw [readWord?, skipSpaces_identifier identified,
    alphabet.readIdentifier?_of_isIdentifier identified ends]

/-! ## Operators -/

/-- An operator between two operands is read where it is printed. -/
theorem readOperator?_between (op : BinaryOp) (text : List Char) :
    readOperator? alphabet (' ' :: (op.print.toList ++ ' ' :: text)) =
      some (.between op, ' ' :: text) := by
  cases op <;> simp [readOperator?, BinaryOp.print]

/-- A question mark between spaces is read as the one of a choice. The space behind it is left, as
behind all operators. -/
theorem readOperator?_choice (text : List Char) :
    readOperator? alphabet (' ' :: '?' :: ' ' :: text) = some (.choice, ' ' :: text) := by
  simp [readOperator?]

/-- The words of a check for null are read as one operator, when the last of them ends there. Behind
longer words that begin so nothing would be read. -/
theorem readOperator?_isNotNull (ends : EndsWord alphabet rest) :
    readOperator? alphabet (" is not null".toList ++ rest) = some (.isNotNull, rest) := by
  have word (name : String) (named : asciiNames.IsName name.toList) {rest : List Char}
      (ends : EndsWord alphabet rest) :
      readWord? alphabet name (name.toList ++ rest) = some rest := by
    rw [readWord?_identifier (.plain named.of_ascii) ends, String.ofList_toList, if_pos rfl]
  have space (rest : List Char) : EndsWord alphabet (' ' :: rest) :=
    endsWord_mark (by decide) (by decide)
  have marks : readOperator? alphabet (" is not null".toList ++ rest) =
      (readWord? alphabet "is" ("is".toList ++ ' ' :: ("not".toList ++ ' ' :: ("null".toList ++
        rest)))).bind fun rest => (readWord? alphabet "not" rest).bind fun rest =>
          (readWord? alphabet "null" rest).bind fun rest => some (.isNotNull, rest) := rfl
  have spaced (name : String) (rest : List Char) :
      readWord? alphabet name (' ' :: rest) = readWord? alphabet name rest := rfl
  rw [marks, word "is" (by decide) (space _), Option.bind_some, spaced,
    word "not" (by decide) (space _), Option.bind_some, spaced,
    word "null" (by decide) ends, Option.bind_some]

/-- The marks that close an expression, or stand behind one in a list or a choice. -/
def closingMarks : List Char :=
  [')', ']', '}', ',', ';', ':']

/-- No name begins with a closing mark, in any alphabet, as all of these marks are in ASCII. -/
theorem beginsNoName_of_closing (closing : c ∈ closingMarks) : beginsNoName c = true := by
  simp only [closingMarks, List.mem_cons, List.not_mem_nil, or_false] at closing
  rcases closing with rfl | rfl | rfl | rfl | rfl | rfl <;> rfl

/-- A mark that closes an expression is no operator, and no operator begins with one. -/
theorem readOperator?_of_closing (closing : c ∈ closingMarks) (text : List Char) :
    readOperator? alphabet (c :: text) = none := by
  have barred := beginsNoName_of_closing closing
  simp only [closingMarks, List.mem_cons, List.not_mem_nil, or_false] at closing
  have visible : c ≠ ' ' := by
    rintro rfl
    simp at closing
  have marks : readOperator? alphabet (c :: text) =
      (readWord? alphabet "is" (c :: text)).bind fun rest =>
        (readWord? alphabet "not" rest).bind fun rest =>
          (readWord? alphabet "null" rest).bind fun rest => some (.isNotNull, rest) := by
    rcases closing with rfl | rfl | rfl | rfl | rfl | rfl <;> rfl
  rw [marks, readWord?_of_beginsNoName visible barred, Option.bind_none]

end Words

/-! ## What stands behind an expression -/

section Behind

variable {alphabet : NameAlphabet} {rest : List Char} {c : Char} {level : Nat}

/-- A text behind an operand that does not go on with it. -/
structure Ends (alphabet : NameAlphabet) (rest : List Char) : Prop where
  word : EndsWord alphabet rest
  suffix : ∀ c ∈ (skipSpaces rest).head?, c ∉ ['.', '<', '(', '[']

/-- A text behind an expression in which no operator binds as tight as a level. -/
structure Follows (alphabet : NameAlphabet) (level : Nat) (rest : List Char) : Prop
    extends Ends alphabet rest where
  operator : ∀ operator left, readOperator? alphabet rest = some (operator, left) →
    operator.level < level

/-- Where no operator follows that binds as tight as a level, none follows that binds as tight as a
higher one. -/
theorem Follows.mono {looser : Nat} (follows : Follows alphabet looser rest)
    (tighter : looser ≤ level) : Follows alphabet level rest :=
  { follows with
    operator := fun operator left read => (follows.operator operator left read).trans_le tighter }

/-- A space ends an operand when a mark is behind it that is no suffix. -/
theorem ends_space (visible : c ≠ ' ') (unsuffixed : c ∉ ['.', '<', '(', '[']) :
    Ends alphabet (' ' :: c :: rest) where
  word := endsWord_mark (by decide) (by decide)
  suffix := by
    rw [skipSpaces_space, skipSpaces_cons visible]
    intro other first
    obtain rfl := Option.some.inj first
    exact unsuffixed

/-- An operator that binds looser than a level stands behind an expression, with a space before
it. -/
theorem follows_operator {operator : Operator} {left : List Char} (visible : c ≠ ' ')
    (unsuffixed : c ∉ ['.', '<', '(', '['])
    (read : readOperator? alphabet (' ' :: c :: rest) = some (operator, left))
    (looser : operator.level < level) : Follows alphabet level (' ' :: c :: rest) where
  toEnds := ends_space visible unsuffixed
  operator := by
    intro other behind again
    obtain ⟨rfl, _⟩ := Prod.mk.inj (Option.some.inj (read.symm.trans again))
    exact looser

/-- A text that begins with a closing mark, perhaps behind a space, or with the mark of an
assignment. -/
inductive Closes : List Char → Prop where
  | nil : Closes []
  | mark {c : Char} {rest : List Char} (closing : c ∈ closingMarks) : Closes (c :: rest)
  | space {c : Char} {rest : List Char} (closing : c ∈ closingMarks) : Closes (' ' :: c :: rest)
  | assignment {rest : List Char} : Closes (' ' :: '=' :: ' ' :: rest)

/-- What closes an expression follows every expression, of every level, since a closing mark is
neither an operator nor a suffix nor part of a word. -/
theorem Closes.follows (closes : Closes rest) : Follows alphabet level rest := by
  cases closes with
  | nil =>
    refine { word := by simp [EndsWord], suffix := by simp, operator := ?_ }
    intro operator left read
    have none : readOperator? alphabet [] = none := rfl
    simp [none] at read
  | @mark c rest closing =>
    have none : readOperator? alphabet (c :: rest) = none := readOperator?_of_closing closing rest
    simp only [closingMarks, List.mem_cons, List.not_mem_nil, or_false] at closing
    refine { word := ?_, suffix := ?_, operator := by simp [none] }
    · rcases closing with rfl | rfl | rfl | rfl | rfl | rfl <;>
        exact endsWord_mark (by decide) (by decide)
    · rcases closing with rfl | rfl | rfl | rfl | rfl | rfl <;> simp
  | @space c rest closing =>
    have none : readOperator? alphabet (' ' :: c :: rest) = none :=
      readOperator?_of_closing closing rest
    simp only [closingMarks, List.mem_cons, List.not_mem_nil, or_false] at closing
    refine { toEnds := ends_space ?_ ?_, operator := by simp [none] }
    · rcases closing with rfl | rfl | rfl | rfl | rfl | rfl <;> decide
    · rcases closing with rfl | rfl | rfl | rfl | rfl | rfl <;> decide
  | @assignment rest =>
    have none : readOperator? alphabet (' ' :: '=' :: ' ' :: rest) = none := by
      have unread : readWord? alphabet "is" ('=' :: ' ' :: rest) = none :=
        readWord?_of_beginsNoName (by decide) (by decide) "is"
      have marks : readOperator? alphabet (' ' :: '=' :: ' ' :: rest) =
          (readWord? alphabet "is" ('=' :: ' ' :: rest)).bind fun rest =>
            (readWord? alphabet "not" rest).bind fun rest =>
              (readWord? alphabet "null" rest).bind fun rest => some (.isNotNull, rest) := rfl
      rw [marks, unread, Option.bind_none]
    exact { toEnds := ends_space (by decide) (by decide), operator := by simp [none] }

/-! ## The forms of reading -/

/-- A text that begins with another character than some marks. -/
def BeginsApart (marks text : List Char) : Prop :=
  ∃ c others, text = c :: others ∧ c ∉ marks

namespace BeginsApart

variable {marks text : List Char}

/-- A text that begins with a character begins apart from some marks when the character is none of
them. -/
theorem of_eq {others : List Char} (same : text = c :: others) (apart : c ∉ marks) :
    BeginsApart marks text :=
  ⟨c, others, same, apart⟩

/-- What stands behind a text plays no part in what it begins with. -/
theorem append (begins : BeginsApart marks text) (behind : List Char) :
    BeginsApart marks (text ++ behind) := by
  obtain ⟨c, others, rfl, apart⟩ := begins
  exact of_eq rfl apart

/-- Without a space in front, no space is skipped. -/
theorem skipSpaces_eq (begins : BeginsApart (' ' :: marks) text) : skipSpaces text = text := by
  obtain ⟨c, others, rfl, apart⟩ := begins
  exact skipSpaces_cons (List.ne_of_not_mem_cons apart) others

end BeginsApart

/-- The characters of a printed expression. -/
def Expr.chars (expr : Expr) : List Char :=
  expr.print.toList

/-- The level from which operators behind an expression are not its own. -/
def Expr.reach : Expr → Nat
  | .conditional .. => 0
  | expr => expr.level + 1

/-- What it means for an expression to be read back where it is printed, in front of whatever does
not go on with it: it is read as a start, as an operand and as a whole expression, as far as it
binds tight enough. What comes out of the reader is told by what the reader has left to do. -/
structure ReadsBack (alphabet : NameAlphabet) (expr : Expr) : Prop where
  visible : BeginsApart (' ' :: closingMarks) expr.chars
  start : expr.level = 6 → ∀ steps rest, EndsWord alphabet rest →
    stepsFor (expr.chars ++ rest) 2 ≤ steps →
      ∃ more, stepsFor rest 1 ≤ more ∧
        readOperand? alphabet steps (expr.chars ++ rest) =
          readSuffixes? alphabet more expr.spelledOut rest
  operand : 5 ≤ expr.level → ∀ steps rest, Ends alphabet rest →
    stepsFor (expr.chars ++ rest) 2 ≤ steps →
      readOperand? alphabet steps (expr.chars ++ rest) = some (expr.spelledOut, rest)
  whole : ∀ level steps rest, level ≤ expr.level → Follows alphabet expr.reach rest →
    stepsFor (expr.chars ++ rest) 3 ≤ steps →
      ∃ more, stepsFor rest 1 ≤ more ∧
        readExpr? alphabet steps level (expr.chars ++ rest) =
          readBehind? alphabet more level expr.spelledOut rest

variable {expr : Expr} {steps : Nat}

/-- The reach of an expression is never lower than its level. -/
theorem level_le_reach : expr.level ≤ expr.reach := by
  cases expr <;> simp [Expr.level, Expr.reach]

/-- No suffix is read where an operand ends: the object is all there is, and the text is left as it
was. -/
theorem readSuffixes?_of_ends (ends : Ends alphabet rest) (enough : 1 ≤ steps) (object : Expr) :
    readSuffixes? alphabet steps object rest = some (object, rest) := by
  obtain ⟨steps, rfl⟩ := Nat.exists_eq_add_of_le' enough
  have unsuffixed := ends.suffix
  unfold readSuffixes?
  split
  · rename_i same
    simp [same] at unsuffixed
  · rename_i same
    simp [same] at unsuffixed
  · rename_i same
    simp [same] at unsuffixed
  · rename_i same
    simp [same] at unsuffixed
  · rfl

/-- No operator of a level is read where an expression of this level ends. -/
theorem readBehind?_of_follows (follows : Follows alphabet level rest) (enough : 1 ≤ steps)
    (left : Expr) : readBehind? alphabet steps level left rest = some (left, rest) := by
  obtain ⟨steps, rfl⟩ := Nat.exists_eq_add_of_le' enough
  unfold readBehind?
  cases read : readOperator? alphabet rest with
  | none => rfl
  | some found => exact if_pos (follows.operator found.1 found.2 read)

namespace ReadsBack

/-- An expression that is read back is read where none of its operators goes on. -/
theorem read (readsBack : ReadsBack alphabet expr) (tight : level ≤ expr.level)
    (follows : Follows alphabet level rest) (enough : stepsFor (expr.chars ++ rest) 3 ≤ steps) :
    readExpr? alphabet steps level (expr.chars ++ rest) = some (expr.spelledOut, rest) := by
  have behind := follows.mono (tight.trans level_le_reach)
  obtain ⟨more, left, same⟩ := readsBack.whole level steps rest tight behind enough
  rw [same]
  exact readBehind?_of_follows follows (Nat.le_trans (Nat.le_add_left 1 _) left) _

/-- What is read as an operand is read as a whole expression. No operator behind it is taken, as far
as the text goes on with none that binds tight enough. -/
theorem of_operand
    (visible : BeginsApart (' ' :: closingMarks) expr.chars)
    (start : expr.level = 6 → ∀ steps rest, EndsWord alphabet rest →
      stepsFor (expr.chars ++ rest) 2 ≤ steps → ∃ more, stepsFor rest 1 ≤ more ∧
        readOperand? alphabet steps (expr.chars ++ rest) =
          readSuffixes? alphabet more expr.spelledOut rest)
    (operand : ∀ steps rest, Ends alphabet rest → stepsFor (expr.chars ++ rest) 2 ≤ steps →
      readOperand? alphabet steps (expr.chars ++ rest) = some (expr.spelledOut, rest)) :
    ReadsBack alphabet expr where
  visible := visible
  start := start
  operand := fun _ => operand
  whole := by
    intro level steps rest _ follows enough
    have spaceless := (visible.append rest).skipSpaces_eq
    obtain ⟨c, others, same, _⟩ := visible
    simp only [stepsFor, same, List.length_append, List.length_cons] at enough
    obtain ⟨steps, rfl⟩ := Nat.exists_eq_add_one_of_ne_zero (show steps ≠ 0 by omega)
    have read := operand steps rest follows.toEnds (by
      simp only [stepsFor, same, List.length_append, List.length_cons]
      omega)
    refine ⟨steps, by simp only [stepsFor]; omega, ?_⟩
    rw [readExpr?, spaceless, read]
    rfl

/-- What is read as a start is read as an operand, up to where it ends, and so as a whole
expression. This is how a form of expression without operators is shown to be read back. -/
theorem of_start
    (visible : BeginsApart (' ' :: closingMarks) expr.chars)
    (start : ∀ steps rest, EndsWord alphabet rest → stepsFor (expr.chars ++ rest) 2 ≤ steps →
      ∃ more, stepsFor rest 1 ≤ more ∧
        readOperand? alphabet steps (expr.chars ++ rest) =
          readSuffixes? alphabet more expr.spelledOut rest) :
    ReadsBack alphabet expr := by
  refine of_operand visible (fun _ => start) ?_
  intro steps rest ends enough
  obtain ⟨more, left, same⟩ := start steps rest ends.word enough
  rw [same]
  exact readSuffixes?_of_ends ends (Nat.le_trans (Nat.le_add_left 1 _) left) _

/-- An expression that is looser than an operand only has to be read as a whole, since nothing asks
for it as a start or as an operand. -/
theorem of_whole (loose : expr.level < 5)
    (visible : BeginsApart (' ' :: closingMarks) expr.chars)
    (whole : ∀ level steps rest, level ≤ expr.level → Follows alphabet expr.reach rest →
      stepsFor (expr.chars ++ rest) 3 ≤ steps → ∃ more, stepsFor rest 1 ≤ more ∧
        readExpr? alphabet steps level (expr.chars ++ rest) =
          readBehind? alphabet more level expr.spelledOut rest) :
    ReadsBack alphabet expr where
  visible := visible
  start := fun primary => absurd primary (by omega)
  operand := fun tight => absurd tight (by omega)
  whole := whole

end ReadsBack

end Behind

/-! ## Operators and their operands -/

section Operators

variable {alphabet : NameAlphabet}

/-- An expression may have spaces in front, at every level and with any number of steps. -/
@[simp] theorem readExpr?_space (steps level : Nat) (text : List Char) :
    readExpr? alphabet steps level (' ' :: text) = readExpr? alphabet steps level text := by
  cases steps <;> rfl

/-- What binds tighter than a choice reaches one level beyond its own: an operator of the same level
may stand behind it, as operators are read from the left. -/
theorem reach_of_pos {expr : Expr} (tight : 0 < expr.level) : expr.reach = expr.level + 1 := by
  cases expr with
  | conditional => exact absurd tight (by simp [Expr.level])
  | _ => rfl

/-- Every operator binds tighter than a choice. -/
theorem BinaryOp.level_pos (op : BinaryOp) : 0 < op.level := by
  cases op <;> decide

/-- No operator binds as tight as the start of an operand. -/
theorem BinaryOp.level_lt (op : BinaryOp) : op.level < 5 := by
  cases op <;> decide

/-- An operator between spaces may follow whatever binds tighter than it. -/
theorem follows_between (op : BinaryOp) {level : Nat} (looser : op.level < level)
    (text : List Char) :
    Follows alphabet level (' ' :: (op.print.toList ++ ' ' :: text)) := by
  have read : readOperator? alphabet (' ' :: (op.print.toList ++ ' ' :: text)) = _ :=
    readOperator?_between op text
  cases op with
  | bitOr | greater | equal | and => exact follows_operator (by decide) (by decide) read looser

namespace ReadsBack

/-- Two operands with an operator between them are read back, when both bind tighter than the
operator does. The one before it may also bind as tight. -/
theorem binary {left right : Expr} (op : BinaryOp) (tightLeft : op.level ≤ left.level)
    (tightRight : op.level < right.level) (leftBack : ReadsBack alphabet left)
    (rightBack : ReadsBack alphabet right) : ReadsBack alphabet (.binary left op right) := by
  have chars : (Expr.binary left op right).chars =
      left.chars ++ ' ' :: (op.print.toList ++ ' ' :: right.chars) := by
    simp [Expr.chars, Expr.print]
  refine of_whole op.level_lt ?_ ?_
  · rw [chars]
    exact leftBack.visible.append _
  intro level steps rest looser follows enough
  have text : (Expr.binary left op right).chars ++ rest =
      left.chars ++ ' ' :: (op.print.toList ++ ' ' :: (right.chars ++ rest)) := by
    simp [chars]
  rw [text] at enough ⊢
  have reach : left.reach = left.level + 1 := reach_of_pos (op.level_pos.trans_le tightLeft)
  obtain ⟨more, left_enough, same⟩ := leftBack.whole level steps
    (' ' :: (op.print.toList ++ ' ' :: (right.chars ++ rest))) (Nat.le_trans looser tightLeft)
    (follows_between op (by omega) _) enough
  simp only [stepsFor, List.length_append, List.length_cons] at left_enough
  obtain ⟨more, rfl⟩ := Nat.exists_eq_add_one_of_ne_zero (show more ≠ 0 by omega)
  have read : readExpr? alphabet more (op.level + 1) (right.chars ++ rest) =
      some (right.spelledOut, rest) := rightBack.read tightRight follows (by
    simp only [stepsFor, List.length_append]
    omega)
  have tight : ¬ op.level < level := Nat.not_lt.mpr looser
  refine ⟨more, by simp only [stepsFor]; omega, ?_⟩
  rw [same, readBehind?, readOperator?_between]
  simp [Operator.level, tight, read, Expr.spelledOut]

/-- An operand that is tested for being there is read back: the test is read as an operator with a
pattern behind it. -/
theorem isNotNull {operand : Expr} (tight : 4 ≤ operand.level)
    (back : ReadsBack alphabet operand) : ReadsBack alphabet (.isNotNull operand) := by
  have chars : (Expr.isNotNull operand).chars = operand.chars ++ " is not null".toList := by
    simp [Expr.chars, Expr.print]
  refine of_whole (Nat.lt_succ_self 4) ?_ ?_
  · rw [chars]
    exact back.visible.append _
  intro level steps rest looser follows enough
  rw [chars, List.append_assoc] at enough ⊢
  have operator : readOperator? alphabet (" is not null".toList ++ rest) =
      some (.isNotNull, rest) :=
    readOperator?_isNotNull follows.word
  have reach : operand.reach = operand.level + 1 := reach_of_pos (by omega)
  obtain ⟨more, left_enough, same⟩ := back.whole level steps (" is not null".toList ++ rest)
    (Nat.le_trans looser tight)
    (follows_operator (by decide) (by decide) operator (by simp only [Operator.level]; omega))
    enough
  have long : (" is not null".toList ++ rest).length = rest.length + 12 := by simp
  simp only [stepsFor, long] at left_enough
  obtain ⟨more, rfl⟩ := Nat.exists_eq_add_one_of_ne_zero (show more ≠ 0 by omega)
  have tight : ¬ 4 < level := Nat.not_lt.mpr looser
  refine ⟨more, by simp only [stepsFor]; omega, ?_⟩
  rw [same, readBehind?, operator]
  simp [Operator.level, tight, Expr.spelledOut]

/-- A choice between two expressions is read back. What is behind it goes on with none of its
operands, so that it may only stand where nothing follows that could. -/
theorem conditional {condition yes no : Expr} (tight : 0 < condition.level)
    (conditionBack : ReadsBack alphabet condition) (yesBack : ReadsBack alphabet yes)
    (noBack : ReadsBack alphabet no) : ReadsBack alphabet (.conditional condition yes no) := by
  have chars : (Expr.conditional condition yes no).chars =
      condition.chars ++ ' ' :: '?' :: ' ' :: (yes.chars ++ ' ' :: ':' :: ' ' :: no.chars) := by
    simp [Expr.chars, Expr.print]
  refine of_whole (Nat.zero_lt_succ 4) ?_ ?_
  · rw [chars]
    exact conditionBack.visible.append _
  intro level steps rest looser follows enough
  obtain rfl : level = 0 := Nat.le_zero.mp looser
  have text : (Expr.conditional condition yes no).chars ++ rest = condition.chars ++
      ' ' :: '?' :: ' ' :: (yes.chars ++ ' ' :: ':' :: ' ' :: (no.chars ++ rest)) := by
    simp [chars]
  rw [text] at enough ⊢
  have operator : readOperator? alphabet _ = _ :=
    readOperator?_choice (yes.chars ++ ' ' :: ':' :: ' ' :: (no.chars ++ rest))
  have reach : condition.reach = condition.level + 1 := reach_of_pos tight
  obtain ⟨more, left_enough, same⟩ := conditionBack.whole 0 steps _ (Nat.zero_le _)
    (follows_operator (by decide) (by decide) operator (by simp only [Operator.level]; omega))
    enough
  simp only [stepsFor, List.length_append, List.length_cons] at left_enough
  obtain ⟨more, rfl⟩ := Nat.exists_eq_add_one_of_ne_zero (show more ≠ 0 by omega)
  have colon : Closes (' ' :: ':' :: ' ' :: (no.chars ++ rest)) := .space (by decide)
  have first : readExpr? alphabet more 0 (yes.chars ++ ' ' :: ':' :: ' ' :: (no.chars ++ rest)) =
      some (yes.spelledOut, ' ' :: ':' :: ' ' :: (no.chars ++ rest)) :=
    yesBack.read (Nat.zero_le _) colon.follows (by
      simp only [stepsFor, List.length_append, List.length_cons]
      omega)
  have second : readExpr? alphabet more 0 (no.chars ++ rest) = some (no.spelledOut, rest) :=
    noBack.read (Nat.zero_le _) follows (by
      simp only [stepsFor, List.length_append]
      omega)
  refine ⟨more, by simp only [stepsFor]; omega, ?_⟩
  have closed : Follows alphabet 0 rest := follows
  rw [same, readBehind?_of_follows closed (show 1 ≤ more by omega), readBehind?, operator]
  simp [Operator.level, first, second, Expr.spelledOut]

/-- An operand that is waited for is read back. The word is followed by a space, so that it is not
read together with the name behind it. -/
theorem await {operand : Expr} (tight : 5 ≤ operand.level) (back : ReadsBack alphabet operand) :
    ReadsBack alphabet (.await operand) := by
  have chars : (Expr.await operand).chars = "await".toList ++ ' ' :: operand.chars := by
    simp [Expr.chars, Expr.print]
  refine of_operand (.of_eq chars (by decide)) (fun primary => by cases primary) ?_
  intro steps rest ends enough
  rw [chars, List.append_assoc, List.cons_append] at enough ⊢
  have word : readWord? alphabet "await" ("await".toList ++ ' ' :: (operand.chars ++ rest)) =
      some (' ' :: (operand.chars ++ rest)) := by
    have named : alphabet.IsName "await".toList := NameAlphabet.IsName.of_ascii (by decide)
    rw [readWord?_identifier (.plain named) (endsWord_mark (by decide) (by decide))]
    rfl
  have unmarked : readMark? '!' ("await".toList ++ ' ' :: (operand.chars ++ rest)) = none := rfl
  simp only [stepsFor, List.length_append, List.length_cons] at enough
  obtain ⟨steps, rfl⟩ := Nat.exists_eq_add_one_of_ne_zero (show steps ≠ 0 by omega)
  have read := back.operand tight steps rest ends (by
    simp only [stepsFor, List.length_append]
    omega)
  rw [readOperand?, unmarked]
  simp only [word, skipSpaces_space, (back.visible.append rest).skipSpaces_eq, read]
  rfl

/-- What is printed in brackets is read as an operand, whatever it is inside: the closing bracket is
what ends it. -/
theorem bracketed {expr : Expr} (back : ReadsBack alphabet expr) {steps : Nat} {rest : List Char}
    (ends : Ends alphabet rest)
    (enough : stepsFor ('(' :: (expr.chars ++ ')' :: rest)) 2 ≤ steps) :
    readOperand? alphabet steps ('(' :: (expr.chars ++ ')' :: rest)) =
      some (expr.spelledOut, rest) := by
  simp only [stepsFor, List.length_append, List.length_cons] at enough
  obtain ⟨steps, rfl⟩ := Nat.exists_eq_add_of_le' (show 2 ≤ steps by omega)
  have closes : Closes (')' :: rest) := .mark (by decide)
  have read : readExpr? alphabet steps 0 (expr.chars ++ ')' :: rest) =
      some (expr.spelledOut, ')' :: rest) := back.read (Nat.zero_le _) closes.follows (by
    simp only [stepsFor, List.length_append, List.length_cons]
    omega)
  have start : readStart? alphabet (steps + 1) ('(' :: (expr.chars ++ ')' :: rest)) =
      some (expr.spelledOut, rest) := by
    simp [readStart?, read]
  have word : readWord? alphabet "await" ('(' :: (expr.chars ++ ')' :: rest)) = none :=
    readWord?_of_beginsNoName (by decide) (by decide) _
  rw [readOperand?]
  simp [word, start, readSuffixes?_of_ends ends]

/-- A negation is read back, of an operand as it stands, or of an expression in brackets that binds
looser than the negation. -/
theorem not {operand : Expr} (back : ReadsBack alphabet operand)
    (stands : operand.bracketedByNot = true ∨ 5 ≤ operand.level) :
    ReadsBack alphabet (.not operand) := by
  by_cases loose : operand.bracketedByNot = true
  · have chars : (Expr.not operand).chars = '!' :: '(' :: (operand.chars ++ [')']) := by
      simp [Expr.chars, Expr.print, loose]
    refine of_operand (.of_eq chars (by decide)) (fun primary => by cases primary) ?_
    intro steps rest ends enough
    have text : (Expr.not operand).chars ++ rest =
        '!' :: '(' :: (operand.chars ++ ')' :: rest) := by
      simp [chars]
    rw [text] at enough ⊢
    simp only [stepsFor, List.length_append, List.length_cons] at enough
    obtain ⟨steps, rfl⟩ := Nat.exists_eq_add_one_of_ne_zero (show steps ≠ 0 by omega)
    have read : readOperand? alphabet steps ('(' :: (operand.chars ++ ')' :: rest)) =
        some (operand.spelledOut, rest) := back.bracketed ends (by
      simp only [stepsFor, List.length_append, List.length_cons]
      omega)
    rw [readOperand?]
    simp [read, Expr.spelledOut]
  · have tight : 5 ≤ operand.level := stands.resolve_left loose
    have chars : (Expr.not operand).chars = '!' :: operand.chars := by
      simp [Expr.chars, Expr.print, loose]
    refine of_operand (.of_eq chars (by decide)) (fun primary => by cases primary) ?_
    intro steps rest ends enough
    rw [chars, List.cons_append] at enough ⊢
    simp only [stepsFor, List.length_append, List.length_cons] at enough
    obtain ⟨steps, rfl⟩ := Nat.exists_eq_add_one_of_ne_zero (show steps ≠ 0 by omega)
    have read := back.operand tight steps rest ends (by
      simp only [stepsFor, List.length_append]
      omega)
    rw [readOperand?]
    simp [(back.visible.append rest).skipSpaces_eq, read, Expr.spelledOut]

end ReadsBack

end Operators

end TypedClients.CSharp
