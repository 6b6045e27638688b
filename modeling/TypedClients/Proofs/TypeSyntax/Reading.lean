import TypedClients.Proofs.Text.Pieces
import TypedClients.Proofs.TypeSyntax.Grammar

/-!
# Readers and the grammar of types

Each reader takes from the front of a text exactly one phrase of the grammar. What it returns is
the tree of that phrase and the text behind it (soundness); and a phrase that is followed by the
end of the text, by `,` or by `>` is taken as a whole (completeness). Nothing else follows a type
in a larger one.

The readers of types and arguments carry a bound on the steps still allowed. Soundness holds for
every bound. For completeness a bound above the length of the phrase is enough, so that the length
of the text, from which `parse` starts, never stops a reader.
-/

namespace TypedClients.TypeSyntax

open Text

/-- A text that can stand behind a type inside a larger one. -/
def EndsType (text : List Char) : Prop :=
  ∀ c ∈ text.head?, c = ',' ∨ c = '>'

/-- A type ends where the text does. -/
@[simp] theorem endsType_nil : EndsType [] := by
  simp [EndsType]

/-- A type ends before a comma or a closing bracket, and before nothing else. -/
@[simp] theorem endsType_cons {c : Char} {text : List Char} :
    EndsType (c :: text) ↔ c = ',' ∨ c = '>' := by
  simp [EndsType]

/-! ## What is read is spelled -/

/-- A name that is read is the run of name characters in front of the text. It is a whole run, so
nothing of a name is left over. -/
theorem readName_spells {text rest : List Char} {name : String}
    (read : readName text = .ok (name, rest)) :
    ∃ run, text = run ++ rest ∧ IsTypeName run ∧ EndsName rest ∧ name = String.ofList run := by
  simp only [readName] at read
  split at read
  · cases read
  · rename_i nonempty
    split at read
    · rename_i checked
      obtain ⟨rfl, rfl⟩ := by simpa using read
      refine ⟨text.takeWhile isNameChar, List.takeWhile_append_dropWhile.symm, ?_, ?_, rfl⟩
      · refine isTypeName_iff.mpr ⟨by simpa using nonempty, ?_, checked⟩
        exact fun c member => List.mem_takeWhile_imp member
      · intro c first
        simpa [Option.mem_def.mp first] using List.head?_dropWhile_not isNameChar text
    · cases read

/-- Suffixes that are read, and the bracket of an array with the suffixes behind it. The two
readers call each other on shorter texts. -/
theorem readSuffixes_spells (text : List Char) :
    (∀ base type rest, readSuffixes base text = .ok (type, rest) →
      ∃ front, text = front ++ rest ∧ Spells front (.suffixes base type)) ∧
    (∀ base type rest, readClosingBracket base text = .ok (type, rest) →
      ∃ gap front, text = gap ++ ']' :: (front ++ rest) ∧ Blanks gap ∧
        Spells front (.suffixes (.array base) type)) := by
  induction text with
  | nil =>
    constructor
    · intro base type rest read
      obtain ⟨rfl, rfl⟩ := by simpa [readSuffixes] using read
      exact ⟨[], rfl, .noSuffix blanks_nil⟩
    · intro base type rest read
      cases read
  | cons c text inductionHypothesis =>
    obtain ⟨suffixes, bracket⟩ := inductionHypothesis
    constructor
    · intro base type rest read
      rw [readSuffixes] at read
      split at read
      · rename_i blank
        obtain ⟨front, rfl, spelled⟩ := suffixes base type rest read
        have own : Blanks [c] := by simpa using blank
        exact ⟨c :: front, rfl, spelled.blanks_suffixes own⟩
      · split at read
        · rename_i mark
          obtain ⟨front, rfl, spelled⟩ := suffixes _ type rest read
          exact ⟨c :: front, rfl, mark ▸ .nullableSuffix blanks_nil spelled⟩
        · split at read
          · rename_i mark
            obtain ⟨gap, front, rfl, blank, spelled⟩ := bracket base type rest read
            refine ⟨c :: (gap ++ ']' :: front), by simp, ?_⟩
            exact mark ▸ .arraySuffix blanks_nil blank spelled
          · obtain ⟨rfl, rfl⟩ := by simpa using read
            exact ⟨[], rfl, .noSuffix blanks_nil⟩
    · intro base type rest read
      rw [readClosingBracket] at read
      split at read
      · rename_i blank
        obtain ⟨gap, front, rfl, blanks, spelled⟩ := bracket base type rest read
        exact ⟨c :: gap, front, rfl, blanks_cons.mpr ⟨blank, blanks⟩, spelled⟩
      · split at read
        · rename_i mark
          obtain ⟨front, rfl, spelled⟩ := suffixes _ type rest read
          exact ⟨[], front, by simp [mark], blanks_nil, spelled⟩
        · cases read

/-- The arguments of a name and the suffixes behind them make a type of it. The white space behind
the last of them is part of what was read. -/
theorem Spells.of_name {before name gap bracketed suffixes rest : List Char}
    {arguments : List TypeSyntax} {type : TypeSyntax} (blank : Blanks before)
    (named : IsTypeName name) (ends : EndsName (gap ++ (bracketed ++ (suffixes ++ rest))))
    (between : Blanks gap) (inner : Spells bracketed (.argumentList arguments))
    (behind : Spells suffixes (.suffixes (.named (String.ofList name) arguments) type)) :
    ∃ front, before ++ (name ++ (gap ++ (bracketed ++ (suffixes ++ rest)))) = front ++ rest ∧
      Spells front (.type type) := by
  have longer : EndsName ((gap ++ (bracketed ++ suffixes)) ++ rest) := by
    simpa using ends
  have maximal := longer.of_append
  exact ⟨_, by simp, .type blank named maximal between inner behind⟩

/-- A type that is read derives from its name, its arguments and its suffixes, when arguments that
are read in one step less derive. -/
theorem readType_spells_of {steps : Nat} {type : TypeSyntax}
    (lists : ∀ text arguments rest, readArguments steps text = .ok (arguments, rest) →
      ∃ front, text = front ++ '>' :: rest ∧ Spells front (.arguments arguments))
    (read : readType (steps + 1) text = .ok (type, rest)) :
    ∃ front, text = front ++ rest ∧ Spells front (.type type) := by
  rw [readType] at read
  split at read
  · cases read
  · rename_i name behind name_read
    obtain ⟨before, blank, whole⟩ := exists_skipped text
    obtain ⟨run, skipped, named, ends, rfl⟩ := readName_spells name_read
    obtain ⟨gap, between, left_eq⟩ := exists_skipped behind
    rw [whole, skipped, left_eq]
    rw [left_eq] at ends
    split at read
    · rename_i inside opened
      split at read
      · cases read
      · rename_i arguments left arguments_read
        obtain ⟨inner, rfl, inner_spelled⟩ := lists inside arguments left arguments_read
        obtain ⟨suffixes, rfl, spelled⟩ := (readSuffixes_spells left).1 _ type rest read
        have bracketed : skipBlanks behind =
            ('<' :: (inner ++ ['>'])) ++ (suffixes ++ rest) := by
          simp [opened]
        rw [bracketed] at ends ⊢
        exact Spells.of_name blank named ends between (.someArguments inner_spelled) spelled
    · obtain ⟨suffixes, unused, spelled⟩ :=
        (readSuffixes_spells (skipBlanks behind)).1 _ type rest read
      rw [unused, ← List.nil_append (suffixes ++ rest)] at ends ⊢
      exact Spells.of_name blank named ends between .noArguments spelled

/-- Arguments that are read derive, when types and arguments that are read in one step less do. -/
theorem readArguments_spells_of {steps : Nat} {arguments : List TypeSyntax}
    (types : ∀ text type rest, readType steps text = .ok (type, rest) →
      ∃ front, text = front ++ rest ∧ Spells front (.type type))
    (lists : ∀ text arguments rest, readArguments steps text = .ok (arguments, rest) →
      ∃ front, text = front ++ '>' :: rest ∧ Spells front (.arguments arguments))
    (read : readArguments (steps + 1) text = .ok (arguments, rest)) :
    ∃ front, text = front ++ '>' :: rest ∧ Spells front (.arguments arguments) := by
  rw [readArguments] at read
  split at read
  · cases read
  · rename_i argument behind argument_read
    obtain ⟨front, rfl, spelled⟩ := types text argument behind argument_read
    obtain ⟨gap, between, left_eq⟩ := exists_skipped behind
    have whole : Spells (front ++ gap) (.type argument) :=
      spelled.type_suffixes (.noSuffix between)
    rw [left_eq]
    split at read
    · rename_i others comma
      split at read
      · cases read
      · rename_i following left others_read
        obtain ⟨rfl, rfl⟩ := by simpa using read
        obtain ⟨inner, rfl, inner_spelled⟩ := lists others following left others_read
        exact ⟨(front ++ gap) ++ ',' :: inner, by simp [comma],
          .nextArgument whole inner_spelled⟩
    · rename_i left closed
      obtain ⟨rfl, rfl⟩ := by simpa using read
      exact ⟨front ++ gap, by simp [closed], .lastArgument whole⟩
    · cases read
    · cases read

/-- Types and arguments that are read derive from the grammar. The induction is on the steps
allowed, for both readers at once: each hands fewer steps to the other. -/
theorem readType_spells (steps : Nat) :
    (∀ text type rest, readType steps text = .ok (type, rest) →
      ∃ front, text = front ++ rest ∧ Spells front (.type type)) ∧
    (∀ text arguments rest, readArguments steps text = .ok (arguments, rest) →
      ∃ front, text = front ++ '>' :: rest ∧ Spells front (.arguments arguments)) := by
  induction steps with
  | zero =>
    constructor
    · intro text type rest read
      cases read
    · intro text arguments rest read
      cases read
  | succ steps inductionHypothesis =>
    obtain ⟨types, lists⟩ := inductionHypothesis
    exact ⟨fun _ _ _ => readType_spells_of lists, fun _ _ _ => readArguments_spells_of types lists⟩

/-! ## What is spelled is read -/

/-- Where a type ends, a name ends too. -/
theorem EndsType.endsName {text : List Char} (ends : EndsType text) : EndsName text := by
  intro c first
  rcases ends c first with rfl | rfl <;> decide

/-- A name that ends where the text behind it begins is read as a whole. -/
theorem readName_of_name {name rest : List Char} (named : IsTypeName name)
    (ends : EndsName rest) : readName (name ++ rest) = .ok (String.ofList name, rest) := by
  obtain ⟨nonempty, characters, checked⟩ := isTypeName_iff.mp named
  obtain ⟨run, behind⟩ := cut_behind_run characters ends
  simp [readName, run, behind, nonempty, checked]

/-- White space in front of suffixes and of a closing bracket changes nothing. -/
theorem readSuffixes_blanks (base : TypeSyntax) {gap : List Char} (blank : Blanks gap)
    (text : List Char) :
    readSuffixes base (gap ++ text) = readSuffixes base text ∧
      readClosingBracket base (gap ++ text) = readClosingBracket base text := by
  induction gap with
  | nil => exact ⟨rfl, rfl⟩
  | cons c gap inductionHypothesis =>
    obtain ⟨first, others⟩ := blanks_cons.mp blank
    simpa [readSuffixes, readClosingBracket, first] using inductionHypothesis others

/-- No suffix begins with a mark that ends a type or opens its arguments. -/
theorem readSuffixes_of_mark (base : TypeSyntax) {mark : Char} (text : List Char)
    (other : mark = ',' ∨ mark = '>' ∨ mark = '<') :
    readSuffixes base (mark :: text) = .ok (base, mark :: text) := by
  have plain : isBlank mark = false ∧ mark ≠ '?' ∧ mark ≠ '[' := by
    rcases other with rfl | rfl | rfl <;> decide
  simp [readSuffixes, plain]

/-- Suffixes stop at the end of a type. -/
theorem readSuffixes_of_endsType (base : TypeSyntax) {rest : List Char} (ends : EndsType rest) :
    readSuffixes base rest = .ok (base, rest) := by
  cases rest with
  | nil => simp [readSuffixes]
  | cons c rest =>
    have mark := endsType_cons.mp ends
    exact readSuffixes_of_mark base rest (mark.imp id .inl)

/-- A phrase is read from the front of a text, whatever stands behind it there. -/
def Phrase.ReadFrom (front : List Char) : Phrase → Prop
  | .type tree => ∀ steps rest, front.length < steps → EndsType rest →
      readType steps (front ++ rest) = .ok (tree, rest)
  | .arguments trees => ∀ steps rest, front.length + 1 < steps →
      readArguments steps (front ++ '>' :: rest) = .ok (trees, rest)
  | .argumentList trees => front = [] ∧ trees = [] ∨
      ∃ inside, front = '<' :: (inside ++ ['>']) ∧
        ∀ steps rest, inside.length + 1 < steps →
          readArguments steps (inside ++ '>' :: rest) = .ok (trees, rest)
  | .suffixes base tree => ∀ rest, EndsType rest →
      readSuffixes base (front ++ rest) = .ok (tree, rest)

/-- Suffixes that follow a name at once are not taken for its arguments. -/
theorem not_opened_of_suffixes {suffixes rest : List Char} {base type : TypeSyntax}
    (read : readSuffixes base (suffixes ++ rest) = .ok (type, rest)) (ends : EndsType rest)
    (inside : List Char) : skipBlanks (suffixes ++ rest) ≠ '<' :: inside := by
  intro opened
  obtain ⟨gap, blank, whole⟩ := exists_skipped (suffixes ++ rest)
  rw [whole, opened, (readSuffixes_blanks base blank _).1,
    readSuffixes_of_mark base inside (by simp)] at read
  obtain ⟨rfl, rfl⟩ := by simpa using read
  simp at ends

/-- What reading a name and all that belongs to it comes to: the name is read to its end, then
arguments if a bracket follows, then suffixes. -/
theorem readType_of_name {before name gap bracketed suffixes rest : List Char} {steps : Nat}
    {arguments : List TypeSyntax} {type : TypeSyntax} (blank : Blanks before)
    (named : IsTypeName name) (ends : EndsName (gap ++ (bracketed ++ (suffixes ++ rest))))
    (between : Blanks gap)
    (inner : (Phrase.argumentList arguments).ReadFrom bracketed)
    (behind : readSuffixes (.named (String.ofList name) arguments) (suffixes ++ rest) =
      .ok (type, rest))
    (enough : bracketed.length ≤ steps) (stops : EndsType rest) :
    readType (steps + 1) (before ++ (name ++ (gap ++ (bracketed ++ (suffixes ++ rest))))) =
      .ok (type, rest) := by
  rw [readType, blank.skipped, named.not_skipped, readName_of_name named ends]
  simp only [between.skipped]
  rcases inner with ⟨rfl, rfl⟩ | ⟨inside, rfl, arguments_read⟩
  · split
    · rename_i opened
      exact absurd opened (not_opened_of_suffixes behind stops _)
    · obtain ⟨before, blank, whole⟩ := exists_skipped (suffixes ++ rest)
      rw [whole, (readSuffixes_blanks _ blank _).1] at behind
      exact behind
  · have opened : skipBlanks ('<' :: (inside ++ ['>']) ++ (suffixes ++ rest)) =
        '<' :: (inside ++ '>' :: (suffixes ++ rest)) := by
      simpa using skipBlanks_of_not_blank (by decide)
    have short : inside.length + 1 < steps := by simp at enough; omega
    rw [opened]
    simp only [arguments_read steps _ short, behind]

/-- A phrase that is spelled is read. The induction is on the derivation; each part of a phrase is
shorter than the phrase by the tokens around it, which is what the bound counts. -/
theorem Spells.readFrom {front : List Char} {phrase : Phrase} (spelled : Spells front phrase) :
    phrase.ReadFrom front := by
  induction spelled with
  | @type before name gap bracketed suffixes arguments type blank named maximal between _ _ inner
      behind =>
    intro steps rest enough stops
    obtain ⟨steps, rfl⟩ := Nat.exists_eq_add_one_of_ne_zero (Nat.ne_zero_of_lt enough)
    have ends := maximal.append stops.endsName
    have named_long := List.length_pos_iff.mpr named.nonempty
    simp only [List.append_assoc, List.length_append] at ends enough ⊢
    exact readType_of_name blank named ends between inner (behind rest stops) (by omega) stops
  | noArguments => exact Or.inl ⟨rfl, rfl⟩
  | someArguments _ inner => exact Or.inr ⟨_, rfl, inner⟩
  | @lastArgument text type _ last =>
    intro steps rest enough
    obtain ⟨steps, rfl⟩ := Nat.exists_eq_add_one_of_ne_zero (Nat.ne_zero_of_lt enough)
    have read := last steps ('>' :: rest) (by omega) (by simp)
    rw [readArguments, read]
    simp [skipBlanks_of_not_blank (show isBlank '>' = false by decide)]
  | @nextArgument text others type arguments _ _ next following =>
    intro steps rest enough
    obtain ⟨steps, rfl⟩ := Nat.exists_eq_add_one_of_ne_zero (Nat.ne_zero_of_lt enough)
    simp only [List.append_assoc, List.cons_append, List.length_append, List.length_cons]
      at enough ⊢
    have read := next steps (',' :: (others ++ '>' :: rest)) (by omega) (by simp)
    have others_read := following steps rest (by omega)
    rw [readArguments, read]
    simp [skipBlanks_of_not_blank (show isBlank ',' = false by decide), others_read]
  | noSuffix blank =>
    intro rest stops
    rw [(readSuffixes_blanks _ blank rest).1, readSuffixes_of_endsType _ stops]
  | @arraySuffix before gap behind base type blank between _ others =>
    intro rest stops
    have opened : readSuffixes base ('[' :: (gap ++ ']' :: (behind ++ rest))) =
        readClosingBracket base (gap ++ ']' :: (behind ++ rest)) := by
      simp [readSuffixes, show isBlank '[' = false by decide]
    have closed : readClosingBracket base (']' :: (behind ++ rest)) =
        readSuffixes (.array base) (behind ++ rest) := by
      simp [readClosingBracket, show isBlank ']' = false by decide]
    simp only [List.append_assoc, List.cons_append]
    rw [(readSuffixes_blanks base blank _).1, opened, (readSuffixes_blanks base between _).2,
      closed, others rest stops]
  | @nullableSuffix before behind base type blank _ others =>
    intro rest stops
    have marked : readSuffixes base ('?' :: (behind ++ rest)) =
        readSuffixes (.nullable base) (behind ++ rest) := by
      simp [readSuffixes, show isBlank '?' = false by decide]
    simp only [List.append_assoc, List.cons_append]
    rw [(readSuffixes_blanks base blank _).1, marked, others rest stops]

/-- A text is read as a type exactly when it spells that type, so reading is decided by the grammar
alone. -/
theorem parse_eq_ok {text : String} {type : TypeSyntax} :
    parse text = .ok type ↔ Spells text.toList (.type type) := by
  constructor
  · intro read
    unfold parse at read
    split at read
    · cases read
    · rename_i tree whole
      obtain rfl := by simpa using read
      obtain ⟨front, text_eq, spelled⟩ := (readType_spells _).1 _ _ _ whole
      rw [List.append_nil] at text_eq
      exact text_eq ▸ spelled
    · cases read
  · intro spelled
    have whole := spelled.readFrom (text.toList.length + 1) [] (by omega) endsType_nil
    rw [List.append_nil] at whole
    simp only [parse, whole]

end TypedClients.TypeSyntax
