import TypedClients.Proofs.CSharp.Expressions
import TypedClients.Proofs.CSharp.Suffixes

/-!
# Printed expressions are read back

An expression in which every operand binds as tight as its operator asks for, and in which names,
types and literals are printed legibly, is read as it was printed, up to the paths and interpolated
strings in it: one lemma for each form of expression says that it is read back when its parts are,
and the induction over expressions puts them together.

The cases of the induction are those of the printer, and the fuel that a reading takes is bounded by
the number of characters. That what is printed stands in front of something that closes it is shown
of every place in a statement.
-/

namespace TypedClients.CSharp

open Layout Text

variable {alphabet : NameAlphabet} {rest : List Char}

/-! ## Starts -/

/-- What begins with none of the marks of literals is a number or a name, and the first character
tells which. -/
theorem readAtom?_of_unquoted {c : Char} (unquoted : c ∉ ['"', '\'', '$']) (text : List Char) :
    readAtom? alphabet (c :: text) =
      if c.isDigit then
        (readInt? alphabet (c :: text)).map fun read => (.literal (.int read.1), read.2)
      else readName? alphabet (c :: text) := by
  unfold readAtom?
  split
  · rename_i same
    obtain ⟨rfl, _⟩ := List.cons.inj same
    simp at unquoted
  · rename_i same
    obtain ⟨rfl, _⟩ := List.cons.inj same
    simp at unquoted
  · rename_i same
    obtain ⟨rfl, _⟩ := List.cons.inj same
    simp at unquoted
  · rfl

/-- Where neither an operator nor a bracket nor a new object stands, a name or a literal does. -/
theorem readOperand?_atom {text : List Char} (unnegated : readMark? '!' text = none)
    (unawaited : readWord? alphabet "await" text = none) (unbracketed : readMark? '(' text = none)
    (old : readWord? alphabet "new" text = none) (steps : Nat) :
    readOperand? alphabet (steps + 2) text = (readAtom? alphabet text).bind fun found =>
      readSuffixes? alphabet (steps + 1) found.1 found.2 := by
  rw [readOperand?, unnegated]
  simp only [unawaited, readStart?, unbracketed, old]
  rfl

namespace ReadsBack

/-- An expression that begins like a name or a literal, and is read as one, is read back in every
place: as a start, as an operand and as a whole expression. -/
theorem of_atom {expr : Expr}
    (visible : BeginsApart (' ' :: '!' :: '(' :: closingMarks) expr.chars)
    (wordless : ∀ rest, EndsWord alphabet rest → ∀ word ∈ ["await", "new"],
      readWord? alphabet word (expr.chars ++ rest) = none)
    (atom : ∀ rest, EndsWord alphabet rest →
      readAtom? alphabet (expr.chars ++ rest) = some (expr.spelledOut, rest)) :
    ReadsBack alphabet expr := by
  obtain ⟨c, others, same, shown⟩ := visible
  obtain ⟨spaceless, unmarked⟩ := List.ne_and_not_mem_of_not_mem_cons shown
  obtain ⟨unnegated, unmarked⟩ := List.ne_and_not_mem_of_not_mem_cons unmarked
  obtain ⟨unbracketed, unclosed⟩ := List.ne_and_not_mem_of_not_mem_cons unmarked
  have begins : c ∉ ' ' :: closingMarks := List.not_mem_cons_of_ne_of_not_mem spaceless unclosed
  refine of_start (.of_eq same begins) ?_
  intro steps rest ends enough
  simp only [stepsFor, same, List.length_append, List.length_cons] at enough
  obtain ⟨steps, rfl⟩ := Nat.exists_eq_add_of_le' (show 2 ≤ steps by omega)
  have mark (mark : Char) (other : c ≠ mark) : readMark? mark (expr.chars ++ rest) = none := by
    rw [same, List.cons_append, readMark?_cons spaceless, if_neg other]
  refine ⟨steps + 1, by simp only [stepsFor]; omega, ?_⟩
  rw [readOperand?_atom (mark '!' unnegated) (wordless rest ends "await" (by decide))
    (mark '(' unbracketed) (wordless rest ends "new" (by decide)), atom rest ends, Option.bind_some]

/-- A literal that is no word. -/
theorem of_mark {expr : Expr} {c : Char} {others : List Char} (same : expr.chars = c :: others)
    (shown : c ∉ ' ' :: '!' :: '(' :: closingMarks) (barred : beginsNoName c = true)
    (atom : ∀ rest, EndsWord alphabet rest →
      readAtom? alphabet (expr.chars ++ rest) = some (expr.spelledOut, rest)) :
    ReadsBack alphabet expr := by
  refine of_atom (.of_eq same shown) ?_ atom
  intro rest _ word _
  rw [same, List.cons_append]
  exact readWord?_of_beginsNoName (List.ne_of_not_mem_cons shown) barred word

/-- A text literal without rare line ends is read back. Its other characters are escaped or stand
for themselves. -/
theorem text {value : String} (usual : ∀ c ∈ value.toList, c ∉ rareLineEnds) :
    ReadsBack alphabet (.literal (.text value)) := by
  have chars : (Expr.literal (.text value)).chars =
      '"' :: (value.toList.flatMap escapedChar ++ ['"']) := by
    simp [Expr.chars, Expr.print, Literal.print, escaped]
  refine of_mark chars (by decide) (by decide) ?_
  intro rest _
  have escapable (c : Char) (member : c ∈ value.toList) (barred : c ∈ lineEnds) :
      c ∈ escapedMarks :=
    (mem_escapedMarks_or_rare barred).resolve_right (usual c member)
  have quote : readRegular? lineEnds ('"' :: rest) = some ([], rest) :=
    Text.ItemReader.readUntil?_eq_some_nil.mpr ⟨rfl, rfl⟩
  have each : readRegular? lineEnds (value.toList.flatMap escapedChar ++ '"' :: rest) =
      (readRegular? lineEnds ('"' :: rest)).map fun found =>
        (value.toList.map id ++ found.1, found.2) :=
    Text.ItemReader.readUntil?_flatMap fun c member left =>
      readRegularChar?_escapedChar (escapable c member) left
  have read : readAtom? alphabet ((Expr.literal (.text value)).chars ++ rest) =
      (readRegular? lineEnds (value.toList.flatMap escapedChar ++ '"' :: rest)).map fun read =>
        (.literal (.text (String.ofList read.1)), read.2) := by
    simp [chars, readAtom?]
  rw [read, each, quote]
  simp [Expr.spelledOut]

/-- A character that stands for itself between its quotes is read back. A quote, a backslash and the
line ends do not. -/
theorem char {value : Char} (plain : value ∉ ['\'', '\\'] ∧ value ∉ lineEnds) :
    ReadsBack alphabet (.literal (.char value)) := by
  have chars : (Expr.literal (.char value)).chars = ['\'', value, '\''] := by
    simp [Expr.chars, Expr.print, Literal.print]
  refine of_mark chars (by decide) (by decide) ?_
  intro rest _
  have quoted : readAtom? alphabet ('\'' :: value :: '\'' :: rest) =
      if value ∈ ['\'', '\\'] ∨ value ∈ lineEnds then none
      else some (.literal (.char value), rest) := by
    rw [readAtom?.eq_2]
  rw [chars, List.cons_append, List.cons_append, List.cons_append, List.nil_append, quoted,
    if_neg (not_or.mpr plain), Expr.spelledOut]

/-- A number is read back: its digits are read up to the first character that is none. It is no
name, as no name begins with a digit. -/
theorem int (value : Nat) : ReadsBack alphabet (.literal (.int value)) := by
  have chars : (Expr.literal (.int value)).chars = (toString value).toList := by
    simp [Expr.chars, Expr.print, Literal.print]
  obtain ⟨c, others, same, digit⟩ := exists_digit value
  have barred := beginsNoName_of_isDigit digit
  refine of_mark (chars.trans same) ?_ barred ?_
  · intro member
    simp only [closingMarks, List.mem_cons, List.not_mem_nil, or_false] at member
    rcases member with rfl | rfl | rfl | rfl | rfl | rfl | rfl | rfl | rfl <;>
      exact absurd digit (by decide)
  · intro rest ends
    have read := readInt?_toString value ends
    have unquoted : c ∉ ['"', '\'', '$'] := by
      intro member
      simp only [List.mem_cons, List.not_mem_nil, or_false] at member
      rcases member with rfl | rfl | rfl <;> exact absurd digit (by decide)
    rw [same, List.cons_append] at read
    rw [chars, same, List.cons_append, readAtom?_of_unquoted unquoted, if_pos digit, read,
      Expr.spelledOut]
    rfl

/-- An interpolated string is read back when its parts are readable, as the reader of its parts ends
at its last quote. -/
theorem interpolated {parts : List InterpolationPart}
    (legible : ∀ part ∈ parts, part.Legible alphabet) (separated : Separated parts) :
    ReadsBack alphabet (.interpolated parts) := by
  have chars : (Expr.interpolated parts).chars = '$' :: '"' :: (printedParts parts ++ ['"']) := by
    simp [Expr.chars, Expr.print, printedParts, List.flatMap_map]
  refine of_mark chars (by decide) (by decide) ?_
  intro rest _
  have named (part : InterpolationPart) (member : part ∈ parts) : part.Named alphabet := by
    have own := legible part member
    cases part with
    | text value => trivial
    | hole name format => exact own.1.1
  have readable (part : InterpolationPart) (member : part ∈ parts) : part.Readable := by
    have own := legible part member
    cases part with
    | text value => exact own
    | hole name format => exact own.2
  have read : readInterpolated? alphabet ((Expr.interpolated parts).chars ++ rest) =
      some (parts.flatMap InterpolationPart.elements, rest) :=
    (readInterpolated?_print named separated).mpr readable
  have free : ∀ element ∈ parts.flatMap InterpolationPart.elements, element.IsFree alphabet := by
    intro element member
    obtain ⟨part, one, inside⟩ := List.mem_flatMap.mp member
    have own := legible part one
    cases part with
    | text value =>
      obtain ⟨c, _, rfl⟩ := List.mem_map.mp inside
      trivial
    | hole name format =>
      obtain rfl := List.mem_singleton.mp inside
      exact own.1
  rw [chars, List.cons_append] at read ⊢
  simp only [readAtom?, read, Option.bind_eq_bind, Option.bind_some, if_pos free, Expr.spelledOut]

end ReadsBack

/-- The words that are literals or operators, or begin a new object. -/
def specialWords : List String :=
  ["await", "new", "true", "false", "default"]

/-- An identifier begins with none of the marks of literals and operators. -/
theorem not_mem_of_begins {c : Char} (begins : beginsNoName c = false) {marks : List Char}
    (barred : marks.all beginsNoName = true) : c ∉ marks := by
  intro member
  have other := List.all_eq_true.mp barred c member
  rw [begins] at other
  exact Bool.noConfusion other

/-- An identifier is read as a name when the word ends behind it and is none of the words that begin
another form. A keyword for a type is a name only in front of a dot. -/
theorem readName?_word {name : List Char} (identified : alphabet.IsIdentifier name)
    (ends : EndsWord alphabet rest) (plain : String.ofList name ∉ specialWords)
    (free : alphabet.IsFreeName name ∨
      String.ofList name ∈ keywordTypes ∧ (readMark? '.' rest).isSome) :
    readName? alphabet (name ++ rest) = some (.name (String.ofList name), rest) := by
  simp only [specialWords, List.mem_cons, List.not_mem_nil, or_false, not_or] at plain
  simp [readName?, alphabet.readIdentifier?_of_isIdentifier identified ends, plain, free]

/-- A word that is not special is read as a name, when it is free or the keyword of a type before
a dot. -/
theorem readOperand?_word {name : List Char} (identified : alphabet.IsIdentifier name)
    (ends : EndsWord alphabet rest) (plain : String.ofList name ∉ specialWords)
    (free : alphabet.IsFreeName name ∨
      String.ofList name ∈ keywordTypes ∧ (readMark? '.' rest).isSome) (steps : Nat) :
    readOperand? alphabet (steps + 2) (name ++ rest) =
      readSuffixes? alphabet (steps + 1) (.name (String.ofList name)) rest := by
  have read := readName?_word identified ends plain free
  simp only [specialWords, List.mem_cons, List.not_mem_nil, or_false, not_or] at plain
  have word (word : String) (other : String.ofList name ≠ word) :
      readWord? alphabet word (name ++ rest) = none := by
    rw [readWord?_identifier identified ends, if_neg other]
  obtain ⟨c, others, rfl, begins⟩ := identified.exists_begin
  have marks : c ∉ [' ', '!', '(', '"', '\'', '$'] := not_mem_of_begins begins (by decide)
  simp only [List.mem_cons, List.not_mem_nil, or_false, not_or] at marks
  have mark (mark : Char) (other : c ≠ mark) : readMark? mark (c :: others ++ rest) = none := by
    rw [List.cons_append, readMark?_cons marks.1, if_neg other]
  have atom : readAtom? alphabet (c :: others ++ rest) =
      readName? alphabet (c :: others ++ rest) := by
    have number : c.isDigit = false := by
      by_contra digit
      rw [beginsNoName_of_isDigit (by simpa using digit)] at begins
      exact Bool.noConfusion begins
    rw [List.cons_append, readAtom?_of_unquoted (by simp [marks]), number]
    rfl
  rw [readOperand?_atom (mark '!' marks.2.1) (word "await" plain.1) (mark '(' marks.2.2.1)
    (word "new" plain.2.1), atom, read, Option.bind_some]

/-- A free name is not special. -/
theorem NameAlphabet.IsFreeName.plain {name : List Char} (free : alphabet.IsFreeName name) :
    String.ofList name ∉ specialWords := by
  have reserved : ∀ word ∈ ["new", "true", "false", "default"], word ∈ reservedWords := by decide
  intro special
  rcases List.mem_cons.mp special with waiting | special
  · exact free.2.2 waiting
  · exact free.2.1 (reserved _ special)

/-- The keyword of a type is a name that is not special. -/
theorem keyword_named {name : List Char} (keyword : String.ofList name ∈ keywordTypes) :
    alphabet.IsIdentifier name ∧ String.ofList name ∉ specialWords := by
  have each : ∀ word ∈ keywordTypes, asciiNames.IsName word.toList ∧ word ∉ specialWords := by
    decide +kernel
  obtain ⟨named, plain⟩ := each _ keyword
  rw [String.toList_ofList] at named
  exact ⟨.plain named.of_ascii, plain⟩

/-- Names behind dots are members, one of the other, as many of them as there are dots. -/
theorem readSuffixes?_dotted {names : List (List Char)}
    (free : ∀ name ∈ names, alphabet.IsFreeName name) (ends : EndsWord alphabet rest)
    {steps : Nat} {object : Expr}
    (enough : stepsFor (names.flatMap ('.' :: ·) ++ rest) 1 ≤ steps) :
    ∃ more, stepsFor rest 1 ≤ more ∧
      readSuffixes? alphabet steps object (names.flatMap ('.' :: ·) ++ rest) =
        readSuffixes? alphabet more (dotted object names) rest := by
  induction names generalizing steps object with
  | nil => exact ⟨steps, enough, rfl⟩
  | cons name names inductionHypothesis =>
    obtain ⟨first, others⟩ := List.forall_mem_cons.mp free
    rw [List.flatMap_cons, List.append_assoc, List.cons_append] at enough ⊢
    simp only [stepsFor, List.length_append, List.length_cons] at enough
    obtain ⟨steps, rfl⟩ := Nat.exists_eq_add_one_of_ne_zero (show steps ≠ 0 by omega)
    have apart : EndsWord alphabet (names.flatMap ('.' :: ·) ++ rest) := by
      cases names with
      | nil => exact ends
      | cons next later => exact endsWord_mark (by decide) (by decide)
    rw [readSuffixes?_dot first apart]
    exact inductionHypothesis others (by
      simp only [stepsFor, List.length_append]
      omega)

/-- A path is a name, or the keyword of a type, and the names behind it. A keyword alone is no path,
as it denotes nothing that has a value. -/
theorem IsPath.exists_names {path : String} (isPath : IsPath alphabet path) :
    ∃ first others, pieces '.' path.toList = first :: others ∧
      (alphabet.IsFreeName first ∨ String.ofList first ∈ keywordTypes ∧ others ≠ []) ∧
        ∀ name ∈ others, alphabet.IsFreeName name := by
  unfold IsPath at isPath
  cases cut : pieces '.' path.toList with
  | nil =>
    rw [cut] at isPath
    exact isPath.elim
  | cons first others =>
    rw [cut] at isPath
    exact ⟨first, others, rfl, isPath⟩

namespace ReadsBack

/-- A path is read as a word that is not special and members of it, so a dotted name and members of
a name are read alike. This is the one place where two trees have one text. -/
theorem exists_dotted {first : List Char} (identified : alphabet.IsIdentifier first)
    (plain : String.ofList first ∉ specialWords) {names : List (List Char)}
    (free : alphabet.IsFreeName first ∨ String.ofList first ∈ keywordTypes ∧ names ≠ [])
    (each : ∀ name ∈ names, alphabet.IsFreeName name) {steps : Nat}
    (ends : EndsWord alphabet rest)
    (enough : stepsFor (first ++ (names.flatMap ('.' :: ·) ++ rest)) 2 ≤ steps) :
    ∃ more, stepsFor rest 1 ≤ more ∧
      readOperand? alphabet steps (first ++ (names.flatMap ('.' :: ·) ++ rest)) =
        readSuffixes? alphabet more (dotted (.name (String.ofList first)) names) rest := by
  obtain ⟨c, others, same, _⟩ := identified.exists_begin
  have long : 1 ≤ first.length := by simp [same]
  simp only [stepsFor, List.length_append] at enough
  obtain ⟨steps, rfl⟩ := Nat.exists_eq_add_of_le' (show 2 ≤ steps by omega)
  have apart : EndsWord alphabet (names.flatMap ('.' :: ·) ++ rest) := by
    cases names with
    | nil => exact ends
    | cons next later => exact endsWord_mark (by decide) (by decide)
  have begun : alphabet.IsFreeName first ∨ String.ofList first ∈ keywordTypes ∧
      (readMark? '.' (names.flatMap ('.' :: ·) ++ rest)).isSome := by
    refine free.imp_right fun found => ⟨found.1, ?_⟩
    obtain ⟨name, later, rfl⟩ := List.exists_cons_of_ne_nil found.2
    simp
  rw [readOperand?_word identified apart plain begun]
  exact readSuffixes?_dotted each ends (by
    simp only [stepsFor, List.length_append]
    omega)

/-- A path of names is read back as what it is spelled out as: a first name and members behind it.
-/
theorem name {path : String} (isPath : IsPath alphabet path) : ReadsBack alphabet (.name path) := by
  obtain ⟨first, names, cut, free, each⟩ := isPath.exists_names
  have named : alphabet.IsIdentifier first ∧ String.ofList first ∉ specialWords :=
    free.elim (fun free => ⟨free.1, free.plain⟩) fun keyword => keyword_named keyword.1
  have chars : (Expr.name path).chars = first ++ names.flatMap ('.' :: ·) := eq_of_pieces cut
  have tree : (Expr.name path).spelledOut = dotted (.name (String.ofList first)) names := by
    simp [Expr.spelledOut, readPath, cut]
  obtain ⟨c, others, rfl, begins⟩ := named.1.exists_begin
  refine of_start (.of_eq chars (not_mem_of_begins begins (by decide))) ?_
  intro steps rest ends enough
  rw [chars, List.append_assoc] at enough ⊢
  rw [tree]
  exact exists_dotted named.1 named.2 free each ends enough

/-- A word that is a literal is read back as that literal, and not as a name. -/
theorem word {literal : Literal} {word : String}
    (printed : (literal, word) ∈
      [(.bool true, "true"), (.bool false, "false"), (.defaultValue, "default")]) :
    ReadsBack alphabet (.literal literal) := by
  have spelled : literal.print = word ∧ asciiNames.IsName word.toList ∧
      word ≠ "await" ∧ word ≠ "new" := by
    simp only [List.mem_cons, List.not_mem_nil, or_false, Prod.mk.injEq] at printed
    rcases printed with ⟨rfl, rfl⟩ | ⟨rfl, rfl⟩ | ⟨rfl, rfl⟩ <;> decide
  obtain ⟨same, named, awaitless, old⟩ := spelled
  have identified : alphabet.IsIdentifier word.toList := .plain named.of_ascii
  have chars : (Expr.literal literal).chars = word.toList := by rw [Expr.chars, Expr.print, same]
  obtain ⟨c, others, begun, begins⟩ := identified.exists_begin
  refine of_atom (.of_eq (chars.trans begun) (not_mem_of_begins begins (by decide))) ?_ ?_
  · intro rest ends other member
    rw [chars, readWord?_identifier identified ends, String.ofList_toList, if_neg]
    simp only [List.mem_cons, List.not_mem_nil, or_false] at member
    rcases member with rfl | rfl
    · exact awaitless
    · exact old
  · intro rest ends
    have read : readName? alphabet (word.toList ++ rest) = some (.literal literal, rest) := by
      simp only [List.mem_cons, List.not_mem_nil, or_false, Prod.mk.injEq] at printed
      rw [readName?, alphabet.readIdentifier?_of_isIdentifier identified ends]
      rcases printed with ⟨rfl, rfl⟩ | ⟨rfl, rfl⟩ | ⟨rfl, rfl⟩ <;> rfl
    have number : c.isDigit = false := by
      by_contra digit
      rw [beginsNoName_of_isDigit (by simpa using digit)] at begins
      exact Bool.noConfusion begins
    rw [begun, List.cons_append] at read
    rw [chars, begun, List.cons_append,
      readAtom?_of_unquoted (not_mem_of_begins begins (by decide)), number, Expr.spelledOut]
    exact read

/-- A member of the keyword of a type is read back, such as a test of texts. The keyword is a name
here, while alone it would be none. -/
theorem member_keyword {object : Expr} (keyword : object.IsKeywordType) {name : String}
    (free : alphabet.IsFreeName name.toList) : ReadsBack alphabet (.member object name) := by
  cases object with
  | name path =>
    have known : path ∈ keywordTypes := keyword
    have undotted : '.' ∉ path.toList := by
      have each : ∀ word ∈ keywordTypes, '.' ∉ word.toList := by decide +kernel
      exact each path known
    have listed : String.ofList path.toList ∈ keywordTypes := by rwa [String.ofList_toList]
    obtain ⟨identified, plain⟩ : alphabet.IsIdentifier path.toList ∧ _ := keyword_named listed
    have chars : (Expr.member (.name path) name).chars =
        path.toList ++ [name.toList].flatMap ('.' :: ·) := by
      simp [Expr.chars, Expr.print]
    have tree : (Expr.member (.name path) name).spelledOut =
        dotted (.name (String.ofList path.toList)) [name.toList] := by
      simp [Expr.spelledOut, readPath, pieces_of_not_mem undotted, dotted]
    obtain ⟨c, others, begun, begins⟩ := identified.exists_begin
    have visible : BeginsApart (' ' :: closingMarks) path.toList :=
      .of_eq begun (not_mem_of_begins begins (by decide))
    refine of_start (chars ▸ visible.append _) ?_
    intro steps rest ends enough
    rw [chars, List.append_assoc] at enough ⊢
    rw [tree]
    exact exists_dotted identified plain (Or.inr ⟨listed, List.cons_ne_nil _ _⟩)
      (List.forall_mem_singleton.mpr free) ends enough
  | _ => exact keyword.elim

end ReadsBack

/-- Behind the word `new` stands a new array or a new object, and suffixes may follow either of
them. -/
theorem readOperand?_new {text : List Char} (ends : EndsWord alphabet text) (steps : Nat) :
    readOperand? alphabet (steps + 2) ("new".toList ++ text) =
      (readNew? alphabet steps text).bind fun found =>
        readSuffixes? alphabet (steps + 1) found.1 found.2 := by
  have named : alphabet.IsIdentifier "new".toList :=
    .plain (NameAlphabet.IsName.of_ascii (by decide))
  have awaitless : readWord? alphabet "await" ("new".toList ++ text) = none := by
    rw [readWord?_identifier named ends]
    rfl
  have created : readWord? alphabet "new" ("new".toList ++ text) = some text := by
    rw [readWord?_identifier named ends]
    rfl
  have unmarked : readMark? '!' ("new".toList ++ text) = none ∧
      readMark? '(' ("new".toList ++ text) = none := ⟨rfl, rfl⟩
  rw [readOperand?, unmarked.1]
  simp only [awaitless, readStart?, unmarked.2, created]
  rfl

namespace ReadsBack

/-- A new object is read back, from the word in front of its type to the bracket behind its
arguments. -/
theorem create {type : String} (created : IsCreatedText alphabet type) {arguments : List Expr}
    (each : ∀ argument ∈ arguments, ReadsBack alphabet argument) :
    ReadsBack alphabet (.create type arguments) := by
  obtain ⟨name, typeArguments, wellNamed, known, rfl⟩ := created
  have chars : (Expr.create (TypeSyntax.named name typeArguments).render arguments).chars =
      "new".toList ++ ' ' :: ((TypeSyntax.named name typeArguments).render.toList ++
        '(' :: (itemChars arguments ++ [')'])) := by
    simp [Expr.chars, Expr.print, ← toList_items]
  refine of_start (.of_eq chars (by decide)) ?_
  intro steps rest ends enough
  have text : (Expr.create (TypeSyntax.named name typeArguments).render arguments).chars ++ rest =
      "new".toList ++ ' ' :: ((TypeSyntax.named name typeArguments).render.toList ++
        '(' :: (itemChars arguments ++ ')' :: rest)) := by
    simp [chars]
  rw [text] at enough ⊢
  simp only [stepsFor, List.length_append, List.length_cons] at enough
  obtain ⟨steps, rfl⟩ := Nat.exists_eq_add_of_le' (show 3 ≤ steps by omega)
  have type : readCreated? alphabet ((TypeSyntax.named name typeArguments).render.toList ++
      '(' :: (itemChars arguments ++ ')' :: rest)) = _ :=
    readCreated?_render wellNamed known
  have items : readItems? alphabet steps ')' (itemChars arguments ++ ')' :: rest) =
      some (allSpelledOut arguments, rest) :=
    readItems?_items each (by decide) .mark (by
      simp only [stepsFor, List.length_append, List.length_cons]
      omega)
  refine ⟨steps + 2, by simp only [stepsFor]; omega, ?_⟩
  have unbracketed : readMark? '[' (' ' :: ((TypeSyntax.named name typeArguments).render.toList ++
      '(' :: (itemChars arguments ++ ')' :: rest))) = none := by
    obtain ⟨c, others, same, apart⟩ := (beginsApart_render wellNamed).append
      ('(' :: (itemChars arguments ++ ')' :: rest))
    obtain ⟨visible, other⟩ := List.ne_and_not_mem_of_not_mem_cons apart
    rw [readMark?_space, same, readMark?_cons visible, if_neg (List.ne_of_not_mem_cons other)]
  have spaced : readCreated? alphabet
      (' ' :: ((TypeSyntax.named name typeArguments).render.toList ++
        '(' :: (itemChars arguments ++ ')' :: rest))) = _ := type
  rw [readOperand?_new (endsWord_mark (by decide) (by decide)), readNew?, unbracketed]
  simp [spaced, items, Expr.spelledOut]

/-- A new array is read back, with its items between braces, which close it as brackets close
arguments. -/
theorem createArray {items : List Expr} (each : ∀ item ∈ items, ReadsBack alphabet item) :
    ReadsBack alphabet (.createArray items) := by
  have chars : (Expr.createArray items).chars =
      "new".toList ++ '[' :: ']' :: ' ' :: '{' :: ' ' :: (itemChars items ++ [' ', '}']) := by
    simp [Expr.chars, Expr.print, ← toList_items]
  refine of_start (.of_eq chars (by decide)) ?_
  intro steps rest ends enough
  have text : (Expr.createArray items).chars ++ rest =
      "new".toList ++
        '[' :: ']' :: ' ' :: '{' :: ' ' :: (itemChars items ++ ' ' :: '}' :: rest) := by
    simp [chars]
  rw [text] at enough ⊢
  simp only [stepsFor, List.length_append, List.length_cons] at enough
  obtain ⟨steps, rfl⟩ := Nat.exists_eq_add_of_le' (show 3 ≤ steps by omega)
  have inside : readItems? alphabet steps '}' (itemChars items ++ ' ' :: '}' :: rest) =
      some (allSpelledOut items, rest) :=
    readItems?_items each (by decide) .space (by
      simp only [stepsFor, List.length_append, List.length_cons]
      omega)
  refine ⟨steps + 2, by simp only [stepsFor]; omega, ?_⟩
  rw [readOperand?_new (endsWord_mark (by decide) (by decide)), readNew?]
  simp [inside, Expr.spelledOut]

end ReadsBack

/-! ## All expressions -/

mutual

/-- An expression whose operators stand where they may, and whose names, types and literals are
printed legibly, is read back. The induction is on the expression. -/
theorem Expr.readsBack : (expr : Expr) → expr.Graded → expr.Legible alphabet →
    ReadsBack alphabet expr
  | .name _, _, legible => .name legible
  | .literal (.text _), _, legible => .text legible
  | .literal (.char _), _, legible => .char legible
  | .literal (.int value), _, _ => .int value
  | .literal (.bool true), _, _ => .word (List.mem_cons_self)
  | .literal (.bool false), _, _ => .word (List.mem_cons_of_mem _ List.mem_cons_self)
  | .literal .defaultValue, _, _ =>
    .word (List.mem_cons_of_mem _ (List.mem_cons_of_mem _ List.mem_cons_self))
  | .interpolated _, _, legible => .interpolated legible.1 legible.2
  | .call callee _ arguments, graded, legible =>
    .call graded.1 (callee.readsBack graded.2.1 legible.1) legible.2.1
      (allReadBack arguments graded.2.2 legible.2.2)
  | .member object _, graded, legible =>
    legible.1.elim (fun own => .member graded.1 (object.readsBack graded.2 own) legible.2)
      fun keyword => .member_keyword keyword legible.2
  | .element object index, graded, legible =>
    .element graded.1 (object.readsBack graded.2 legible) index
  | .create _ arguments, graded, legible =>
    .create legible.1 (allReadBack arguments graded legible.2)
  | .createArray items, graded, legible => .createArray (allReadBack items graded legible)
  | .await operand, graded, legible => .await graded.1 (operand.readsBack graded.2 legible)
  | .not operand, graded, legible => .not (operand.readsBack graded.2 legible) graded.1
  | .binary left op right, graded, legible =>
    .binary op graded.1 graded.2.1 (left.readsBack graded.2.2.1 legible.1)
      (right.readsBack graded.2.2.2 legible.2)
  | .isNotNull operand, graded, legible =>
    .isNotNull graded.1 (operand.readsBack graded.2 legible)
  | .conditional condition yes no, graded, legible =>
    .conditional graded.1 (condition.readsBack graded.2.1 legible.1)
      (yes.readsBack graded.2.2.1 legible.2.1) (no.readsBack graded.2.2.2 legible.2.2)

/-- Expressions of a list are read back, each by itself. -/
theorem allReadBack : (items : List Expr) → allGraded items → allLegible alphabet items →
    ∀ item ∈ items, ReadsBack alphabet item
  | [], _, _ => fun _ member => absurd member List.not_mem_nil
  | item :: others, graded, legible =>
    List.forall_mem_cons.mpr ⟨item.readsBack graded.1 legible.1,
      allReadBack others graded.2 legible.2⟩

end

/-- Such an expression is read to its end, as what it was printed from. -/
theorem readExpression?_print {expr : Expr} (graded : expr.Graded)
    (legible : expr.Legible alphabet) (closes : Closes rest) :
    readExpression? alphabet (expr.print.toList ++ rest) = some (expr.spelledOut, rest) :=
  (expr.readsBack graded legible).read (Nat.zero_le _) closes.follows (Nat.le_refl _)

/-! ## Where expressions are printed -/

/-- An expression stands in a line, in front of something that closes it. -/
def Expr.StandsIn (expr : Expr) (steps : List Step) : Prop :=
  ∃ before behind, .line (before ++ expr.print ++ behind) ∈ steps ∧ Closes behind.toList

namespace Expr.StandsIn

variable {expr : Expr} {steps : List Step}

/-- An expression that stands in some steps stands in all steps that have these among them. -/
theorem mono {longer : List Step} (stands : expr.StandsIn steps) (kept : steps ⊆ longer) :
    expr.StandsIn longer := by
  obtain ⟨before, behind, member, closes⟩ := stands
  exact ⟨before, behind, kept member, closes⟩

/-- In a body between braces. -/
theorem braced (stands : expr.StandsIn steps) : expr.StandsIn (CSharp.braced steps) :=
  stands.mono fun _ member => List.mem_cons_of_mem _ (List.mem_append_left _ member)

/-- In a line, with something in front of it. -/
theorem line (before behind : String) (closes : Closes behind.toList) :
    expr.StandsIn (.line (before ++ expr.print ++ behind) :: steps) :=
  ⟨before, behind, List.mem_cons_self, closes⟩

/-- An expression that stands in some steps stands there behind another step too. -/
theorem cons (step : Step) (stands : expr.StandsIn steps) : expr.StandsIn (step :: steps) :=
  stands.mono (List.subset_cons_self step steps)

/-- An expression that stands in some steps stands there with others behind them. -/
theorem append_left (others : List Step) (stands : expr.StandsIn steps) :
    expr.StandsIn (steps ++ others) :=
  stands.mono (List.subset_append_left steps others)

/-- An expression that stands in some steps stands there with others before them. -/
theorem append_right (others : List Step) (stands : expr.StandsIn steps) :
    expr.StandsIn (others ++ steps) :=
  stands.mono (List.subset_append_right others steps)

end Expr.StandsIn

mutual

/-- The expressions of a statement stand in its lines, each in front of something that closes it.
The induction is on the statement, with a lemma for bodies, for handlers and for cleanups. -/
theorem Stmt.stands_in_steps (stmt : Stmt) :
    ∀ expr ∈ stmt.expressions, expr.StandsIn stmt.steps := by
  have semicolon : Closes ";".toList := .mark (by decide)
  have bracket : Closes ")".toList := .mark (by decide)
  cases stmt with
  | declare name init =>
    exact List.forall_mem_singleton.mpr (.line ("var " ++ name ++ " = ") ";" semicolon)
  | assign target value =>
    refine List.forall_mem_cons.mpr ⟨.line (target.print ++ " = ") ";" semicolon, ?_⟩
    refine List.forall_mem_singleton.mpr ⟨"", " = " ++ value.print ++ ";", ?_, ?_⟩
    · simp [Stmt.steps, String.append_assoc]
    · simpa using Closes.assignment
  | evaluate value =>
    refine List.forall_mem_singleton.mpr ⟨"", ";", ?_, semicolon⟩
    simp [Stmt.steps]
  | giveBack value => exact List.forall_mem_singleton.mpr (.line "return " ";" semicolon)
  | rethrow => exact List.forall_mem_nil _
  | whenTrue condition body =>
    exact List.forall_mem_cons.mpr ⟨.line "if (" ")" bracket, fun expr member =>
      (stands_in_bodySteps body expr member).braced.cons _⟩
  | withResource name init body =>
    exact List.forall_mem_cons.mpr ⟨.line ("using (var " ++ name ++ " = ") ")" bracket,
      fun expr member => (stands_in_bodySteps body expr member).braced.cons _⟩
  | forEach item items body =>
    exact List.forall_mem_cons.mpr ⟨.line ("foreach (var " ++ item ++ " in ") ")" bracket,
      fun expr member => (stands_in_bodySteps body expr member).braced.cons _⟩
  | block body => exact fun expr member => (stands_in_bodySteps body expr member).braced
  | guarded body handler cleanup =>
    have tried (expr : Expr) (member : expr ∈ expressionsOf body) :
        expr.StandsIn (.line "try" :: CSharp.braced (bodySteps body)) :=
      (stands_in_bodySteps body expr member).braced.cons _
    have handled := stands_in_handlerSteps handler
    have cleaned := stands_in_cleanupSteps cleanup
    refine List.forall_mem_append.mpr ⟨List.forall_mem_append.mpr ⟨?_, ?_⟩, ?_⟩
    · exact fun expr member => ((tried expr member).append_left _).append_left _
    · exact fun expr member => ((handled expr member).append_right _).append_left _
    · exact fun expr member => (cleaned expr member).append_right _
  | blank => exact List.forall_mem_nil _

/-- The expressions of statements one after the other stand in their lines. -/
theorem stands_in_bodySteps (body : List Stmt) :
    ∀ expr ∈ expressionsOf body, expr.StandsIn (bodySteps body) := by
  cases body with
  | nil => exact List.forall_mem_nil _
  | cons stmt body =>
    exact List.forall_mem_append.mpr
      ⟨fun expr member => (stmt.stands_in_steps expr member).append_left _,
        fun expr member => (stands_in_bodySteps body expr member).append_right _⟩

/-- The expressions of a handler stand in its lines. -/
theorem stands_in_handlerSteps (handler : Option (CatchClause (List Stmt))) :
    ∀ expr ∈ handlerExpressions handler, expr.StandsIn (handlerSteps handler) := by
  obtain _ | ⟨exceptionType, caught, handler⟩ := handler
  · exact List.forall_mem_nil _
  · exact fun expr member => (stands_in_bodySteps handler expr member).braced.cons _

/-- The expressions of a cleanup stand in its lines. -/
theorem stands_in_cleanupSteps (cleanup : Option (List Stmt)) :
    ∀ expr ∈ cleanupExpressions cleanup, expr.StandsIn (cleanupSteps cleanup) := by
  cases cleanup with
  | none => exact List.forall_mem_nil _
  | some cleanup => exact fun expr member =>
      (stands_in_bodySteps cleanup expr member).braced.cons (.line "finally")

end

end TypedClients.CSharp
