import TypedClients.Proofs.CSharp.Operands

/-!
# Reading lists, types and suffixes

A list of expressions is read up to the mark that closes it, and types are read where their normal
spellings stand. Behind an expression without an operator, members, elements and calls are read one
after the other, each as a suffix of all that stands before it.

A list is read item by item for as long as commas separate items, and a suffix for as long as a mark
stands there that begins one. Both readers get their fuel from the text, so each lemma says how much
of it is needed.
-/

namespace TypedClients.CSharp

open Text

variable {alphabet : NameAlphabet} {rest : List Char}

/-! ## Lists of expressions -/

/-- Expressions as they are printed in a list. -/
def itemChars : List Expr → List Char
  | [] => []
  | [expr] => expr.chars
  | expr :: next :: others => expr.chars ++ ',' :: ' ' :: itemChars (next :: others)

/-- Expressions that are printed with commas between them have the characters of a list, in the form
in which the reader comes to them: one item, and a comma in front of every other one. -/
theorem toList_items (items : List Expr) :
    (String.intercalate ", " (printAll items)).toList = itemChars items := by
  induction items with
  | nil => rfl
  | cons expr items inductionHypothesis =>
    cases items with
    | nil => simp [printAll, itemChars, Expr.chars]
    | cons next others =>
      rw [itemChars, ← inductionHypothesis, printAll,
        String.intercalate_cons_of_ne_nil (by simp [printAll])]
      simp [Expr.chars]

/-- The rest of a list may have a space in front, with any number of steps. -/
@[simp] theorem readMore?_space (steps : Nat) (mark : Char) (text : List Char) :
    readMore? alphabet steps mark (' ' :: text) = readMore? alphabet steps mark text := by
  cases steps with
  | zero => rfl
  | succ steps => simp [readMore?]

/-- What stands behind a list: the mark that closes it, perhaps with a space before it. -/
inductive ClosedBy (mark : Char) (rest : List Char) : List Char → Prop where
  | mark : ClosedBy mark rest (mark :: rest)
  | space : ClosedBy mark rest (' ' :: mark :: rest)

/-- Behind a list comes a closing mark, so that nothing there goes on with the last expression of
the list. -/
theorem ClosedBy.closes {mark : Char} {text : List Char} (closed : ClosedBy mark rest text)
    (closing : mark ∈ closingMarks) : Closes text := by
  cases closed with
  | mark => exact .mark closing
  | space => exact .space closing

/-- Behind a list its own mark is read and no other, perhaps after a space. -/
theorem ClosedBy.readMark? {mark : Char} {text : List Char} (closed : ClosedBy mark rest text)
    (visible : mark ≠ ' ') (other : Char) :
    CSharp.readMark? other text = if mark = other then some rest else none := by
  cases closed <;> simp [visible]

/-- A list may have a space in front, with any number of steps. -/
@[simp] theorem readItems?_space (steps : Nat) (mark : Char) (text : List Char) :
    readItems? alphabet steps mark (' ' :: text) = readItems? alphabet steps mark text := by
  cases steps with
  | zero => rfl
  | succ steps => simp [readItems?]

/-- Expressions that are read back are read from the list that they are printed in, one behind each
comma. The induction is on the list, and the fuel of the reader goes down with it. -/
theorem readMore?_items {items : List Expr} (nonempty : items ≠ [])
    (back : ∀ item ∈ items, ReadsBack alphabet item) {mark : Char} (closing : mark ∈ [')', '}'])
    {text : List Char} (closed : ClosedBy mark rest text) {steps : Nat}
    (enough : stepsFor (itemChars items ++ text) 4 ≤ steps) :
    readMore? alphabet steps mark (itemChars items ++ text) =
      some (allSpelledOut items, rest) := by
  have marks : mark ∈ closingMarks ∧ mark ≠ ' ' ∧ mark ≠ ',' := by
    simp only [List.mem_cons, List.not_mem_nil, or_false] at closing
    rcases closing with rfl | rfl <;> decide
  induction items generalizing steps with
  | nil => exact absurd rfl nonempty
  | cons item items inductionHypothesis =>
    obtain ⟨first, others⟩ := List.forall_mem_cons.mp back
    cases items with
    | nil =>
      -- The last item ends at the mark, where no comma is read.
      simp only [itemChars] at enough ⊢
      simp only [stepsFor] at enough
      obtain ⟨steps, rfl⟩ := Nat.exists_eq_add_one_of_ne_zero (show steps ≠ 0 by omega)
      have read : readExpr? alphabet steps 0 (item.chars ++ text) =
          some (item.spelledOut, text) :=
        first.read (Nat.zero_le _) (closed.closes marks.1).follows (by
          simp only [stepsFor]
          omega)
      have comma := closed.readMark? marks.2.1 ','
      have close := closed.readMark? marks.2.1 mark
      rw [if_neg marks.2.2] at comma
      rw [if_pos rfl] at close
      rw [readMore?, read]
      simp [comma, close, allSpelledOut]
    | cons next later =>
      -- Any other item ends at the comma behind it.
      simp only [itemChars, List.append_assoc, List.cons_append] at enough ⊢
      simp only [stepsFor, List.length_append, List.length_cons] at enough
      obtain ⟨steps, rfl⟩ := Nat.exists_eq_add_one_of_ne_zero (show steps ≠ 0 by omega)
      have comma : Closes (',' :: ' ' :: (itemChars (next :: later) ++ text)) := .mark (by decide)
      have read : readExpr? alphabet steps 0
          (item.chars ++ ',' :: ' ' :: (itemChars (next :: later) ++ text)) =
            some (item.spelledOut, ',' :: ' ' :: (itemChars (next :: later) ++ text)) :=
        first.read (Nat.zero_le _) comma.follows (by
          simp only [stepsFor, List.length_append, List.length_cons]
          omega)
      have behind : readMore? alphabet steps mark (itemChars (next :: later) ++ text) =
          some (allSpelledOut (next :: later), rest) :=
        inductionHypothesis (List.cons_ne_nil next later) others (by
          simp only [stepsFor, List.length_append]
          omega)
      rw [readMore?, read]
      simp [behind, allSpelledOut]

/-- A list of expressions is read up to its closing mark. The empty list is the mark alone, and any
other one begins with an item. -/
theorem readItems?_items {items : List Expr} (back : ∀ item ∈ items, ReadsBack alphabet item)
    {mark : Char} (closing : mark ∈ [')', '}']) {text : List Char}
    (closed : ClosedBy mark rest text) {steps : Nat}
    (enough : stepsFor (itemChars items ++ text) 5 ≤ steps) :
    readItems? alphabet steps mark (itemChars items ++ text) =
      some (allSpelledOut items, rest) := by
  have marks : mark ∈ closingMarks ∧ mark ≠ ' ' := by
    simp only [List.mem_cons, List.not_mem_nil, or_false] at closing
    rcases closing with rfl | rfl <;> decide
  simp only [stepsFor] at enough
  obtain ⟨steps, rfl⟩ := Nat.exists_eq_add_one_of_ne_zero (show steps ≠ 0 by omega)
  cases items with
  | nil =>
    have close := closed.readMark? marks.2 mark
    rw [if_pos rfl] at close
    simp [readItems?, itemChars, close, allSpelledOut]
  | cons item items =>
    have read : readMore? alphabet steps mark (itemChars (item :: items) ++ text) =
        some (allSpelledOut (item :: items), rest) :=
      readMore?_items (List.cons_ne_nil item items) back closing closed (by
        simp only [stepsFor]
        omega)
    have unclosed : CSharp.readMark? mark (itemChars (item :: items) ++ text) = none := by
      have begins : BeginsApart (' ' :: closingMarks) (itemChars (item :: items)) := by
        have visible := (back item List.mem_cons_self).visible
        cases items with
        | nil => exact visible
        | cons next later => exact visible.append _
      obtain ⟨c, others, same, visible⟩ := begins.append text
      rw [same, readMark?_cons (List.ne_of_not_mem_cons visible)]
      refine if_neg ?_
      rintro rfl
      exact List.not_mem_of_not_mem_cons visible marks.1
    rw [readItems?, unclosed]
    exact read

/-! ## Types -/

/-- Type arguments are read up to their closing bracket. Types that do not belong to the language
would be read by the same reader and refused. -/
theorem readTypes?_render {first : TypeSyntax} {others : List TypeSyntax}
    (wellNamed : ∀ type ∈ first :: others, type.WellNamed)
    (known : areTypesOf alphabet (first :: others) = true) :
    readTypes? alphabet
        ((first.render ++ TypeSyntax.renderFollowing others).toList ++ '>' :: rest) =
      some (first :: others, rest) := by
  have spelled := TypeSyntax.spells_arguments first others fun type member =>
    (wellNamed type member).spells
  have read := spelled.readFrom
    (((first.render ++ TypeSyntax.renderFollowing others).toList ++ '>' :: rest).length + 1) rest
    (by
      simp only [List.length_append, List.length_cons]
      omega)
  rw [readTypes?, read]
  exact if_pos known

/-- Types with commas between them are printed as those behind the first one follow it. -/
theorem intercalate_render (first : TypeSyntax) (others : List TypeSyntax) :
    String.intercalate ", " ((first :: others).map TypeSyntax.render) =
      first.render ++ TypeSyntax.renderFollowing others := by
  induction others generalizing first with
  | nil => simp [TypeSyntax.renderFollowing]
  | cons next others inductionHypothesis =>
    rw [List.map_cons, String.intercalate_cons_of_ne_nil (by simp), inductionHypothesis,
      TypeSyntax.renderFollowing]
    simp [String.append_assoc]

/-- Texts of types are the spellings of types, so that a list of texts can be replaced by a list of
types that is printed as these. -/
theorem exists_types {texts : List String} (spelled : ∀ text ∈ texts, IsTypeText alphabet text) :
    ∃ types : List TypeSyntax, types.map TypeSyntax.render = texts ∧
      (∀ type ∈ types, type.WellNamed) ∧ areTypesOf alphabet types = true := by
  induction texts with
  | nil => exact ⟨[], rfl, by simp, rfl⟩
  | cons text texts inductionHypothesis =>
    obtain ⟨first, others⟩ := List.forall_mem_cons.mp spelled
    obtain ⟨type, wellNamed, known, rfl⟩ := first
    obtain ⟨types, rfl, each, all⟩ := inductionHypothesis others
    refine ⟨type :: types, rfl, List.forall_mem_cons.mpr ⟨wellNamed, each⟩, ?_⟩
    simp [areTypesOf, known, all]

/-- The name of a type begins with a character of such names. -/
theorem beginsApart_typeName {name : List Char} (rule : TypeSyntax.IsTypeName name) :
    BeginsApart [' ', '['] name := by
  obtain ⟨c, others, rfl⟩ := List.exists_cons_of_ne_nil rule.nonempty
  have named := rule.isNameChar c List.mem_cons_self
  refine .of_eq rfl ?_
  simp only [List.mem_cons, List.not_mem_nil, or_false]
  rintro (rfl | rfl)
  · exact absurd named (by decide +kernel)
  · exact absurd named (by decide +kernel)

/-- So does a type that an object may have. -/
theorem beginsApart_render {name : String} {arguments : List TypeSyntax}
    (wellNamed : (TypeSyntax.named name arguments).WellNamed) :
    BeginsApart [' ', '['] (TypeSyntax.named name arguments).render.toList := by
  have begins : BeginsApart [' ', '['] name.toList := by
    cases wellNamed with
    | named rule _ => exact beginsApart_typeName rule
  cases arguments with
  | nil => simpa [TypeSyntax.render] using begins
  | cons first others => simpa [TypeSyntax.render] using begins.append _

/-- The type of a new object is read up to its arguments, as the normal spelling of a type ends
where a bracket stands. -/
theorem readCreated?_render {name : String} {arguments : List TypeSyntax}
    (wellNamed : (TypeSyntax.named name arguments).WellNamed)
    (known : isTypeOf alphabet (.named name arguments) = true) :
    readCreated? alphabet ((TypeSyntax.named name arguments).render.toList ++ '(' :: rest) =
      some (.named name arguments, '(' :: rest) := by
  obtain ⟨rule, inner⟩ : TypeSyntax.IsTypeName name.toList ∧
      ∀ argument ∈ arguments, argument.WellNamed := by
    cases wellNamed with
    | named rule inner => exact ⟨rule, inner⟩
  have reference : alphabet.IsTypeReference name ∧ areTypesOf alphabet arguments = true := by
    simpa [isTypeOf] using known
  have begins (tail : List Char) : skipSpaces (name.toList ++ tail) = name.toList ++ tail :=
    ((beginsApart_typeName rule).append tail).skipSpaces_eq
  cases arguments with
  | nil =>
    have ends : TypeSyntax.EndsName ('(' :: rest) :=
      TypeSyntax.endsName_cons.mpr (by decide +kernel)
    rw [TypeSyntax.render, readCreated?, begins, TypeSyntax.readName_of_name rule ends]
    simp [reference.1]
  | cons first others =>
    have ends : TypeSyntax.EndsName ('<' :: ((first.render ++
        TypeSyntax.renderFollowing others).toList ++ '>' :: '(' :: rest)) :=
      TypeSyntax.endsName_cons.mpr (by decide +kernel)
    have text : (TypeSyntax.named name (first :: others)).render.toList ++ '(' :: rest =
        name.toList ++ '<' :: ((first.render ++ TypeSyntax.renderFollowing others).toList ++
          '>' :: '(' :: rest) := by
      simp [TypeSyntax.render]
    have inside : readTypes? alphabet ((first.render ++
        TypeSyntax.renderFollowing others).toList ++ '>' :: '(' :: rest) = _ :=
      readTypes?_render inner reference.2
    rw [text, readCreated?, begins, TypeSyntax.readName_of_name rule ends]
    simp [-String.toList_append, reference.1, inside]

/-! ## Suffixes -/

/-- A name behind a dot is a member. -/
theorem readSuffixes?_dot {name : List Char} (free : alphabet.IsFreeName name)
    (ends : EndsWord alphabet rest) (steps : Nat) (object : Expr) :
    readSuffixes? alphabet (steps + 1) object ('.' :: (name ++ rest)) =
      readSuffixes? alphabet steps (.member object (String.ofList name)) rest := by
  rw [readSuffixes?]
  simp [skipSpaces_identifier free.1, alphabet.readIdentifier?_of_isIdentifier free.1 ends, free]

/-- A digit belongs to names. -/
theorem continues_of_isDigit {c : Char} (digit : c.isDigit = true) :
    alphabet.continues c = true :=
  NameAlphabet.continues_of_ascii (by simp [asciiNames, Char.isAlphanum, digit])

/-- A number begins with a digit. -/
theorem exists_digit (number : Nat) :
    ∃ c others, (toString number).toList = c :: others ∧ c.isDigit = true := by
  cases digits : (toString number).toList with
  | nil =>
    rw [Nat.toString_eq_repr, Nat.toList_repr] at digits
    exact absurd digits Nat.toDigits_ne_nil
  | cons c others =>
    exact ⟨c, others, rfl, isDigit_of_mem_toString (by rw [digits]; exact List.mem_cons_self)⟩

/-- The digits of a number are read up to where they end, and spell the number. What follows must
not go on with them, as a word or another digit would. -/
theorem readInt?_toString (number : Nat) (ends : EndsWord alphabet rest) :
    readInt? alphabet ((toString number).toList ++ rest) = some (number, rest) := by
  have digits : ∀ c ∈ (toString number).toList, c.isDigit = true := fun c member =>
    isDigit_of_mem_toString member
  have stop : ∀ c ∈ rest.head?, c.isDigit = false := by
    intro c first
    by_contra digit
    have joined : alphabet.continues c = true := continues_of_isDigit (by simpa using digit)
    rw [ends c first] at joined
    exact Bool.noConfusion joined
  obtain ⟨run, behind⟩ := cut_behind_run digits stop
  have ended : rest.head?.any alphabet.continues = false := by
    cases first : rest.head? with
    | none => rfl
    | some c => exact ends c first
  simp only [readInt?, run, behind, ended, number?_toString]
  rfl

/-- A number in brackets is the index of an element. It is the only expression that stands in such
brackets. -/
theorem readSuffixes?_index (steps : Nat) (object : Expr) (index : Nat) :
    readSuffixes? alphabet (steps + 1) object ('[' :: ((toString index).toList ++ ']' :: rest)) =
      readSuffixes? alphabet steps (.element object index) rest := by
  have spaceless : skipSpaces ((toString index).toList ++ ']' :: rest) =
      (toString index).toList ++ ']' :: rest := by
    obtain ⟨c, others, same, digit⟩ := exists_digit index
    have visible : c ≠ ' ' := by
      rintro rfl
      exact absurd digit (by decide)
    rw [same, List.cons_append, skipSpaces_cons visible]
  have digits : readInt? alphabet ((toString index).toList ++ ']' :: rest) =
      some (index, ']' :: rest) :=
    readInt?_toString index (endsWord_mark (by decide) (by decide))
  have bracket : readMark? ']' (']' :: rest) = some rest := by simp
  have mark : skipSpaces ('[' :: ((toString index).toList ++ ']' :: rest)) =
      '[' :: ((toString index).toList ++ ']' :: rest) := skipSpaces_cons (by decide) _
  rw [readSuffixes?]
  simp only [mark, spaceless, digits, bracket, Option.bind_eq_bind, Option.bind_some]

namespace ReadsBack

/-- What is in front of a suffix is read first, and the reader comes to the suffix with the fuel
that is left, which is enough for what stands there. -/
theorem exists_start {object : Expr} (primary : object.level = 6)
    (back : ReadsBack alphabet object) {mark : Char} (marked : mark ∈ ['.', '<', '(', '['])
    {steps : Nat} {text : List Char}
    (enough : stepsFor (object.chars ++ mark :: text) 2 ≤ steps) :
    ∃ more, stepsFor text 5 ≤ more ∧
      readOperand? alphabet steps (object.chars ++ mark :: text) =
        readSuffixes? alphabet (more + 1) object.spelledOut (mark :: text) := by
  have ends : EndsWord alphabet (mark :: text) := by
    simp only [List.mem_cons, List.not_mem_nil, or_false] at marked
    rcases marked with rfl | rfl | rfl | rfl <;> exact endsWord_mark (by decide) (by decide)
  obtain ⟨more, left, same⟩ := back.start primary steps _ ends enough
  simp only [stepsFor, List.length_cons] at left
  obtain ⟨more, rfl⟩ := Nat.exists_eq_add_one_of_ne_zero (show more ≠ 0 by omega)
  exact ⟨more, by simp only [stepsFor]; omega, same⟩

/-- A member of an expression is read back: behind the dot stands a name that is free. -/
theorem member {object : Expr} (primary : object.level = 6) (back : ReadsBack alphabet object)
    {name : String} (free : alphabet.IsFreeName name.toList) :
    ReadsBack alphabet (.member object name) := by
  have chars : (Expr.member object name).chars = object.chars ++ '.' :: name.toList := by
    simp [Expr.chars, Expr.print]
  refine of_start (chars ▸ back.visible.append _) ?_
  intro steps rest ends enough
  rw [chars, List.append_assoc, List.cons_append] at enough ⊢
  obtain ⟨more, left, read⟩ := back.exists_start primary (by decide) enough
  simp only [stepsFor, List.length_append] at left
  refine ⟨more, by simp only [stepsFor]; omega, ?_⟩
  rw [read, readSuffixes?_dot free ends, String.ofList_toList, Expr.spelledOut]

/-- An element of an expression is read back, by its index between brackets. -/
theorem element {object : Expr} (primary : object.level = 6) (back : ReadsBack alphabet object)
    (index : Nat) : ReadsBack alphabet (.element object index) := by
  have chars : (Expr.element object index).chars =
      object.chars ++ '[' :: ((toString index).toList ++ [']']) := by
    simp [Expr.chars, Expr.print]
  refine of_start (chars ▸ back.visible.append _) ?_
  intro steps rest ends enough
  have text : (Expr.element object index).chars ++ rest =
      object.chars ++ '[' :: ((toString index).toList ++ ']' :: rest) := by
    simp [chars]
  rw [text] at enough ⊢
  obtain ⟨more, left, read⟩ := back.exists_start primary (by decide) enough
  simp only [stepsFor, List.length_append, List.length_cons] at left
  refine ⟨more, by simp only [stepsFor]; omega, ?_⟩
  rw [read, readSuffixes?_index, Expr.spelledOut]

/-- A call is read back, with type arguments or without. A `<` behind a name begins type arguments
only if a list of types and a bracket follow, which is what is printed there. -/
theorem call {callee : Expr} (primary : callee.level = 6) (back : ReadsBack alphabet callee)
    {types : List String} (spelled : ∀ type ∈ types, IsTypeText alphabet type)
    {arguments : List Expr} (each : ∀ argument ∈ arguments, ReadsBack alphabet argument) :
    ReadsBack alphabet (.call callee types arguments) := by
  have chars : (Expr.call callee types arguments).chars = callee.chars ++
      ((printTypeArguments types).toList ++ '(' :: (itemChars arguments ++ [')'])) := by
    simp [Expr.chars, Expr.print, ← toList_items]
  refine of_start (chars ▸ back.visible.append _) ?_
  intro steps rest ends enough
  have text : (Expr.call callee types arguments).chars ++ rest = callee.chars ++
      ((printTypeArguments types).toList ++ '(' :: (itemChars arguments ++ ')' :: rest)) := by
    simp [chars]
  rw [text] at enough ⊢
  have items (steps : Nat) (left : stepsFor (itemChars arguments ++ ')' :: rest) 5 ≤ steps) :
      readItems? alphabet steps ')' (itemChars arguments ++ ')' :: rest) =
        some (allSpelledOut arguments, rest) :=
    readItems?_items each (by decide) .mark left
  obtain ⟨trees, rfl, wellNamed, known⟩ := exists_types spelled
  cases trees with
  | nil =>
    -- The bracket of the arguments stands right behind what is called.
    have bare : (printTypeArguments ([].map TypeSyntax.render)).toList ++
        '(' :: (itemChars arguments ++ ')' :: rest) = '(' :: (itemChars arguments ++ ')' :: rest) :=
      rfl
    rw [bare] at enough ⊢
    obtain ⟨more, left, read⟩ := back.exists_start primary (by decide) enough
    have inside := items more left
    simp only [stepsFor, List.length_append, List.length_cons] at left
    refine ⟨more, by simp only [stepsFor]; omega, ?_⟩
    rw [read, readSuffixes?]
    simp [inside, Expr.spelledOut]
  | cons first later =>
    have bracketed : (printTypeArguments ((first :: later).map TypeSyntax.render)).toList ++
        '(' :: (itemChars arguments ++ ')' :: rest) =
          '<' :: ((first.render ++ TypeSyntax.renderFollowing later).toList ++
            '>' :: '(' :: (itemChars arguments ++ ')' :: rest)) := by
      have brackets : printTypeArguments ((first :: later).map TypeSyntax.render) =
          "<" ++ String.intercalate ", " ((first :: later).map TypeSyntax.render) ++ ">" := rfl
      rw [brackets, intercalate_render]
      simp
    rw [bracketed] at enough ⊢
    obtain ⟨more, left, read⟩ := back.exists_start primary (by decide) enough
    simp only [stepsFor, List.length_append, List.length_cons] at left
    have inside := items more (by
      simp only [stepsFor, List.length_append, List.length_cons]
      omega)
    have typed : readTypes? alphabet ((first.render ++
        TypeSyntax.renderFollowing later).toList ++
          '>' :: '(' :: (itemChars arguments ++ ')' :: rest)) = _ :=
      readTypes?_render wellNamed known
    refine ⟨more, by simp only [stepsFor]; omega, ?_⟩
    rw [read, readSuffixes?]
    simp [-String.toList_append, typed, inside, Expr.spelledOut]

end ReadsBack

end TypedClients.CSharp
