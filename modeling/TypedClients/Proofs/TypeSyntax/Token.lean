import TypedClients.Proofs.TypeSyntax.Reading

/-!
# Tokens of type texts

The tokens of a text are its maximal runs of name characters and every other visible character by
itself. White space parts tokens and is none. Two texts with the same tokens differ only in the
white space between them, and the grammar of types cannot tell such texts apart.

A derivation is taken apart along the tokens of the text and put together again along those of the
other one. The one place where white space matters is between two names, where it keeps them two
tokens.
-/

namespace TypedClients.TypeSyntax

open Text

/-- A character put in front of the first token. -/
def extendFirst (c : Char) : List (List Char) → List (List Char)
  | [] => [[c]]
  | token :: others => (c :: token) :: others

/-- The tokens of a text, in order. -/
def tokens : List Char → List (List Char)
  | [] => []
  | c :: rest =>
    if isBlank c then tokens rest
    else if isNameChar c && rest.head?.any isNameChar then extendFirst c (tokens rest)
    else [c] :: tokens rest

/-- White space in front of a text is no token. -/
theorem tokens_blanks {gap : List Char} (blank : Blanks gap) (text : List Char) :
    tokens (gap ++ text) = tokens text := by
  induction gap with
  | nil => rfl
  | cons c gap inductionHypothesis =>
    obtain ⟨first, others⟩ := blanks_cons.mp blank
    simpa [tokens, first] using inductionHypothesis others

/-- A visible character that is no name character is a token. -/
theorem tokens_mark {mark : Char} (visible : isBlank mark = false)
    (other : isNameChar mark = false) (text : List Char) :
    tokens (mark :: text) = [mark] :: tokens text := by
  simp [tokens, visible, other]

/-- A text that begins with a name character begins with a token, so it has one. -/
theorem tokens_ne_nil {text : List Char} (named : text.head?.any isNameChar = true) :
    tokens text ≠ [] := by
  cases text with
  | nil => simp at named
  | cons c text =>
    have visible := isBlank_of_isNameChar (by simpa using named)
    simp only [tokens, visible, Bool.false_eq_true, if_false]
    split
    · cases tokens text <;> simp [extendFirst]
    · simp

/-- Where a name ends, the tokens of a text come apart: no token has characters from both sides. -/
theorem tokens_append {first second : List Char} (ends : EndsName second) :
    tokens (first ++ second) = tokens first ++ tokens second := by
  induction first with
  | nil => rfl
  | cons c first inductionHypothesis =>
    have boundary : (first ++ second).head?.any isNameChar = first.head?.any isNameChar := by
      cases first with
      | nil =>
        cases second with
        | nil => rfl
        | cons mark second => simpa using endsName_cons.mp ends
      | cons next first => rfl
    simp only [List.cons_append, tokens, boundary, inductionHypothesis]
    split
    · rfl
    · split
      · rename_i joined
        have nonempty : tokens first ≠ [] := tokens_ne_nil (by simp_all)
        cases first_tokens : tokens first with
        | nil => exact absurd first_tokens nonempty
        | cons token others => rfl
      · rfl

/-- A run of name characters is one token, however long it is, as a token reaches as far as it can.
-/
theorem tokens_name {name : List Char} (nonempty : name ≠ [])
    (named : ∀ c ∈ name, isNameChar c = true) : tokens name = [name] := by
  induction name with
  | nil => exact absurd rfl nonempty
  | cons c name inductionHypothesis =>
    obtain ⟨first, others⟩ := List.forall_mem_cons.mp named
    have visible := isBlank_of_isNameChar first
    cases name with
    | nil => simp [tokens, visible]
    | cons next name =>
      have next_named := others next List.mem_cons_self
      have rest := inductionHypothesis (by simp) others
      rw [tokens, rest]
      simp [visible, first, next_named, extendFirst]

/-- A text without a token is white space, since every other character is in one. -/
theorem blanks_of_tokens_nil {text : List Char} (none : tokens text = []) : Blanks text := by
  induction text with
  | nil => exact blanks_nil
  | cons c text inductionHypothesis =>
    rw [tokens] at none
    split at none
    · rename_i blank
      exact blanks_cons.mpr ⟨blank, inductionHypothesis none⟩
    · split at none
      · cases first_tokens : tokens text <;> simp [first_tokens, extendFirst] at none
      · simp at none

/-- The first token of a text stands behind white space, and reaches as far as it can. -/
theorem exists_first_token {text token : List Char} {others : List (List Char)}
    (first : tokens text = token :: others) :
    ∃ before rest, text = before ++ (token ++ rest) ∧ Blanks before ∧ tokens rest = others ∧
      ((∀ c ∈ token, isNameChar c = true) → EndsName rest) := by
  induction text generalizing token with
  | nil => simp [tokens] at first
  | cons c text inductionHypothesis =>
    rw [tokens] at first
    split at first
    · rename_i blank
      obtain ⟨before, rest, rfl, blanks, following, ends⟩ := inductionHypothesis first
      exact ⟨c :: before, rest, rfl, blanks_cons.mpr ⟨blank, blanks⟩, following, ends⟩
    · split at first
      · rename_i joined
        have next_named : text.head?.any isNameChar = true := by simp_all
        cases next_tokens : tokens text with
        | nil => exact absurd next_tokens (tokens_ne_nil next_named)
        | cons next following =>
          obtain ⟨rfl, rfl⟩ := by simpa [next_tokens, extendFirst] using first
          obtain ⟨before, rest, rfl, blanks, rfl, ends⟩ := inductionHypothesis next_tokens
          -- The next character is a name character, so no white space comes before it.
          cases before with
          | cons gap before =>
            have blank := (blanks_cons.mp blanks).1
            simp [isNameChar_of_isBlank blank] at next_named
          | nil =>
            refine ⟨[], rest, rfl, blanks_nil, rfl, fun named => ends ?_⟩
            exact (List.forall_mem_cons.mp named).2
      · rename_i apart
        obtain ⟨rfl, rfl⟩ := by simpa using first
        refine ⟨[], text, rfl, blanks_nil, rfl, fun named => ?_⟩
        cases text with
        | nil => exact endsName_nil
        | cons next text => simp_all

/-- A mark that is the first token stands behind white space. -/
theorem exists_mark {text : List Char} {mark : Char} {others : List (List Char)}
    (first : tokens text = [mark] :: others) :
    ∃ before rest, text = before ++ mark :: rest ∧ Blanks before ∧ tokens rest = others := by
  obtain ⟨before, rest, text_eq, blank, following, _⟩ := exists_first_token first
  exact ⟨before, rest, text_eq, blank, following⟩

/-! ## The tokens of a phrase -/

/-- The tokens of a type are its name and those of what follows it. -/
theorem tokens_named {before name gap bracketed suffixes : List Char} (blank : Blanks before)
    (named : IsTypeName name) (maximal : EndsName (gap ++ (bracketed ++ suffixes)))
    (between : Blanks gap) (ends : EndsName suffixes) :
    tokens (before ++ (name ++ (gap ++ (bracketed ++ suffixes)))) =
      name :: (tokens bracketed ++ tokens suffixes) := by
  rw [tokens_blanks blank, tokens_append maximal, tokens_blanks between, tokens_append ends,
    tokens_name named.nonempty named.isNameChar]
  rfl

/-- The brackets around arguments are tokens by themselves. -/
theorem tokens_bracketed (inside : List Char) :
    tokens ('<' :: (inside ++ ['>'])) = ['<'] :: (tokens inside ++ [['>']]) := by
  rw [tokens_mark (by decide) (by decide), tokens_append (endsName_cons.mpr (by decide)),
    tokens_mark (by decide) (by decide)]
  rfl

/-- So is the comma between two arguments. -/
theorem tokens_listed (first following : List Char) :
    tokens (first ++ ',' :: following) = tokens first ++ [','] :: tokens following := by
  rw [tokens_append (endsName_cons.mpr (by decide)), tokens_mark (by decide) (by decide)]

/-- A mark of a suffix is a token by itself, behind white space. -/
theorem tokens_suffix {before behind : List Char} {c : Char} (blank : Blanks before)
    (visible : isBlank c = false) (unnamed : isNameChar c = false) :
    tokens (before ++ c :: behind) = [c] :: tokens behind := by
  rw [tokens_blanks blank, tokens_mark visible unnamed]

/-- A phrase is found again, with the same trees, in front of every text that begins with its
tokens. The induction is on the derivation. -/
theorem Spells.found_again {front : List Char} {phrase : Phrase} (spelled : Spells front phrase) :
    ∀ {text : List Char} {others : List (List Char)}, tokens text = tokens front ++ others →
      ∃ gap again rest, text = gap ++ (again ++ rest) ∧ Blanks gap ∧ Spells again phrase ∧
        tokens rest = others := by
  induction spelled with
  | @type before name gap bracketed suffixes arguments type blank named maximal between _
      behind_spelled inner behind =>
    intro text others same
    rw [tokens_named blank named maximal between behind_spelled.suffixes_endsName,
      List.cons_append, List.append_assoc] at same
    obtain ⟨before, rest, rfl, blank, rest_tokens, ends⟩ := exists_first_token same
    obtain ⟨gap, bracketed, rest, rfl, between, inner_spelled, rest_tokens⟩ := inner rest_tokens
    obtain ⟨space, suffixes, rest, rfl, spaced, suffixes_spelled, rest_tokens⟩ :=
      behind rest_tokens
    have own := ends named.isNameChar
    rw [← List.append_assoc space] at own ⊢
    obtain ⟨again, text_eq, spelled⟩ := Spells.of_name blank named own between inner_spelled
      (suffixes_spelled.blanks_suffixes spaced)
    exact ⟨[], again, rest, text_eq, blanks_nil, spelled, rest_tokens⟩
  | noArguments =>
    intro text others same
    exact ⟨[], [], text, rfl, blanks_nil, .noArguments, same⟩
  | @someArguments inside arguments _ inner =>
    intro text others same
    rw [tokens_bracketed, List.cons_append, List.append_assoc] at same
    obtain ⟨before, rest, rfl, blank, rest_tokens⟩ := exists_mark same
    obtain ⟨gap, again, rest, rfl, spaced, spelled, rest_tokens⟩ := inner rest_tokens
    obtain ⟨space, rest, rfl, closed, rest_tokens⟩ := exists_mark rest_tokens
    have whole := (spelled.blanks_arguments spaced).arguments_blanks closed
    exact ⟨before, _, rest, by simp, blank, .someArguments whole, rest_tokens⟩
  | lastArgument _ last =>
    intro text others same
    obtain ⟨gap, again, rest, text_eq, blank, spelled, rest_tokens⟩ := last same
    exact ⟨gap, again, rest, text_eq, blank, .lastArgument spelled, rest_tokens⟩
  | @nextArgument first following type arguments _ _ next others_found =>
    intro text others same
    rw [tokens_listed, List.append_assoc, List.cons_append] at same
    obtain ⟨gap, again, rest, rfl, blank, spelled, rest_tokens⟩ := next same
    obtain ⟨before, rest, rfl, spaced, rest_tokens⟩ := exists_mark rest_tokens
    obtain ⟨space, later, rest, rfl, apart, later_spelled, rest_tokens⟩ :=
      others_found rest_tokens
    have whole := spelled.type_suffixes (.noSuffix spaced)
    have arguments_spelled := later_spelled.blanks_arguments apart
    exact ⟨gap, _, rest, by simp, blank, .nextArgument whole arguments_spelled, rest_tokens⟩
  | noSuffix blank =>
    intro text others same
    have none := tokens_blanks blank []
    rw [List.append_nil] at none
    rw [none] at same
    exact ⟨[], [], text, rfl, blanks_nil, .noSuffix blanks_nil, same⟩
  | @arraySuffix before gap behind base type blank between _ others_found =>
    intro text others same
    rw [tokens_suffix blank (by decide) (by decide),
      tokens_suffix between (by decide) (by decide)] at same
    obtain ⟨before, rest, rfl, blank, rest_tokens⟩ := exists_mark same
    obtain ⟨gap, rest, rfl, between, rest_tokens⟩ := exists_mark rest_tokens
    obtain ⟨space, later, rest, rfl, apart, spelled, rest_tokens⟩ := others_found rest_tokens
    have whole := Spells.arraySuffix blank between (spelled.blanks_suffixes apart)
    exact ⟨[], _, rest, by simp, blanks_nil, whole, rest_tokens⟩
  | @nullableSuffix before behind base type blank _ others_found =>
    intro text others same
    rw [tokens_suffix blank (by decide) (by decide)] at same
    obtain ⟨before, rest, rfl, blank, rest_tokens⟩ := exists_mark same
    obtain ⟨space, later, rest, rfl, apart, spelled, rest_tokens⟩ := others_found rest_tokens
    have whole := Spells.nullableSuffix blank (spelled.blanks_suffixes apart)
    exact ⟨[], _, rest, by simp, blanks_nil, whole, rest_tokens⟩

/-- A text with the tokens of a type spells that type. -/
theorem Spells.respaced {text other : List Char} {type : TypeSyntax}
    (spelled : Spells text (.type type)) (same : tokens other = tokens text) :
    Spells other (.type type) := by
  rw [← List.append_nil (tokens text)] at same
  obtain ⟨gap, again, rest, rfl, blank, found, none⟩ := spelled.found_again same
  have ending := found.type_suffixes (.noSuffix (blanks_of_tokens_nil none))
  exact ending.blanks_type blank

/-- A text is read as a type exactly when it derives from the grammar, and then as the one type
that its derivations stand for. Texts that differ only in the white space between their tokens are
read as the same type, or both refused. -/
theorem parse_iff_spells :
    (∀ text type, parse text = .ok type ↔ Spells text.toList (.type type)) ∧
      (∀ text type other, Spells text (.type type) → Spells text (.type other) →
        type = other) ∧
      ∀ text other : String, tokens text.toList = tokens other.toList →
        (parse text).toOption = (parse other).toOption := by
  refine ⟨fun text type => parse_eq_ok, ?_, ?_⟩
  · intro text type other spelled again
    rw [← String.toList_ofList (l := text)] at spelled again
    have read := parse_eq_ok.mpr spelled
    rw [parse_eq_ok.mpr again] at read
    exact (by simpa using read : other = type).symm
  · intro text other same
    apply Option.ext
    intro type
    have option_iff : ∀ text, type ∈ (parse text).toOption ↔ Spells text.toList (.type type) := by
      intro text
      rw [← parse_eq_ok]
      cases parse text <;> simp [Except.toOption]
    rw [← Option.mem_def, ← Option.mem_def, option_iff, option_iff]
    exact ⟨fun spelled => spelled.respaced same.symm, fun spelled => spelled.respaced same⟩

/-- White space of several kinds between the tokens of a type changes nothing, and between two
names it is no token that could part them. -/
theorem parse_respaced :
    (parse "\t Task <\u00a0A ,B[ ]\n? > ").toOption = (parse "Task<A,B[]?>").toOption ∧
      (parse "Task<A,B[]?>").toOption.map render = some "Task<A, B[]?>" ∧
      (parse "Task A").toOption = (parse "Task  A").toOption ∧
      tokens "Task A".toList ≠ tokens "TaskA".toList := by
  have same := parse_iff_spells.2.2
  exact ⟨same _ _ (by decide +kernel), by decide +kernel, same _ _ (by decide +kernel),
    by decide +kernel⟩

end TypedClients.TypeSyntax
