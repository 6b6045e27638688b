import TypedClients.Proofs.CSharp.PrintedInterpolation

/-!
# Literals are read as what was escaped

A regular literal ends at the first quote that no backslash belongs to. What is escaped is read
from it to the last character, and the quote behind it is the one that ends the literal. Inside an
interpolated literal the same holds at every place that no format comes before. The escaped text
begins no hole there and ends none, whatever it has of braces and whatever stands behind it.

Behind a format this cannot be said, as a closing brace behind it is taken for a part of it.
-/

namespace TypedClients.CSharp

/-! ## Regular literals -/

/-- The characters inside a regular literal. -/
def regularReader (barred : List Char) : Text.ItemReader Char where
  read? := readRegularChar? barred
  shortens := readRegularChar?_length

/-- The text that stands in front of the quote that ends a regular literal, and what is left behind
this quote. -/
def readRegular? (barred text : List Char) : Option (List Char × List Char) :=
  (regularReader barred).readUntil? '"' text

/-! ## Interpolated literals -/

variable {barred : List Char} {alphabet : NameAlphabet} {text rest : List Char}

/-- The elements inside an interpolated literal. -/
def partReader (barred : List Char) (alphabet : NameAlphabet) : Text.ItemReader Element where
  read? := readPart? barred alphabet
  shortens := readPart?_length

/-- The elements up to the quote that ends an interpolated literal, and what is left behind this
quote. -/
def readParts? (barred : List Char) (alphabet : NameAlphabet) (text : List Char) :
    Option (List Element × List Char) :=
  (partReader barred alphabet).readUntil? '"' text

/-- The elements of the interpolated literal at the beginning of a text, and what is left behind
it. -/
def readLiteral? (barred : List Char) (alphabet : NameAlphabet) :
    List Char → Option (List Element × List Char)
  | '$' :: '"' :: text => readParts? barred alphabet text
  | _ => none

/-- Whether a part is text or a hole without a format. -/
def InterpolationPart.Plain : InterpolationPart → Prop
  | .hole _ (some _) => False
  | _ => True

/-- A quote ends an interpolated literal. -/
theorem readParts?_quote : readParts? barred alphabet ('"' :: rest) = some ([], rest) :=
  Text.ItemReader.readUntil?_eq_some_nil.mpr ⟨rfl, rfl⟩

/-- Escaped text is read character by character, and whatever stands behind it after that. -/
theorem readParts?_escaped {value : List Char}
    (usual : ∀ c ∈ value, c ∈ barred → c ∈ escapedMarks) (rest : List Char) :
    readParts? barred alphabet (value.flatMap printedChar ++ rest) =
      (readParts? barred alphabet rest).map fun found => (value.map .char ++ found.1, found.2) :=
  Text.ItemReader.readUntil?_flatMap fun c member left => by
    simp [partReader, readPart?, readTextChar?_printedChar (usual c member)]

/-- Parts without formats are read as what they are for, whatever stands behind them. The induction
is on the parts: neither of the two kinds looks at what comes after it. -/
theorem readParts?_printedParts (escapable : ∀ c ∈ barred, c ∈ escapedMarks)
    {parts : List InterpolationPart} (plain : ∀ part ∈ parts, part.Plain)
    (named : ∀ part ∈ parts, part.Named alphabet) (rest : List Char) :
    readParts? barred alphabet (printedParts parts ++ rest) =
      (readParts? barred alphabet rest).map fun found =>
        (parts.flatMap InterpolationPart.elements ++ found.1, found.2) := by
  induction parts with
  | nil => simp [printedParts]
  | cons part parts inductionHypothesis =>
    obtain ⟨firstPlain, otherPlain⟩ := List.forall_mem_cons.mp plain
    obtain ⟨firstNamed, otherNamed⟩ := List.forall_mem_cons.mp named
    have others := inductionHypothesis otherPlain otherNamed
    have first : readParts? barred alphabet (part.print.toList ++ (printedParts parts ++ rest)) =
        (readParts? barred alphabet (printedParts parts ++ rest)).map fun found =>
          (part.elements ++ found.1, found.2) := by
      cases part with
      | text value =>
        rw [toList_print_text]
        exact readParts?_escaped (fun c _ barredToo => escapable c barredToo) _
      | hole name format =>
        cases format with
        | some _ => exact firstPlain.elim
        | none =>
          have whole : readParts? barred alphabet
                ('{' :: (name.toList ++ '}' :: (printedParts parts ++ rest))) =
              (readParts? barred alphabet (printedParts parts ++ rest)).map fun found =>
                (.hole name.toList none :: found.1, found.2) :=
            Text.ItemReader.readUntil?_of_some (readPart?_plainHole firstNamed _)
          simpa [toList_print_plainHole, InterpolationPart.elements] using whole
    rw [printedParts, List.flatMap_cons, ← printedParts, List.append_assoc, first, others,
      Option.map_map]
    simp [Function.comp_def]

/-! ## Both kinds of literals -/

/-- What is escaped for a regular literal is read from it as it was, and the literal ends at the
quote behind it. What is escaped for an interpolated literal is read from it as text and as nothing
else, behind its first quote, behind other text and behind a hole without a format, whatever comes
after it: the end of the literal, other text or a hole of any kind. It makes no difference which of
the characters with escapes may not stand in a literal as they are. -/
theorem escapes_undone (escapable : ∀ c ∈ barred, c ∈ escapedMarks) (text : String) :
    (∀ rest, readRegular? barred ((escaped text).toList ++ '"' :: rest) =
        some (text.toList, rest)) ∧
      ∀ (alphabet : NameAlphabet) (before : List InterpolationPart),
        (∀ part ∈ before, part.Plain) → (∀ part ∈ before, part.Named alphabet) → ∀ rest,
          readLiteral? barred alphabet
              ('$' :: '"' :: (printedParts before ++ ((escapedInterpolated text).toList ++ rest))) =
            (readParts? barred alphabet rest).map fun found =>
              (before.flatMap InterpolationPart.elements ++ (text.toList.map .char ++ found.1),
                found.2) := by
  constructor
  · intro rest
    have each : readRegular? barred (text.toList.flatMap escapedChar ++ '"' :: rest) =
        (readRegular? barred ('"' :: rest)).map fun found =>
          (text.toList.map id ++ found.1, found.2) :=
      Text.ItemReader.readUntil?_flatMap fun c _ left =>
        readRegularChar?_escapedChar (escapable c) left
    have quote : readRegular? barred ('"' :: rest) = some ([], rest) :=
      Text.ItemReader.readUntil?_eq_some_nil.mpr ⟨rfl, rfl⟩
    rw [escaped, String.toList_ofList, each, quote]
    simp
  · intro alphabet before plain named rest
    -- The escaped text is one more part without a format.
    have textPlain : ∀ part ∈ before ++ [.text text], part.Plain := by
      simpa [or_imp, forall_and, InterpolationPart.Plain] using plain
    have textNamed : ∀ part ∈ before ++ [.text text], part.Named alphabet := by
      simpa [or_imp, forall_and, InterpolationPart.Named] using named
    simpa [printedParts, InterpolationPart.print, InterpolationPart.elements, readLiteral?] using
      readParts?_printedParts escapable textPlain textNamed rest

/-- A backslash, a quote, a line feed and two braces are read back, in a regular literal and between
the two holes of an interpolated one. -/
theorem marks_between_holes_undone :
    (∀ c ∈ ['\n', '\r'], c ∈ escapedMarks) ∧
      readRegular? ['\n', '\r'] "\\\\\\\"\\n\x7d\x7b\".Length".toList =
        some ("\\\"\n\x7d\x7b".toList, ".Length".toList) ∧
      readLiteral? ['\n', '\r'] asciiNames
          "$\"\x7bid\x7d\\\\\\\"\\n\x7d\x7d\x7b\x7b\x7bday\x7d\";".toList =
        some (.hole "id".toList none ::
          ("\\\"\n\x7d\x7b".toList.map .char ++ [.hole "day".toList none]), [';']) := by
  have escapable : ∀ c ∈ ['\n', '\r'], c ∈ escapedMarks := by simp [escapedMarks]
  obtain ⟨regular, interpolated⟩ := escapes_undone escapable "\\\"\n\x7d\x7b"
  refine ⟨escapable, regular _, ?_⟩
  have holes (name : String) (named : asciiNames.IsIdentifier name.toList) :
      (∀ part ∈ [InterpolationPart.hole name none], part.Plain) ∧
        ∀ part ∈ [InterpolationPart.hole name none], part.Named asciiNames := by
    simpa [InterpolationPart.Plain, InterpolationPart.Named] using named
  obtain ⟨idPlain, idNamed⟩ := holes "id" (by decide)
  obtain ⟨dayPlain, dayNamed⟩ := holes "day" (by decide)
  have read := interpolated asciiNames _ idPlain idNamed
    (printedParts [.hole "day" none] ++ '"' :: [';'])
  rw [readParts?_printedParts escapable dayPlain dayNamed, readParts?_quote] at read
  exact read

end TypedClients.CSharp
