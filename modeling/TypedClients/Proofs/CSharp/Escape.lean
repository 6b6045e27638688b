import Mathlib.Data.String.Basic
import TypedClients.CSharp.Escape
import TypedClients.Proofs.CSharp.Interpolation

/-!
# Escapes and the characters they are read as

Inside a literal a backslash belongs to the character behind it, and a quote that no backslash
belongs to is no character of the literal. Inside an interpolated literal, moreover, a brace that
is written twice stands for itself, and any other brace has to do with a hole. What is printed for
a character is read as this character, whatever comes behind it.

A reader may bar characters from standing in a literal as they are. Nothing changes as long as it
bars only characters for which escapes are printed. Three of the characters that C# bars have none.
-/

namespace TypedClients.CSharp

/-! ## Printed characters -/

/-- The characters that are printed as escapes. -/
def escapedMarks : List Char :=
  ['\\', '"', '\n', '\r', '\t']

/-- An escape is a backslash and the letter that stands for the character. -/
theorem escapedChar_of_mem {c : Char} (marked : c ∈ escapedMarks) :
    ∃ code, escapedChar c = ['\\', code] ∧ simpleEscape? code = some c ∧
      code ≠ '{' ∧ code ≠ '}' := by
  simp only [escapedMarks, List.mem_cons, List.not_mem_nil, or_false] at marked
  rcases marked with rfl | rfl | rfl | rfl | rfl <;> exact ⟨_, rfl, rfl, by decide⟩

/-- All other characters are printed as they are. -/
theorem escapedChar_of_not_mem {c : Char} (plain : c ∉ escapedMarks) : escapedChar c = [c] := by
  simp only [escapedMarks, List.mem_cons, List.not_mem_nil, or_false, not_or] at plain
  simp [escapedChar, plain]

/-- A character as it is printed inside an interpolated string. -/
def printedChar (c : Char) : List Char :=
  (escapedChar c).flatMap doubledBrace

/-- The braces apart, a character is printed there as in a regular literal. -/
theorem printedChar_of_apart {c : Char} (apart : c ≠ '{' ∧ c ≠ '}') :
    printedChar c = escapedChar c := by
  by_cases marked : c ∈ escapedMarks
  · obtain ⟨code, printed, -, letter⟩ := escapedChar_of_mem marked
    simp [printedChar, printed, letter, doubledBrace]
  · simp [printedChar, escapedChar_of_not_mem marked, doubledBrace, apart]

/-! ## Characters that are read -/

/-- The character at the beginning of a text inside a regular literal, and what is left behind
it. -/
def readRegularChar? (barred : List Char) : List Char → Option (Char × List Char)
  | [] => none
  | '\\' :: code :: rest => (simpleEscape? code).map (·, rest)
  | c :: rest => if c ≠ '\\' ∧ c ≠ '"' ∧ c ∉ barred then some (c, rest) else none

/-- The character of its text at the beginning of a text inside an interpolated literal, and what
is left behind it. The braces apart, it is read as in a regular literal. -/
def readTextChar? (barred : List Char) : List Char → Option (Char × List Char)
  | '{' :: '{' :: rest => some ('{', rest)
  | '}' :: '}' :: rest => some ('}', rest)
  | '{' :: _ | '}' :: _ => none
  | text => readRegularChar? barred text

variable {barred text rest : List Char} {c : Char}

/-- The reading of a character of a regular literal takes something away, so that the reading of a
literal ends. -/
theorem readRegularChar?_length (read : readRegularChar? barred text = some (c, rest)) :
    rest.length < text.length := by
  unfold readRegularChar? at read
  split at read
  · simp at read
  · obtain ⟨_, _, same⟩ := Option.map_eq_some_iff.mp read
    obtain ⟨_, rfl⟩ := Prod.mk.inj same
    exact Nat.lt_add_of_pos_right Nat.two_pos
  · split at read
    · obtain ⟨_, rfl⟩ := by simpa using read
      exact Nat.lt_add_one _
    · simp at read

/-- The same holds inside an interpolated string, where a brace that is written twice is two
characters less. -/
theorem readTextChar?_length (read : readTextChar? barred text = some (c, rest)) :
    rest.length < text.length := by
  unfold readTextChar? at read
  split at read
  · obtain ⟨_, rfl⟩ := by simpa using read
    exact Nat.lt_add_of_pos_right Nat.two_pos
  · obtain ⟨_, rfl⟩ := by simpa using read
    exact Nat.lt_add_of_pos_right Nat.two_pos
  · simp at read
  · simp at read
  · exact readRegularChar?_length read

/-- The braces apart, text is read as in a regular literal. -/
theorem readTextChar?_of_apart (apart : c ≠ '{' ∧ c ≠ '}') (rest : List Char) :
    readTextChar? barred (c :: rest) = readRegularChar? barred (c :: rest) := by
  unfold readTextChar?
  split <;> simp_all

/-- A brace that is not written twice is no character of the text. -/
theorem readTextChar?_single_brace {brace : Char} (opens : brace = '{' ∨ brace = '}')
    (single : text.head? ≠ some brace) : readTextChar? barred (brace :: text) = none := by
  unfold readTextChar?
  split <;> simp_all

/-- With all line ends barred, the characters are those of an interpolated string, so that the two
readers agree on what is generated for this alphabet of line ends. -/
theorem readTextChar?_lineEnds (text : List Char) :
    readTextChar? lineEnds text = readChar? text := by
  cases text with
  | nil => rfl
  | cons c rest =>
    by_cases brace : c = '{' ∨ c = '}'
    · by_cases twice : rest.head? = some c
      · obtain ⟨rest, rfl⟩ := List.head?_eq_some_iff.mp twice
        rcases brace with rfl | rfl <;> rfl
      · rw [readTextChar?_single_brace brace twice, readChar?_single_brace brace twice]
    · have apart := not_or.mp brace
      rw [readTextChar?_of_apart apart]
      unfold readRegularChar? readChar?
      split <;> simp_all [StandsForItself, doubledMarks]

/-- What is printed for a character inside a regular literal is read as that character, where the
only barred characters are those that are escaped. Nothing is asked of the text behind it. -/
theorem readRegularChar?_escapedChar (usual : c ∈ barred → c ∈ escapedMarks)
    (rest : List Char) : readRegularChar? barred (escapedChar c ++ rest) = some (c, rest) := by
  by_cases marked : c ∈ escapedMarks
  · obtain ⟨code, printed, escapes, -⟩ := escapedChar_of_mem marked
    simp [printed, readRegularChar?, escapes]
  · have plain : c ≠ '\\' ∧ c ≠ '"' := by
      constructor <;> rintro rfl <;> simp [escapedMarks] at marked
    rw [escapedChar_of_not_mem marked, List.singleton_append]
    unfold readRegularChar?
    split <;> simp_all

/-- What is printed for a character inside an interpolated literal is read as that character, a
brace by its double among them. -/
theorem readTextChar?_printedChar (usual : c ∈ barred → c ∈ escapedMarks) (rest : List Char) :
    readTextChar? barred (printedChar c ++ rest) = some (c, rest) := by
  by_cases brace : c = '{' ∨ c = '}'
  · rcases brace with rfl | rfl <;> rfl
  have apart := not_or.mp brace
  have regular : readTextChar? barred (escapedChar c ++ rest) =
      readRegularChar? barred (escapedChar c ++ rest) := by
    by_cases marked : c ∈ escapedMarks
    · obtain ⟨code, printed, -⟩ := escapedChar_of_mem marked
      rw [printed]
      exact readTextChar?_of_apart (by decide) _
    · rw [escapedChar_of_not_mem marked]
      exact readTextChar?_of_apart apart _
  rw [printedChar_of_apart apart, regular, readRegularChar?_escapedChar usual]

/-! ## Elements that are read -/

/-- The first element inside an interpolated literal, and what is left behind it. -/
def readPart? (barred : List Char) (alphabet : NameAlphabet) (text : List Char) :
    Option (Element × List Char) :=
  match readTextChar? barred text with
  | some (c, rest) => some (.char c, rest)
  | none => readHole? alphabet text

variable {alphabet : NameAlphabet}

/-- What is left behind an element is shorter than the text. -/
theorem readPart?_length {element : Element}
    (read : readPart? barred alphabet text = some (element, rest)) :
    rest.length < text.length := by
  unfold readPart? at read
  split at read
  · rename_i found
    obtain ⟨_, rfl⟩ := by simpa using read
    exact readTextChar?_length found
  · exact readHole?_length read

/-- With all line ends barred, the elements are those of an interpolated string. -/
theorem readPart?_lineEnds (text : List Char) :
    readPart? lineEnds alphabet text = readElement? alphabet text := by
  unfold readPart? readElement?
  cases read : readChar? text <;> simp [readTextChar?_lineEnds, read]

/-- A hole without a format is read up to its closing brace, whatever stands behind it. -/
theorem readPart?_plainHole {name : List Char} (named : alphabet.IsIdentifier name)
    (rest : List Char) :
    readPart? barred alphabet ('{' :: (name ++ '}' :: rest)) = some (.hole name none, rest) := by
  have ends : ∀ c ∈ ('}' :: rest).head?, alphabet.continues c = false := by
    simp [alphabet.continues_ascii]
  rw [readPart?, readTextChar?_single_brace (Or.inl rfl) (head?_of_isIdentifier named),
    readHole?_of_isIdentifier named ends]
  rfl

end TypedClients.CSharp
