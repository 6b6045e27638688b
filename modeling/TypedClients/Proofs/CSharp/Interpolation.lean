import TypedClients.Proofs.CSharp.Identifier
import TypedClients.Proofs.Text.Items

/-!
# Reading interpolated strings

Inside an interpolated string a backslash begins an escape, a brace that is written twice stands
for itself, an opening brace begins a hole and a quote ends the string. A hole is an identifier,
perhaps with a format behind a colon. A format is made of the same characters as the text around
it, and reaches to its first closing brace that is not written twice.

Only identifiers are read in holes, where the language has expressions of any kind, and only
escapes of one character, where it has others that give the code of a character.
-/

namespace TypedClients.CSharp

/-! ## Characters -/

/-- The character that a letter behind a backslash stands for. -/
def simpleEscape? : Char → Option Char
  | '\'' => some '\''
  | '"' => some '"'
  | '\\' => some '\\'
  | '0' => some '\x00'
  | 'a' => some '\x07'
  | 'b' => some '\x08'
  | 'f' => some '\x0c'
  | 'n' => some '\n'
  | 'r' => some '\r'
  | 't' => some '\t'
  | 'v' => some '\x0b'
  | _ => none

/-- The characters that end a line of code. -/
def lineEnds : List Char :=
  ['\n', '\r', '\u0085', '\u2028', '\u2029']

/-- The characters that are written twice inside an interpolated string to be a part of it. -/
def doubledMarks : List Char :=
  ['\\', '{', '}']

/-- Whether a character stands for itself inside an interpolated string. -/
def StandsForItself (c : Char) : Prop :=
  c ∉ doubledMarks ∧ c ≠ '"' ∧ c ∉ lineEnds

instance (c : Char) : Decidable (StandsForItself c) :=
  inferInstanceAs (Decidable (_ ∧ _))

/-- The character that is written at the beginning of a text inside an interpolated string, and
what is left behind it. Neither a brace that stands alone nor a quote nor the end of the line is a
character of the string. -/
def readChar? : List Char → Option (Char × List Char)
  | [] => none
  | '\\' :: code :: rest => (simpleEscape? code).map (·, rest)
  | '{' :: '{' :: rest => some ('{', rest)
  | '}' :: '}' :: rest => some ('}', rest)
  | c :: rest => if StandsForItself c then some (c, rest) else none

/-- The reading of a character takes something away, so that the reading of an interpolated string
ends. -/
theorem readChar?_length {text rest : List Char} {c : Char}
    (read : readChar? text = some (c, rest)) : rest.length < text.length := by
  unfold readChar? at read
  split at read
  · simp at read
  · obtain ⟨_, _, same⟩ := Option.map_eq_some_iff.mp read
    obtain ⟨_, rfl⟩ := Prod.mk.inj same
    exact Nat.lt_add_of_pos_right Nat.two_pos
  · obtain ⟨_, rfl⟩ := by simpa using read
    exact Nat.lt_add_of_pos_right Nat.two_pos
  · obtain ⟨_, rfl⟩ := by simpa using read
    exact Nat.lt_add_of_pos_right Nat.two_pos
  · split at read
    · obtain ⟨_, rfl⟩ := by simpa using read
      exact Nat.lt_add_one _
    · simp at read

/-- The characters inside an interpolated string. -/
def charReader : Text.ItemReader Char where
  read? := readChar?
  shortens := readChar?_length

/-- A character that stands for itself is read as itself, whatever follows. -/
theorem readChar?_of_standsForItself {c : Char} (stands : StandsForItself c) (rest : List Char) :
    readChar? (c :: rest) = some (c, rest) := by
  have unmarked : c ≠ '\\' ∧ c ≠ '{' ∧ c ≠ '}' := by simpa [doubledMarks] using stands.1
  unfold readChar?
  split <;> simp_all

/-- A brace that is not written twice is no character of the string. -/
theorem readChar?_single_brace {brace : Char} (opens : brace = '{' ∨ brace = '}')
    {text : List Char} (single : text.head? ≠ some brace) : readChar? (brace :: text) = none := by
  have marked : ¬ StandsForItself brace := by
    rcases opens with rfl | rfl <;> decide
  unfold readChar?
  split <;> simp_all

/-- Of the characters that are written twice, only a backslash is read from an escape, and that
escape is the backslash twice. -/
theorem simpleEscape?_doubledMark {code mark : Char} (marked : mark ∈ doubledMarks)
    (escapes : simpleEscape? code = some mark) : code = '\\' ∧ mark = '\\' := by
  simp only [doubledMarks, List.mem_cons, List.not_mem_nil, or_false] at marked
  unfold simpleEscape? at escapes
  rcases marked with rfl | rfl | rfl <;> split at escapes <;> simp at escapes ⊢

/-- A backslash or a brace is only read where it is written twice. One alone begins an escape or a
hole, or ends the string. -/
theorem readChar?_doubledMark {text rest : List Char} {mark : Char} (marked : mark ∈ doubledMarks)
    (read : readChar? text = some (mark, rest)) : text = mark :: mark :: rest := by
  unfold readChar? at read
  split at read
  · simp at read
  · obtain ⟨value, escapes, same⟩ := Option.map_eq_some_iff.mp read
    obtain ⟨rfl, rfl⟩ := Prod.mk.inj same
    obtain ⟨rfl, rfl⟩ := simpleEscape?_doubledMark marked escapes
    rfl
  · obtain ⟨rfl, rfl⟩ := by simpa using read
    rfl
  · obtain ⟨rfl, rfl⟩ := by simpa using read
    rfl
  · split at read
    · rename_i stands
      obtain ⟨rfl, rfl⟩ := by simpa using read
      exact absurd marked stands.1
    · simp at read

/-- A character is only read from a text that begins with it when it stands for itself or is
written twice. -/
theorem standsForItself_of_readChar? {c : Char} {text rest : List Char}
    (read : readChar? (c :: text) = some (c, rest)) :
    StandsForItself c ∨ c ∈ doubledMarks := by
  by_cases marked : c ∈ doubledMarks
  · exact Or.inr marked
  have unmarked : c ≠ '\\' ∧ c ≠ '{' ∧ c ≠ '}' := by simpa [doubledMarks] using marked
  unfold readChar? at read
  split at read <;> simp_all

/-! ## Formats -/

/-- The format at the beginning of a text, and what is left behind its closing brace. -/
def readFormat? (text : List Char) : Option (List Char × List Char) :=
  charReader.readUntil? '}' text

/-- A character of a format is followed by the rest of the format. -/
theorem readFormat?_eq_some_cons {text format rest : List Char} {c : Char} :
    readFormat? text = some (c :: format, rest) ↔
      ∃ left, readChar? text = some (c, left) ∧ readFormat? left = some (format, rest) :=
  Text.ItemReader.readUntil?_eq_some_cons

/-- Only a closing brace that is not written twice ends a format. At a doubled brace the reading of
a format goes on. -/
theorem readFormat?_eq_some_nil {text rest : List Char} :
    readFormat? text = some ([], rest) ↔ text = '}' :: rest ∧ rest.head? ≠ some '}' := by
  constructor
  · intro read
    obtain ⟨absent, rfl⟩ := Text.ItemReader.readUntil?_eq_some_nil.mp read
    refine ⟨rfl, ?_⟩
    intro doubled
    obtain ⟨others, rfl⟩ := List.head?_eq_some_iff.mp doubled
    simp [charReader, readChar?] at absent
  · rintro ⟨rfl, single⟩
    exact Text.ItemReader.readUntil?_eq_some_nil.mpr
      ⟨readChar?_single_brace (Or.inr rfl) single, rfl⟩

/-! ## Holes and strings -/

/-- What is found inside an interpolated string. -/
inductive Element where
  /-- A character of its text. -/
  | char (value : Char)
  /-- A hole, with the format of its value. -/
  | hole (name : List Char) (format : Option (List Char))
deriving DecidableEq

/-- What is behind the name of a hole: the closing brace, or a colon and a format that is not
empty. -/
def readHoleEnd? : List Char → Option (Option (List Char) × List Char)
  | '}' :: rest => some (none, rest)
  | ':' :: text => (readFormat? text).bind fun format =>
    if format.1 = [] then none else some (some format.1, format.2)
  | _ => none

/-- The hole at the beginning of a text, and what is left behind its closing brace. -/
def readHole? (alphabet : NameAlphabet) : List Char → Option (Element × List Char)
  | '{' :: inside => (alphabet.readIdentifier? inside).bind fun name =>
    (readHoleEnd? name.2).map fun hole => (.hole name.1 hole.1, hole.2)
  | _ => none

/-- The first element of a text, and what is left behind it. -/
def readElement? (alphabet : NameAlphabet) (text : List Char) : Option (Element × List Char) :=
  match readChar? text with
  | some (c, rest) => some (.char c, rest)
  | none => readHole? alphabet text

/-- Behind a colon, a hole has the format that is read there. A format may not be empty. -/
theorem readHoleEnd?_colon {text format rest : List Char} :
    readHoleEnd? (':' :: text) = some (some format, rest) ↔
      format ≠ [] ∧ readFormat? text = some (format, rest) := by
  simp only [readHoleEnd?, Option.bind_eq_some_iff]
  constructor
  · rintro ⟨⟨chars, behind⟩, read, chosen⟩
    split at chosen
    · simp at chosen
    · rename_i nonempty
      obtain ⟨rfl, rfl⟩ := by simpa using chosen
      exact ⟨nonempty, read⟩
  · rintro ⟨nonempty, read⟩
    exact ⟨(format, rest), read, if_neg nonempty⟩

/-- What is left behind the end of a hole is shorter than the text, with a format or without. -/
theorem readHoleEnd?_length {text rest : List Char} {format : Option (List Char)}
    (read : readHoleEnd? text = some (format, rest)) : rest.length < text.length := by
  unfold readHoleEnd? at read
  split at read
  · obtain ⟨_, rfl⟩ := by simpa using read
    simp
  · obtain ⟨⟨chars, left⟩, formatted, chosen⟩ := Option.bind_eq_some_iff.mp read
    have within := Text.ItemReader.readUntil?_length formatted
    obtain rfl : left = rest := by
      split at chosen
      · simp at chosen
      · exact (Prod.mk.inj (Option.some.inj chosen)).2
    simp only [List.length_cons]
    omega
  · simp at read

/-- What is left behind a hole is shorter than the text. So the reading of a string comes to an end,
hole by hole. -/
theorem readHole?_length {alphabet : NameAlphabet} {text rest : List Char} {element : Element}
    (read : readHole? alphabet text = some (element, rest)) : rest.length < text.length := by
  unfold readHole? at read
  split at read
  · obtain ⟨⟨name, left⟩, named, ended⟩ := Option.bind_eq_some_iff.mp read
    obtain ⟨⟨format, behind⟩, closed, same⟩ := Option.map_eq_some_iff.mp ended
    obtain ⟨_, rfl⟩ := Prod.mk.inj same
    have first := alphabet.readIdentifier?_length named
    have second : behind.length < left.length := readHoleEnd?_length closed
    simp only [List.length_cons]
    omega
  · simp at read

/-- What is left behind an element is shorter than the text. -/
theorem readElement?_length {alphabet : NameAlphabet} {text rest : List Char} {element : Element}
    (read : readElement? alphabet text = some (element, rest)) : rest.length < text.length := by
  unfold readElement? at read
  split at read
  · rename_i found
    obtain ⟨_, rfl⟩ := by simpa using read
    exact readChar?_length found
  · exact readHole?_length read

/-- The elements of interpolated strings. -/
def elementReader (alphabet : NameAlphabet) : Text.ItemReader Element where
  read? := readElement? alphabet
  shortens := readElement?_length

/-- The elements of a text up to the quote that ends the string, and what is left behind it. -/
def readElements? (alphabet : NameAlphabet) (text : List Char) :
    Option (List Element × List Char) :=
  (elementReader alphabet).readUntil? '"' text

/-- The elements of the interpolated string at the beginning of a text, and what is left behind
its last quote. -/
def readInterpolated? (alphabet : NameAlphabet) : List Char → Option (List Element × List Char)
  | '$' :: '"' :: text => readElements? alphabet text
  | _ => none

variable {alphabet : NameAlphabet} {text rest : List Char} {found : List Element}

/-- A quote ends the string. -/
theorem readElements?_quote : readElements? alphabet ('"' :: rest) = some ([], rest) :=
  Text.ItemReader.readUntil?_eq_some_nil.mpr ⟨rfl, rfl⟩

/-- Where an element is read under a condition only, and then leaves a certain text, the string
goes on with what is read from that text. -/
theorem readElements?_of_first {element : Element} {tail : List Char} {condition : Prop}
    (first : ∀ left, readElement? alphabet text = some (element, left) ↔
      condition ∧ left = tail) :
    readElements? alphabet text = some (element :: found, rest) ↔
      condition ∧ readElements? alphabet tail = some (found, rest) := by
  unfold readElements?
  rw [Text.ItemReader.readUntil?_eq_some_cons]
  constructor
  · rintro ⟨left, read, readOthers⟩
    obtain ⟨met, rfl⟩ := (first left).mp read
    exact ⟨met, readOthers⟩
  · rintro ⟨met, readOthers⟩
    exact ⟨tail, (first tail).mpr ⟨met, rfl⟩, readOthers⟩

/-- An identifier does not begin with a brace. -/
theorem head?_of_isIdentifier {name : List Char} (named : alphabet.IsIdentifier name) :
    (name ++ text).head? ≠ some '{' := by
  obtain ⟨first, others, rfl, marked | starting⟩ := named.exists_first
  · simp [marked]
  · rintro opened
    obtain rfl : first = '{' := by simpa using opened
    simp [alphabet.starts_ascii] at starting

/-- A hole is read from an opening brace and an identifier on. -/
theorem readHole?_of_isIdentifier {name : List Char} (named : alphabet.IsIdentifier name)
    (ends : ∀ c ∈ text.head?, alphabet.continues c = false) :
    readHole? alphabet ('{' :: (name ++ text)) =
      (readHoleEnd? text).map fun hole => (.hole name hole.1, hole.2) := by
  simp [readHole?, alphabet.readIdentifier?_of_isIdentifier named ends]

/-- Where an identifier stands behind an opening brace, there is a hole. -/
theorem readElement?_hole {name : List Char} (named : alphabet.IsIdentifier name)
    (ends : ∀ c ∈ text.head?, alphabet.continues c = false) :
    readElement? alphabet ('{' :: (name ++ text)) =
      (readHoleEnd? text).map fun hole => (.hole name hole.1, hole.2) := by
  rw [readElement?, readChar?_single_brace (Or.inl rfl) (head?_of_isIdentifier named)]
  exact readHole?_of_isIdentifier named ends

end TypedClients.CSharp
