import TypedClients.CSharp.Word
import TypedClients.Proofs.Text.Pieces

/-!
# Identifiers

An identifier is a name, with or without an `@` in front of it. Which characters beyond those of
ASCII stand in names is laid down in the tables of Unicode; what is said here holds for every
choice of them, as long as it has the right ASCII characters.

So a `NameAlphabet` stands for the tables, and `asciiNames` is the least one, with which concrete
names are tested. An identifier is read up to the first character that cannot go on with it, and
what is printed behind one never begins with such a character.
-/

namespace TypedClients.CSharp

/-- The characters of names. -/
structure NameAlphabet where
  /-- The characters at the beginning of a name. -/
  starts : Char → Bool
  /-- The characters behind the first one. -/
  continues : Char → Bool
  starts_ascii {c : Char} : c.toNat < 128 → starts c = (c.isAlpha || c == '_')
  continues_ascii {c : Char} : c.toNat < 128 → continues c = (c.isAlphanum || c == '_')

namespace NameAlphabet

variable (alphabet : NameAlphabet)

/-- A name begins with a character that may, and goes on with characters of names. -/
inductive IsName : List Char → Prop where
  | intro {first : Char} {others : List Char} (starting : alphabet.starts first = true)
      (continuing : ∀ c ∈ others, alphabet.continues c = true) : IsName (first :: others)

/-- An identifier is a name, with at most one `@` in front of it. -/
inductive IsIdentifier : List Char → Prop where
  | plain {name : List Char} (named : alphabet.IsName name) : IsIdentifier name
  | marked {name : List Char} (named : alphabet.IsName name) : IsIdentifier ('@' :: name)

/-- The longest name at the beginning of a text, and what is left behind it. -/
def readName? : List Char → Option (List Char × List Char)
  | [] => none
  | first :: text =>
    if alphabet.starts first then
      some (first :: text.takeWhile alphabet.continues, text.dropWhile alphabet.continues)
    else none

/-- The longest identifier at the beginning of a text, and what is left behind it. -/
def readIdentifier? : List Char → Option (List Char × List Char)
  | '@' :: text => (alphabet.readName? text).map fun read => ('@' :: read.1, read.2)
  | text => alphabet.readName? text

variable {alphabet}

/-- A name is a character that may start one and any number of characters that may go on with it. -/
theorem isName_cons {first : Char} {others : List Char} :
    alphabet.IsName (first :: others) ↔
      alphabet.starts first = true ∧ ∀ c ∈ others, alphabet.continues c = true :=
  ⟨fun ⟨starting, continuing⟩ => ⟨starting, continuing⟩,
    fun ⟨starting, continuing⟩ => ⟨starting, continuing⟩⟩

instance : (text : List Char) → Decidable (alphabet.IsName text)
  | [] => isFalse nofun
  | first :: others =>
    decidable_of_iff ((alphabet.starts first && others.all alphabet.continues) = true) <| by
      simp [isName_cons]

/-- No name begins with an `@`. -/
theorem IsName.head?_ne_at {name : List Char} (named : alphabet.IsName name) :
    name.head? ≠ some '@' := by
  cases named with
  | intro starting _ =>
    intro marked
    obtain rfl := Option.some.inj marked
    simp [alphabet.starts_ascii] at starting

/-- A name goes on with every character that may stand behind the first one. -/
theorem IsName.append {name behind : List Char} (named : alphabet.IsName name)
    (continuing : ∀ c ∈ behind, alphabet.continues c = true) :
    alphabet.IsName (name ++ behind) := by
  cases named with
  | intro starting inside =>
    exact .intro starting (List.forall_mem_append.mpr ⟨inside, continuing⟩)

/-- A name may stand behind another one, where every character that begins a name may also go on
with one. -/
theorem IsName.continues {name : List Char}
    (joins : ∀ c, alphabet.starts c = true → alphabet.continues c = true)
    (named : alphabet.IsName name) : ∀ c ∈ name, alphabet.continues c = true := by
  cases named with
  | intro starting inside => exact List.forall_mem_cons.mpr ⟨joins _ starting, inside⟩

/-- A text is an identifier when it is a name, or an `@` and a name. Nothing else may be in front of
a name, and not a second `@`. -/
theorem isIdentifier_iff {text : List Char} :
    alphabet.IsIdentifier text ↔
      alphabet.IsName text ∨ text.head? = some '@' ∧ alphabet.IsName text.tail := by
  constructor
  · rintro (named | named)
    · exact Or.inl named
    · exact Or.inr ⟨rfl, named⟩
  · rintro (named | ⟨marked, named⟩)
    · exact .plain named
    · obtain ⟨name, rfl⟩ := List.head?_eq_some_iff.mp marked
      exact .marked named

instance (text : List Char) : Decidable (alphabet.IsIdentifier text) :=
  decidable_of_iff _ isIdentifier_iff.symm

/-- An identifier without the `@` in front of it is a name. This is the name that the identifier
denotes, as one with `@` and one without are the same name. -/
theorem IsIdentifier.isName {identifier : List Char}
    (identified : alphabet.IsIdentifier identifier) :
    alphabet.IsName (identifier.dropWhile (· == '@')) := by
  have unmarked {name : List Char} (named : alphabet.IsName name) :
      name.dropWhile (· == '@') = name := by
    have other := named.head?_ne_at
    cases named with
    | intro _ _ => simpa using other
  cases identified with
  | plain named => rwa [unmarked named]
  | marked named => simpa [unmarked named] using named

/-- An identifier begins with an `@` or with a character that begins a name. -/
theorem IsIdentifier.exists_first {identifier : List Char}
    (identified : alphabet.IsIdentifier identifier) :
    ∃ first others, identifier = first :: others ∧
      (first = '@' ∨ alphabet.starts first = true) := by
  rcases identified with ⟨⟨starting, _⟩⟩ | _
  · exact ⟨_, _, rfl, Or.inr starting⟩
  · exact ⟨_, _, rfl, Or.inl rfl⟩

/-- A name with something behind it that cannot belong to a name is read to its end. -/
theorem readName?_of_isName {name rest : List Char} (named : alphabet.IsName name)
    (ends : ∀ c ∈ rest.head?, alphabet.continues c = false) :
    alphabet.readName? (name ++ rest) = some (name, rest) := by
  cases named with
  | @intro first others starting continuing =>
    obtain ⟨taken, left⟩ := Text.cut_behind_run continuing ends
    simp [readName?, starting, taken, left]

/-- Where a name begins, no `@` is read, and an identifier is read as a name is. -/
theorem readIdentifier?_of_isName {name : List Char} (named : alphabet.IsName name)
    (rest : List Char) :
    alphabet.readIdentifier? (name ++ rest) = alphabet.readName? (name ++ rest) := by
  have other := named.head?_ne_at
  unfold readIdentifier?
  split
  · rename_i marked
    cases named with
    | intro _ _ => exact absurd (congrArg List.head? marked) other
  · rfl

/-- An identifier with something behind it that cannot belong to a name is read to its end. -/
theorem readIdentifier?_of_isIdentifier {identifier rest : List Char}
    (identified : alphabet.IsIdentifier identifier)
    (ends : ∀ c ∈ rest.head?, alphabet.continues c = false) :
    alphabet.readIdentifier? (identifier ++ rest) = some (identifier, rest) := by
  cases identified with
  | plain named => rw [readIdentifier?_of_isName named, readName?_of_isName named ends]
  | marked named => simp [readIdentifier?, readName?_of_isName named ends]

/-- What is left behind a name is shorter than the text, as a name has at least one character. -/
theorem readName?_length {text name rest : List Char}
    (read : alphabet.readName? text = some (name, rest)) : rest.length < text.length := by
  unfold readName? at read
  split at read
  · simp at read
  · rename_i first behind
    split at read
    · obtain ⟨_, rfl⟩ := by simpa using read
      have bound := (List.dropWhile_suffix (l := behind) alphabet.continues).length_le
      simp only [List.length_cons]
      omega
    · simp at read

/-- What is left behind an identifier is shorter than the text. An `@` that no name follows is no
identifier. -/
theorem readIdentifier?_length {text identifier rest : List Char}
    (read : alphabet.readIdentifier? text = some (identifier, rest)) :
    rest.length < text.length := by
  unfold readIdentifier? at read
  split at read
  · obtain ⟨⟨name, left⟩, found, same⟩ := Option.map_eq_some_iff.mp read
    obtain ⟨_, rfl⟩ := Prod.mk.inj same
    have bound := readName?_length found
    simp only [List.length_cons]
    omega
  · exact readName?_length read

/-- A name as it is written in code is an identifier. -/
theorem IsName.escapedIdentifier {name : String} (named : alphabet.IsName name.toList) :
    alphabet.IsIdentifier (CSharp.escapedIdentifier name).toList := by
  unfold CSharp.escapedIdentifier
  split
  · rw [String.toList_append]
    exact .marked named
  · exact .plain named

end NameAlphabet

/-- The names of ASCII characters. -/
def asciiNames : NameAlphabet where
  starts c := c.isAlpha || c == '_'
  continues c := c.isAlphanum || c == '_'
  starts_ascii := fun _ => rfl
  continues_ascii := fun _ => rfl

/-- Every character that begins a name of ASCII characters may also go on with one. -/
theorem asciiNames_joins {c : Char} (starting : asciiNames.starts c = true) :
    asciiNames.continues c = true := by
  simp only [asciiNames, Char.isAlphanum, Bool.or_eq_true] at starting ⊢
  exact starting.imp_left Or.inl

/-- A character of ASCII names is one of ASCII, which bounds the characters that a test has to go
through. -/
theorem toNat_lt_of_continues {c : Char} (named : asciiNames.continues c = true) :
    c.toNat < 128 := by
  have ranges : ((decide (c.val ≥ 'A'.val ∧ c.val ≤ 'Z'.val) ||
      decide (c.val ≥ 'a'.val) && decide (c.val ≤ 'z'.val)) ||
        decide (c.val ≥ '0'.val) && decide (c.val ≤ '9'.val) || c == '_') = true := named
  simp only [Bool.or_eq_true, Bool.and_eq_true, decide_eq_true_eq, beq_iff_eq,
    UInt32.le_iff_toNat_le] at ranges
  rcases ranges with ((⟨_, upper⟩ | ⟨_, lower⟩) | ⟨_, digit⟩) | rfl
  · exact Nat.lt_of_le_of_lt upper (by decide)
  · exact Nat.lt_of_le_of_lt lower (by decide)
  · exact Nat.lt_of_le_of_lt digit (by decide)
  · decide

namespace NameAlphabet

variable {alphabet : NameAlphabet}

/-- Every alphabet has the characters of ASCII names. -/
theorem continues_of_ascii {c : Char} (named : asciiNames.continues c = true) :
    alphabet.continues c = true :=
  (alphabet.continues_ascii (toNat_lt_of_continues named)).trans named

/-- A character that starts a name in ASCII starts one in every alphabet, as each alphabet has the
ASCII letters. -/
theorem starts_of_ascii {c : Char} (named : asciiNames.starts c = true) :
    alphabet.starts c = true :=
  (alphabet.starts_ascii (toNat_lt_of_continues (asciiNames_joins named))).trans named

/-- A name of ASCII characters is one in every alphabet. -/
theorem IsName.of_ascii {name : List Char} (named : asciiNames.IsName name) :
    alphabet.IsName name := by
  cases named with
  | intro starting continuing =>
    exact .intro (starts_of_ascii starting) fun c member => continues_of_ascii (continuing c member)

/-- An identifier of ASCII characters is one in every alphabet. -/
theorem IsIdentifier.of_ascii {name : List Char} (identified : asciiNames.IsIdentifier name) :
    alphabet.IsIdentifier name := by
  cases identified with
  | plain named => exact .plain named.of_ascii
  | marked named => exact .marked named.of_ascii

end NameAlphabet

end TypedClients.CSharp
