/-!
# Folding of letter case

Attribute names, serialization symbols and type names are compared without regard to the case
of their ASCII letters. Letters beyond ASCII are compared as they stand.

Folding keeps the length of a text and every character that is no ASCII capital, so that it can be
compared with small words character by character.
-/

namespace TypedClients.Text

/-- Every ASCII capital replaced by its small letter. -/
def folded (text : String) : String :=
  String.ofList (text.toList.map Char.toLower)

/-- Equality up to the case of ASCII letters. -/
def sameFolded (a b : String) : Bool :=
  folded a == folded b

/-- Texts are equal up to case when their foldings are equal. Proofs go through the foldings, of
which equality is an equivalence. -/
theorem sameFolded_iff {a b : String} : sameFolded a b = true ↔ folded a = folded b := by
  simp [sameFolded]

end TypedClients.Text
