/-!
# White space

Names, type texts and header values are trimmed by Unicode's *White_Space* property, which is
wider than the ASCII blanks: it holds the no-break space and the ideographic space, and does not
hold the zero-width space.

The property is spelled out by ranges of code points and has not changed in the versions of Unicode
that matter here. Trimming at the end goes through the reversed text, as the start and the end are
treated alike.
-/

namespace TypedClients.Text

/-- A character with the White_Space property. -/
def isBlank (c : Char) : Bool :=
  (0x09 ≤ c.toNat && c.toNat ≤ 0x0D) || c.toNat == 0x20 || c.toNat == 0x85 || c.toNat == 0xA0 ||
    c.toNat == 0x1680 || (0x2000 ≤ c.toNat && c.toNat ≤ 0x200A) || c.toNat == 0x2028 ||
    c.toNat == 0x2029 || c.toNat == 0x202F || c.toNat == 0x205F || c.toNat == 0x3000

/-- The text without the blanks at its start. -/
def skipBlanks (text : List Char) : List Char :=
  text.dropWhile isBlank

/-- The text without the blanks at its end. -/
def dropTrailingBlanks (text : List Char) : List Char :=
  (text.reverse.dropWhile isBlank).reverse

/-- The text without the blanks at either end. -/
def trimBlanks (text : List Char) : List Char :=
  dropTrailingBlanks (skipBlanks text)

/-- The string without the blanks at either end. -/
def trimmed (text : String) : String :=
  String.ofList (trimBlanks text.toList)

end TypedClients.Text
