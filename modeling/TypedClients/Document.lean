/-!
# Documents

The value that a structured text denotes, whichever format the text was written in. Declarations
are decoded from such values and encoded into them.

No field of a declaration holds a number that is not a 64-bit integer, so such a number is kept
only as the fact that it stood there. The keys of a mapping are documents too: one of the formats
has keys that are not texts, and decoding has a rule for them.

Documents are compared structurally, so that what a reader makes of a given text can be decided by
running it.
-/

namespace TypedClients

/-- A structured value. -/
inductive Document where
  | null
  | bool (value : Bool)
  /-- An integer that fits 64 bits, with or without a sign. -/
  | int (value : Int)
  /-- Any other number. -/
  | number
  | text (value : String)
  | list (items : List Document)
  /-- Entries in the order in which they were written, repeated keys included. -/
  | mapping (entries : List (Document × Document))
deriving Repr, Inhabited

namespace Document

/-- A mapping whose keys are texts. -/
def record (fields : List (String × Document)) : Document :=
  .mapping (fields.map fun field => (.text field.1, field.2))

/-- An integer in the signed 64-bit range. -/
def fitsSigned (value : Int) : Bool :=
  -9223372036854775808 ≤ value && value ≤ 9223372036854775807

mutual

/-- Whether two documents are the same. -/
def same : Document → Document → Bool
  | .null, .null | .number, .number => true
  | .bool value, .bool other => value == other
  | .int value, .int other => value == other
  | .text value, .text other => value == other
  | .list items, .list others => sameItems items others
  | .mapping entries, .mapping others => sameEntries entries others
  | _, _ => false

/-- Whether two lists hold the same documents. -/
def sameItems : List Document → List Document → Bool
  | [], [] => true
  | item :: items, other :: others => same item other && sameItems items others
  | _, _ => false

/-- Whether two lists hold the same entries, in the same order. -/
def sameEntries : List (Document × Document) → List (Document × Document) → Bool
  | [], [] => true
  | (key, value) :: entries, (otherKey, otherValue) :: others =>
    same key otherKey && same value otherValue && sameEntries entries others
  | _, _ => false

end

mutual

/-- Documents are the same when they are equal. The induction is over the first one, beside its
items and its entries. -/
theorem same_iff (document other : Document) : same document other = true ↔ document = other := by
  cases document <;> cases other <;> simp [same, sameItems_iff, sameEntries_iff]

/-- Lists of documents are the same when they are equal. -/
theorem sameItems_iff (items others : List Document) :
    sameItems items others = true ↔ items = others := by
  cases items <;> cases others <;> simp [sameItems, same_iff, sameItems_iff]

/-- Lists of entries are the same when they are equal. -/
theorem sameEntries_iff (entries others : List (Document × Document)) :
    sameEntries entries others = true ↔ entries = others := by
  cases entries with
  | nil => cases others <;> simp [sameEntries]
  | cons entry entries =>
    obtain ⟨key, value⟩ := entry
    cases others with
    | nil => simp [sameEntries]
    | cons other others =>
      obtain ⟨otherKey, otherValue⟩ := other
      simp [sameEntries, same_iff, sameEntries_iff]

end

instance : DecidableEq Document := fun document other =>
  decidable_of_iff _ (same_iff document other)

end Document

end TypedClients
