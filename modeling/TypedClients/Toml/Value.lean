/-!
# Values of TOML

What a TOML text denotes is a table of values. Numbers that are not integers and moments of time
are read and checked, but no setting is made of them, so only the fact is kept that one stood
there.

Values can be compared, so that a test of a configuration is settled by evaluation. The comparison
follows the nesting of values, through lists and tables.
-/

namespace TypedClients.Toml

/-- A value of a TOML text. -/
inductive Value where
  | text (value : String)
  | integer (value : Int64)
  | bool (value : Bool)
  /-- A number that is written with a point or an exponent, an infinity or no number. -/
  | float
  /-- A date, a time, or both. -/
  | moment
  | array (items : List Value)
  | table (entries : List (String × Value))
deriving Repr

/-- The text that a value is. -/
def Value.text? : Value → Option String
  | .text value => some value
  | _ => none

/-- The integer that a value is. -/
def Value.integer? : Value → Option Int64
  | .integer value => some value
  | _ => none

/-- The truth value that a value is. -/
def Value.bool? : Value → Option Bool
  | .bool value => some value
  | _ => none

namespace Value

mutual

/-- Whether two values are the same. -/
def same : Value → Value → Bool
  | .text value, .text other => value == other
  | .integer value, .integer other => value == other
  | .bool value, .bool other => value == other
  | .float, .float | .moment, .moment => true
  | .array items, .array others => sameItems items others
  | .table entries, .table others => sameEntries entries others
  | _, _ => false

/-- Whether two arrays hold the same values. -/
def sameItems : List Value → List Value → Bool
  | [], [] => true
  | item :: items, other :: others => same item other && sameItems items others
  | _, _ => false

/-- Whether two tables hold the same entries, in the same order. -/
def sameEntries : List (String × Value) → List (String × Value) → Bool
  | [], [] => true
  | (key, value) :: entries, (otherKey, otherValue) :: others =>
    key == otherKey && same value otherValue && sameEntries entries others
  | _, _ => false

end

mutual

/-- Values are the same when they are equal. The induction is over the first one, beside its items
and its entries. -/
theorem same_iff (value other : Value) : same value other = true ↔ value = other := by
  cases value <;> cases other <;> simp [same, sameItems_iff, sameEntries_iff]

/-- Arrays are the same when they are equal. -/
theorem sameItems_iff (items others : List Value) :
    sameItems items others = true ↔ items = others := by
  cases items <;> cases others <;> simp [sameItems, same_iff, sameItems_iff]

/-- Tables are the same when they are equal. -/
theorem sameEntries_iff (entries others : List (String × Value)) :
    sameEntries entries others = true ↔ entries = others := by
  cases entries with
  | nil => cases others <;> simp [sameEntries]
  | cons entry entries =>
    obtain ⟨key, value⟩ := entry
    cases others with
    | nil => simp [sameEntries]
    | cons other others =>
      obtain ⟨otherKey, otherValue⟩ := other
      simp [sameEntries, same_iff, sameEntries_iff]

end

instance : DecidableEq Value := fun value other =>
  decidable_of_iff _ (same_iff value other)

end Value

/-- The entries of a table. Their keys differ from each other. -/
abbrev Table := List (String × Value)

end TypedClients.Toml
