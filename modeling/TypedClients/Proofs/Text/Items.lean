import TypedClients.Proofs.Text.Pieces

/-!
# Reading items up to a mark

What stands between quotes or braces is read item by item, until a mark ends it where no item
begins. Each item takes some of the text, so that the reading comes to an end.

An `ItemReader` is given as a parameter, so that literals, interpolated strings and formats are read
by one definition. What was printed item by item is read back when each item is, in front of
whatever the next one begins with.
-/

namespace TypedClients.Text

/-- A way to read one item at the beginning of a text, which gives what is left behind it. -/
structure ItemReader (Item : Type) where
  read? : List Char → Option (Item × List Char)
  /-- An item is never empty. -/
  shortens {text rest : List Char} {item : Item} :
    read? text = some (item, rest) → rest.length < text.length

namespace ItemReader

variable {Item : Type} (reader : ItemReader Item)

/-- The items of a text up to the mark that ends them, and what is left behind the mark. -/
def readUntil? (mark : Char) (text : List Char) : Option (List Item × List Char) :=
  match _read : reader.read? text with
  | some (item, rest) =>
    (readUntil? mark rest).map fun others => (item :: others.1, others.2)
  | none => (behind? [mark] text).map fun rest => ([], rest)
termination_by text.length
decreasing_by exact reader.shortens _read

variable {reader} {mark : Char} {text rest : List Char}

/-- Where an item stands, it is the first one, and the others are read from where it ends. -/
theorem readUntil?_of_some {item : Item} (read : reader.read? text = some (item, rest)) :
    reader.readUntil? mark text =
      (reader.readUntil? mark rest).map fun others => (item :: others.1, others.2) := by
  rw [readUntil?]
  split
  · rename_i found
    obtain ⟨rfl, rfl⟩ := by simpa using read.symm.trans found
    rfl
  · rename_i absent
    simp [read] at absent

/-- Where no item stands, only the mark can. -/
theorem readUntil?_of_none (absent : reader.read? text = none) :
    reader.readUntil? mark text = (behind? [mark] text).map fun rest => ([], rest) := by
  rw [readUntil?]
  split
  · rename_i found
    simp [absent] at found
  · rfl

/-- There are no items exactly where the mark stands and no item begins. -/
theorem readUntil?_eq_some_nil :
    reader.readUntil? mark text = some ([], rest) ↔
      reader.read? text = none ∧ text = mark :: rest := by
  cases found : reader.read? text with
  | none => simp [readUntil?_of_none found, behind?_eq_some_iff]
  | some first => simp [readUntil?_of_some found]

/-- The first item is read at the beginning, the others behind it, up to the mark. -/
theorem readUntil?_eq_some_cons {item : Item} {items : List Item} :
    reader.readUntil? mark text = some (item :: items, rest) ↔
      ∃ left, reader.read? text = some (item, left) ∧
        reader.readUntil? mark left = some (items, rest) := by
  cases found : reader.read? text with
  | none => simp [readUntil?_of_none found]
  | some first =>
    obtain ⟨head, left⟩ := first
    rw [readUntil?_of_some found]
    constructor
    · intro read
      obtain ⟨⟨others, _⟩, readOthers, same⟩ := Option.map_eq_some_iff.mp read
      obtain ⟨⟨rfl, rfl⟩, rfl⟩ := by simpa using same
      exact ⟨left, rfl, readOthers⟩
    · rintro ⟨_, same, readOthers⟩
      obtain ⟨rfl, rfl⟩ := by simpa using same
      rw [readOthers]
      rfl

/-- Where each of some texts is read as one item whatever stands behind it, their items are read
one after the other, and then those of the text behind them. -/
theorem readUntil?_flatMap {Source : Type} {print : Source → List Char} {item : Source → Item}
    {sources : List Source}
    (each : ∀ source ∈ sources, ∀ rest,
      reader.read? (print source ++ rest) = some (item source, rest)) :
    reader.readUntil? mark (sources.flatMap print ++ rest) =
      (reader.readUntil? mark rest).map fun others =>
        (sources.map item ++ others.1, others.2) := by
  induction sources with
  | nil => simp
  | cons source sources inductionHypothesis =>
    obtain ⟨first, later⟩ := List.forall_mem_cons.mp each
    rw [List.flatMap_cons, List.append_assoc, readUntil?_of_some (first _),
      inductionHypothesis later, Option.map_map]
    rfl

/-- Items that are read as they were printed are all that is read up to a mark which begins no
item. -/
theorem readUntil?_printed {print : Item → List Char} {items : List Item}
    (each : ∀ item ∈ items, ∀ rest, reader.read? (print item ++ rest) = some (item, rest))
    (ends : reader.read? (mark :: rest) = none) :
    reader.readUntil? mark (items.flatMap print ++ mark :: rest) = some (items, rest) := by
  have itself : ∀ item ∈ items, ∀ rest, reader.read? (print item ++ rest) = some (id item, rest) :=
    each
  rw [readUntil?_flatMap itself, readUntil?_eq_some_nil.mpr ⟨ends, rfl⟩]
  simp

/-- What is left behind the mark is shorter than the text. -/
theorem readUntil?_length {items : List Item}
    (read : reader.readUntil? mark text = some (items, rest)) : rest.length < text.length := by
  induction items generalizing text with
  | nil => simp [(readUntil?_eq_some_nil.mp read).2]
  | cons item items inductionHypothesis =>
    obtain ⟨left, found, readOthers⟩ := readUntil?_eq_some_cons.mp read
    have shorter := reader.shortens found
    have bound := inductionHypothesis readOthers
    omega

end ItemReader

end TypedClients.Text
