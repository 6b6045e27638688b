/-!
# Differences between two texts, line by line

A text is cut into lines that keep their ends, so that the lines of a text give the text back. An
edit script says how to go from one list of lines to another, and `script` is a shortest one:
lines are kept wherever that makes no detour, and where lines change, the old ones go before the
new ones come.

Scripts are computed from the ends of the lists, a row for every line of the old text and in it a
cell for every ending of the new one, so no pair of endings is looked at twice.
-/

namespace TypedClients.LineDiff

/-- The lines of a text, each with its end: a line feed, a carriage return, or both together. -/
def linesOf : List Char → List (List Char)
  | [] => []
  | '\r' :: '\n' :: rest => ['\r', '\n'] :: linesOf rest
  | c :: rest =>
    if c = '\n' ∨ c = '\r' then [c] :: linesOf rest
    else match linesOf rest with
      | [] => [[c]]
      | line :: others => (c :: line) :: others

/-- The lines of a text. -/
def lines (text : String) : List String :=
  (linesOf text.toList).map String.ofList

/-- One step from an old list to a new one. -/
inductive Edit (α : Type) where
  | keep (item : α)
  | delete (item : α)
  | insert (item : α)
deriving Repr, DecidableEq

namespace Edit

variable {α : Type}

/-- The items of the old list that a step uses up. -/
def oldItems : Edit α → List α
  | .keep item | .delete item => [item]
  | .insert _ => []

/-- The items of the new list that a step gives. -/
def newItems : Edit α → List α
  | .keep item | .insert item => [item]
  | .delete _ => []

/-- Whether a step changes anything. -/
def isChange : Edit α → Bool
  | .keep _ => false
  | _ => true

/-- Whether a step brings in an item. -/
def isInsertion : Edit α → Bool
  | .insert _ => true
  | _ => false

/-- Whether a step drops an item. -/
def isDeletion : Edit α → Bool
  | .delete _ => true
  | _ => false

end Edit

variable {α : Type}

/-- A script, with the number of its changes. -/
structure Cell (α : Type) where
  changes : Nat
  edits : List (Edit α)

/-- The script for nothing. -/
def Cell.empty : Cell α := ⟨0, []⟩

/-- A script that keeps an item first. -/
def Cell.keep (item : α) (rest : Cell α) : Cell α :=
  ⟨rest.changes, .keep item :: rest.edits⟩

/-- A script that drops an item first. -/
def Cell.delete (item : α) (rest : Cell α) : Cell α :=
  ⟨rest.changes + 1, .delete item :: rest.edits⟩

/-- A script that brings in an item first. -/
def Cell.insert (item : α) (rest : Cell α) : Cell α :=
  ⟨rest.changes + 1, .insert item :: rest.edits⟩

/-- The scripts from nothing to every ending of a list, the longest first. -/
def insertions : List α → List (Cell α)
  | [] => [.empty]
  | item :: rest =>
    let row := insertions rest
    row.headD .empty |>.insert item |> (· :: row)

/-- The scripts to every ending of `new` from a list that begins with `item`, given those from
the list behind it. -/
def nextRow [DecidableEq α] (item : α) : List α → List (Cell α) → List (Cell α)
  | [], below => [(below.headD .empty).delete item]
  | other :: new, below =>
    let row := nextRow item new below.tail
    let cell :=
      if item = other then (below.tail.headD .empty).keep item
      else if (below.headD .empty).changes ≤ (row.headD .empty).changes then
        (below.headD .empty).delete item
      else (row.headD .empty).insert other
    cell :: row

/-- The scripts from a list to every ending of another. -/
def rowOf [DecidableEq α] (new : List α) : List α → List (Cell α)
  | [] => insertions new
  | item :: old => nextRow item new (rowOf new old)

/-- A shortest script from one list to another. -/
def script [DecidableEq α] (old new : List α) : List (Edit α) :=
  ((rowOf new old).headD .empty).edits

/-- The number of steps that bring in an item. -/
def insertedCount (edits : List (Edit α)) : Nat :=
  edits.countP Edit.isInsertion

/-- The number of steps that drop an item. -/
def deletedCount (edits : List (Edit α)) : Nat :=
  edits.countP Edit.isDeletion

end TypedClients.LineDiff
