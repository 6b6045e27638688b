import TypedClients.Entries
import TypedClients.Toml.Value

/-!
# Tables under construction

A text builds its tables statement by statement. What a later statement may still add to a table
depends on how the table came about: a header names each table once, but it may name a table that
so far was only implied by the headers of tables inside it, and a dotted key may extend only
tables that dotted keys have made.
-/

namespace TypedClients.Toml

open Entries (put)

/-- How a table came about. -/
inductive Origin where
  /-- A header names it. -/
  | header
  /-- It stands on the path of a header. -/
  | implied
  /-- It stands on the path of a dotted key. -/
  | dotted
deriving Repr, DecidableEq

/-- What a key of a table under construction leads to. -/
inductive Item where
  | value (value : Value)
  | table (origin : Origin) (entries : List (String × Item))
  /-- The tables that headers in doubled brackets make, in the order of the text. -/
  | tables (elements : List (List (String × Item)))

/-- The entries of a table under construction. -/
abbrev Items := List (String × Item)

mutual

/-- The finished value of an item. -/
def Item.finished : Item → Value
  | .value value => value
  | .table _ entries => .table (finishedEntries entries)
  | .tables elements => .array (finishedElements elements)

/-- The finished entries of a table. -/
def finishedEntries : Items → Table
  | [] => []
  | (key, item) :: entries => (key, item.finished) :: finishedEntries entries

/-- The finished elements of an array of tables. -/
def finishedElements : List Items → List Value
  | [] => []
  | entries :: elements => .table (finishedEntries entries) :: finishedElements elements

end

/-- Change the entries of the table at the end of a path. Tables that are missing on the way are
made; of an array of tables the way leads through the last one. The path of a dotted key leads
through no table that a header names. -/
def changeAt (dotted : Bool) :
    List String → (Origin → Items → Option Items) → Origin → Items → Option Items
  | [], change, origin, entries => change origin entries
  | key :: path, change, _, entries =>
    match entries.lookup key with
    | none =>
      let origin := if dotted then .dotted else .implied
      (changeAt dotted path change origin []).map fun inner =>
        put key (.table origin inner) entries
    | some (.value _) => none
    | some (.table origin inner) =>
      if dotted && origin = .header then none
      else (changeAt dotted path change origin inner).map fun inner =>
        put key (.table origin inner) entries
    | some (.tables elements) =>
      match elements.reverse with
      | [] => none
      | last :: earlier =>
        (changeAt dotted path change .header last).map fun last =>
          put key (.tables (last :: earlier).reverse) entries

/-- Give a key a value, when the table has no such key yet. At the end of a dotted path the table
has to be one that dotted keys have made. -/
def addValue (dotted : Bool) (key : String) (value : Value) (origin : Origin) (entries : Items) :
    Option Items :=
  if dotted && origin ≠ .dotted then none
  else if (entries.lookup key).isSome then none
  else some (put key (.value value) entries)

/-- Split a path from its last key. -/
def splitLast? (path : List String) : Option (List String × String) :=
  path.getLast?.map fun key => (path.dropLast, key)

/-- Give the dotted key of a statement its value. -/
def assign (path : List String) (value : Value) (entries : Items) : Option Items := do
  let (before, key) ← splitLast? path
  changeAt true before (addValue (!before.isEmpty) key value) .header entries

/-- Open the table that a header names. -/
def openTable (path : List String) (entries : Items) : Option Items := do
  let (before, key) ← splitLast? path
  changeAt false before (fun _ around =>
    match around.lookup key with
    | none => some (put key (.table .header []) around)
    | some (.table .implied inner) => some (put key (.table .header inner) around)
    | some _ => none) .header entries

/-- Open the next table of the array that a header in doubled brackets names. -/
def openElement (path : List String) (entries : Items) : Option Items := do
  let (before, key) ← splitLast? path
  changeAt false before (fun _ around =>
    match around.lookup key with
    | none => some (put key (.tables [[]]) around)
    | some (.tables elements) => some (put key (.tables (elements ++ [[]])) around)
    | some _ => none) .header entries

/-- Give a dotted key its value in the table that the last header has opened. -/
def assignIn (header path : List String) (value : Value) (entries : Items) : Option Items :=
  changeAt false header (fun _ inner => assign path value inner) .header entries

end TypedClients.Toml
