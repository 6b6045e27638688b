import TypedClients.LineDiff

/-!
# Hunks

A hunk is a stretch of an edit script around some changes, with up to three kept lines on either
side. Changes with at most six kept lines between them share a hunk, for then the lines around
the one touch those around the other. The heading of a hunk says which lines it is about.

An edit script is cut without being changed: the hunks in order, with the kept lines between them,
are the script.
-/

namespace TypedClients.LineDiff

/-- The number of kept lines shown on either side of a change. -/
def contextSize : Nat := 3

/-- A stretch of a script, and the numbers of lines before it in the old and the new text. -/
structure Hunk (α : Type) where
  oldBefore : Nat
  newBefore : Nat
  edits : List (Edit α)

variable {α : Type}

/-- Whether the step at an index is a change, or near one. -/
def isShown (edits : List (Edit α)) (index : Nat) : Bool :=
  ((edits.drop (index - contextSize)).take (min index contextSize + 1 + contextSize)).any
    Edit.isChange

/-- Every step of a script, with whether it is shown. -/
def marked (edits : List (Edit α)) : List (Edit α × Bool) :=
  edits.zipIdx.map fun (edit, index) => (edit, isShown edits index)

/-- The hunks of marked steps, behind some lines of the old and of the new text. -/
def hunksFrom (oldBefore newBefore : Nat) : List (Edit α × Bool) → List (Hunk α)
  | [] => []
  | (edit, shown) :: rest =>
    let behind := hunksFrom (oldBefore + edit.oldItems.length) (newBefore + edit.newItems.length)
      rest
    if shown then
      match rest.head?.map Prod.snd, behind with
      | some true, hunk :: others => ⟨oldBefore, newBefore, edit :: hunk.edits⟩ :: others
      | _, _ => ⟨oldBefore, newBefore, [edit]⟩ :: behind
    else behind

/-- The hunks of a script. -/
def hunks (edits : List (Edit α)) : List (Hunk α) :=
  hunksFrom 0 0 (marked edits)

/-- The lines of the old text in a hunk. -/
def Hunk.oldItems (hunk : Hunk α) : List α :=
  hunk.edits.flatMap Edit.oldItems

/-- The lines of the new text in a hunk. -/
def Hunk.newItems (hunk : Hunk α) : List α :=
  hunk.edits.flatMap Edit.newItems

/-- A range of lines: the number of the first and the count, or the number alone when there is
one line. When there is none, the number is that of the line before. -/
def rangeText (before count : Nat) : String :=
  if count = 1 then toString (before + 1)
  else if count = 0 then toString before ++ ",0"
  else toString (before + 1) ++ "," ++ toString count

/-- The heading of a hunk. -/
def Hunk.heading (hunk : Hunk α) : String :=
  "@@ -" ++ rangeText hunk.oldBefore hunk.oldItems.length ++ " +"
    ++ rangeText hunk.newBefore hunk.newItems.length ++ " @@"

end TypedClients.LineDiff
