import TypedClients.Yaml.Cursor
import TypedClients.Yaml.Fault

/-!
# Gaps inside scalars

Between two words of a scalar stands a gap of blanks and line breaks. Within a line it counts as
it is. Over a line break the blanks count for nothing, a single line feed counts as a space, and
of several the first counts for nothing.

A gap is read as a whole before it is known whether a word follows it: at the end of a plain scalar
it counts for nothing.
-/

namespace TypedClients.Yaml

/-- A gap: the blanks before its first line break, and its line breaks. -/
structure Gap where
  blanks : List Char
  breaks : List Char
  /-- Whether a line has ended in it. -/
  broken : Bool
deriving Repr

namespace Gap

/-- No gap. -/
def none : Gap := ⟨[], [], false⟩

/-- The gap behind an escaped end of a line. -/
def escaped : Gap := ⟨[], [], true⟩

/-- What a gap counts as. -/
def folded (gap : Gap) : List Char :=
  match gap.breaks with
  | [] => gap.blanks
  | '\n' :: [] => [' ']
  | '\n' :: others => others
  | breaks => breaks

end Gap

/-- The gap that starts at a place, behind what was read of it. Tabs left of a column break the
indentation. -/
def readGap (tabColumn : Nat) : Nat → Gap → Cursor → Except Fault (Gap × Cursor)
  | 0, gap, cursor => .ok (gap, cursor)
  | steps + 1, gap, cursor =>
    match cursor.rest with
    | [] => .ok (gap, cursor)
    | c :: _ =>
      if isSpaceOrTab c then
        if !gap.broken then
          readGap tabColumn steps { gap with blanks := gap.blanks ++ [c] } (cursor.skip 1)
        else if c = '\t' ∧ cursor.column < tabColumn then .error .tabInIndentation
        else readGap tabColumn steps gap (cursor.skip 1)
      else if isBreak c then
        let (lineBreak, next) := cursor.readBreak
        readGap tabColumn steps ⟨[], gap.breaks ++ lineBreak, true⟩ next
      else .ok (gap, cursor)

end TypedClients.Yaml
