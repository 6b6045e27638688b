import TypedClients.Yaml.Cursor
import TypedClients.Yaml.Fault

/-!
# Block scalars

A block scalar is the indented lines behind a `|` or `>`. Its first line may say how far they are
indented and what becomes of the line breaks at the end; otherwise its first line that is not
empty sets the indentation, and one line break is kept. Behind `>` single line breaks between
lines that do not begin with a blank become spaces.
-/

namespace TypedClients.Yaml

/-- What becomes of the line breaks at the end. -/
inductive Chomping where
  | strip
  | clip
  | keep
deriving Repr, DecidableEq

/-- The chomping indicator, if one stands here. -/
def readChomping (cursor : Cursor) : Option Chomping × Cursor :=
  match cursor.rest with
  | '+' :: _ => (some .keep, cursor.skip 1)
  | '-' :: _ => (some .strip, cursor.skip 1)
  | _ => (none, cursor)

/-- The indentation indicator, if one stands here. It cannot be zero. -/
def readIncrement (cursor : Cursor) : Except Fault (Option Nat × Cursor) :=
  match cursor.rest with
  | c :: _ =>
    if c = '0' then .error .blockHeaderMalformed
    else if c.isDigit then .ok (some (c.toNat - '0'.toNat), cursor.skip 1)
    else .ok (none, cursor)
  | [] => .ok (none, cursor)

/-- The indicators of a block scalar, in either order, and the start of its second line. -/
def readBlockHeader (cursor : Cursor) : Except Fault (Chomping × Option Nat × Cursor) := do
  let (early, cursor) := readChomping cursor
  let (increment, cursor) ← readIncrement cursor
  let (late, cursor) :=
    if early.isNone ∧ increment.isSome then readChomping cursor else (none, cursor)
  let cursor := (cursor.dropWhile isSpaceOrTab).skipComment
  if !beginsWithBreak cursor.rest then .error .blockHeaderMalformed
  else .ok ((early.or late).getD .clip, increment, cursor.skipBreak)

/-- The empty lines at a place: their line breaks, the deepest column reached, and the start of
the first line that is not empty, behind its indentation. -/
def readEmptyLines (indent : Option Nat) :
    Nat → Nat → List Char → Cursor → Except Fault (Nat × List Char × Cursor)
  | 0, deepest, breaks, cursor => .ok (deepest, breaks, cursor)
  | steps + 1, deepest, breaks, cursor =>
    let spaces := (cursor.rest.takeWhile (· == ' ')).length
    let cursor := cursor.skip (match indent with
      | some indent => min spaces (indent - cursor.column)
      | none => spaces)
    let deepest := max deepest cursor.column
    match cursor.rest with
    | [] => .ok (deepest, breaks, cursor)
    | c :: _ =>
      if c = '\t' ∧ indent.all (fun indent => cursor.column < indent) then
        .error .tabInIndentation
      else if isBreak c then
        let (lineBreak, next) := cursor.readBreak
        readEmptyLines indent steps deepest (breaks ++ lineBreak) next
      else .ok (deepest, breaks, cursor)

/-- What was read of a block scalar: its text, last character first, the break behind its last
line, the breaks of the empty lines after that, and whether the last line began with a blank. -/
structure BlockText where
  read : List Char
  lineBreak : List Char
  emptyBreaks : List Char
  blank : Bool

/-- What stands between the last line and one that begins with a blank or not. -/
def BlockText.between (text : BlockText) (literal blank : Bool) : List Char :=
  if !literal ∧ text.lineBreak.head? = some '\n' ∧ !text.blank ∧ !blank then
    if text.emptyBreaks.isEmpty then [' '] else text.emptyBreaks
  else text.lineBreak ++ text.emptyBreaks

/-- The lines of a block scalar from a place on. -/
def readBlockLines (literal : Bool) (indent : Nat) :
    Nat → BlockText → Cursor → Except Fault (BlockText × Cursor)
  | 0, text, cursor => .ok (text, cursor)
  | steps + 1, text, cursor =>
    if cursor.column ≠ indent ∨ cursor.rest.isEmpty then .ok (text, cursor)
    else do
      let blank := cursor.rest.head?.any isSpaceOrTab
      let (line, behind) := cursor.takeWhile fun c => !isBreak c
      let (lineBreak, next) := behind.readBreak
      let (_, emptyBreaks, next) ← readEmptyLines (some indent) (next.rest.length + 1) 0 [] next
      readBlockLines literal indent steps
        { read := line.reverse ++ (text.between literal blank).reverse ++ text.read
          lineBreak, emptyBreaks, blank } next

/-- A block scalar, from its indicator. `outer` is the indentation of the collection around it,
if there is one. -/
def readBlock (literal : Bool) (outer : Option Nat) (cursor : Cursor) :
    Except Fault (List Char × Cursor) := do
  let (chomping, increment, cursor) ← readBlockHeader (cursor.skip 1)
  let stated := increment.map fun increment => outer.getD 0 + increment
  let (deepest, emptyBreaks, cursor) ←
    readEmptyLines stated (cursor.rest.length + 1) 0 [] cursor
  let least := match outer with
    | some outer => outer + 1
    | none => 0
  let indent := stated.getD (max (max deepest least) 1)
  let (text, cursor) ←
    readBlockLines literal indent (cursor.rest.length + 1) ⟨[], [], emptyBreaks, false⟩ cursor
  let tail := match chomping with
    | .strip => []
    | .clip => text.lineBreak
    | .keep => text.lineBreak ++ text.emptyBreaks
  return (text.read.reverse ++ tail, cursor)

end TypedClients.Yaml
