import TypedClients.Yaml.Token.Gap

/-!
# Plain scalars

A plain scalar is a run of words with gaps between them. It ends before a comment, at a `:` that a
gap follows, at the mark of a document, and at a line that is not indented further than the
collection around it; inside flow collections also at their indicators.

A word ends where the first character stands that cannot go on with it, and a scalar ends before the
first gap behind which no word begins.
-/

namespace TypedClients.Yaml

/-- The indicators of flow collections. -/
def isFlowIndicator (c : Char) : Bool :=
  c == ',' || c == '[' || c == ']' || c == '{' || c == '}'

/-- A word of a plain scalar, last character first. -/
def readPlainWord (inFlow : Bool) : Nat → List Char → Cursor → Except Fault (List Char × Cursor)
  | 0, word, cursor => .ok (word, cursor)
  | steps + 1, word, cursor =>
    match cursor.rest with
    | [] => .ok (word, cursor)
    | c :: rest =>
      if isGapChar c then .ok (word, cursor)
      else if inFlow ∧ c = ':' ∧ rest.head?.any (fun d => isFlowIndicator d || d == '?') then
        .error .colonInPlainScalar
      else if (c = ':' ∧ beginsWithGap rest) ∨ (inFlow ∧ isFlowIndicator c) then
        .ok (word, cursor)
      else readPlainWord inFlow steps (c :: word) (cursor.skip 1)

/-- A plain scalar, last character first, behind what was read of it and a gap. Says also whether
a line has ended behind its last word. -/
def readPlainWords (inFlow : Bool) (indent : Nat) :
    Nat → List Char → Gap → Cursor → Except Fault (List Char × Bool × Cursor)
  | 0, read, gap, cursor => .ok (read, gap.broken, cursor)
  | steps + 1, read, gap, cursor =>
    if cursor.atDocumentMark ∨ cursor.rest.head? = some '#' then .ok (read, gap.broken, cursor)
    else do
      let (word, behind) ← readPlainWord inFlow (cursor.rest.length + 1) [] cursor
      let read := if word.isEmpty then read else word ++ gap.folded.reverse ++ read
      let gap := if word.isEmpty then gap else .none
      if !(behind.rest.head?.any isGapChar) then return (read, gap.broken, behind)
      let (gap, next) ← readGap indent (behind.rest.length + 1) gap behind
      if !inFlow ∧ next.column < indent then return (read, gap.broken, next)
      readPlainWords inFlow indent steps read gap next

/-- A plain scalar. -/
def readPlain (inFlow : Bool) (indent : Nat) (cursor : Cursor) :
    Except Fault (List Char × Bool × Cursor) := do
  let (read, broken, rest) ←
    readPlainWords inFlow indent (cursor.rest.length + 1) [] .none cursor
  return (read.reverse, broken, rest)

end TypedClients.Yaml
