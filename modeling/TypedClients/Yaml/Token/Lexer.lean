import TypedClients.Yaml.Token
import TypedClients.Yaml.Token.Block
import TypedClients.Yaml.Token.Plain
import TypedClients.Yaml.Token.Quoted
import TypedClients.Yaml.Token.Tag

/-!
# The tokens of a text

The tokens are found from left to right, with two things to look after.

Outside of flow collections a column opens and closes block collections: an entry further to the
right than the collection around it starts one, and a line further to the left ends those that it
leaves.

A scalar, an alias or a flow collection may turn out to be a key when a `:` follows it. The place
of such a candidate among the tokens is remembered, one for the block level and one for every open
flow collection, and the tokens that make it a key are put in there. A candidate is given up when
its line ends, when it gets too long, or when something else starts; where the block structure
demands a key, giving up is an error.
-/

namespace TypedClients.Yaml

/-- The longest text of a key, in characters. -/
def maxKeyLength : Nat := 1024

/-- A place among the tokens where a key may turn out to stand. -/
structure KeyCandidate where
  /-- The number of tokens before it. -/
  position : Nat
  /-- Whether the block structure demands that it is a key. -/
  required : Bool
  index : Nat
  line : Nat
  column : Nat
deriving Repr

/-- The tokens of a text up to its end, or up to a fault. What stands before a fault may still be
a whole document. -/
structure TokenList where
  tokens : List Token
  fault : Option Fault

/-- The state of the search for tokens. -/
structure Lexer where
  cursor : Cursor
  tokens : Array Token
  /-- The columns of the open block collections, innermost first. -/
  columns : List Nat
  /-- Whether a candidate may start here. -/
  keyAllowed : Bool
  /-- The candidate of the block level. -/
  blockCandidate : Option KeyCandidate
  /-- The candidates of the open flow collections, innermost first. -/
  flowCandidates : List (Option KeyCandidate)

namespace Lexer

/-- The state at the start of a text. -/
def start (text : List Char) : Lexer where
  cursor := Cursor.start text
  tokens := #[]
  columns := []
  keyAllowed := true
  blockCandidate := none
  flowCandidates := []

/-- Whether a flow collection is open. -/
def inFlow (lexer : Lexer) : Bool :=
  !lexer.flowCandidates.isEmpty

/-- The state with another place. -/
def moveTo (lexer : Lexer) (cursor : Cursor) : Lexer :=
  { lexer with cursor }

/-- The state with one more token. -/
def push (lexer : Lexer) (token : Token) : Lexer :=
  { lexer with tokens := lexer.tokens.push token }

/-- The state with a token put in at a position. -/
def putAt (lexer : Lexer) (position : Nat) (token : Token) : Lexer :=
  { lexer with tokens := lexer.tokens.insertIdxIfInBounds position token }

/-- The state in which a candidate may, or may not, start. -/
def allowKey (lexer : Lexer) (allowed : Bool) : Lexer :=
  { lexer with keyAllowed := allowed }

/-! ## Block collections -/

/-- Close the block collections to the right of a column. -/
def closeBlocks (lexer : Lexer) (keep : Nat → Bool) : Lexer :=
  if lexer.inFlow then lexer
  else
    let closed := (lexer.columns.takeWhile fun column => !keep column).length
    { lexer with
      columns := lexer.columns.drop closed
      tokens := lexer.tokens ++ Array.replicate closed .blockEnd }

/-- Open a block collection at a column to the right of the one around it. Its start is put in at
a position. -/
def openBlock (lexer : Lexer) (column position : Nat) (token : Token) : Lexer :=
  if lexer.inFlow ∨ !(lexer.columns.head?.all fun outer => outer < column) then lexer
  else { lexer.putAt position token with columns := column :: lexer.columns }

/-- Open a block collection here. -/
def openBlockHere (lexer : Lexer) (token : Token) : Lexer :=
  lexer.openBlock lexer.cursor.column lexer.tokens.size token

/-! ## Candidates -/

/-- The candidate of the innermost level. -/
def candidate? (lexer : Lexer) : Option KeyCandidate :=
  match lexer.flowCandidates with
  | [] => lexer.blockCandidate
  | innermost :: _ => innermost

/-- The state with another candidate at the innermost level. -/
def withCandidate (lexer : Lexer) (candidate : Option KeyCandidate) : Lexer :=
  match lexer.flowCandidates with
  | [] => { lexer with blockCandidate := candidate }
  | _ :: outer => { lexer with flowCandidates := candidate :: outer }

/-- Give up the candidate of the innermost level. -/
def dropCandidate (lexer : Lexer) : Except Fault Lexer :=
  if lexer.candidate?.any KeyCandidate.required then .error .keyUnfinished
  else .ok (lexer.withCandidate none)

/-- What starts here is a candidate, if one may start. -/
def noteCandidate (lexer : Lexer) : Except Fault Lexer :=
  if lexer.keyAllowed then do
    let lexer ← lexer.dropCandidate
    return lexer.withCandidate (some
      { position := lexer.tokens.size
        required := !lexer.inFlow && lexer.columns.head? == some lexer.cursor.column
        index := lexer.cursor.index
        line := lexer.cursor.line
        column := lexer.cursor.column })
  else return lexer

/-- A candidate, unless its line has ended or it has become too long. -/
def freshCandidate (cursor : Cursor) : Option KeyCandidate → Except Fault (Option KeyCandidate)
  | none => .ok none
  | some candidate =>
    if candidate.line < cursor.line ∨ candidate.index + maxKeyLength < cursor.index then
      if candidate.required then .error .keyUnfinished else .ok none
    else .ok (some candidate)

/-- Give up the candidates, on all levels, that can no longer be keys. -/
def dropStaleCandidates (lexer : Lexer) : Except Fault Lexer := do
  let blockCandidate ← freshCandidate lexer.cursor lexer.blockCandidate
  let flowCandidates ← lexer.flowCandidates.mapM (freshCandidate lexer.cursor)
  return { lexer with blockCandidate, flowCandidates }

/-! ## The tokens one by one -/

/-- The place of the next token, behind blanks, comments and line breaks. A tab is a blank only
where it cannot be indentation. Behind a line break of the block level a key may start. -/
def skipToToken : Nat → Lexer → Lexer
  | 0, lexer => lexer
  | steps + 1, lexer =>
    let cursor := lexer.cursor
    let cursor :=
      if cursor.column = 0 ∧ cursor.rest.head? = some byteOrderMark then cursor.skip 1 else cursor
    let cursor := cursor.dropWhile fun c =>
      c == ' ' || ((lexer.inFlow || !lexer.keyAllowed) && c == '\t')
    let cursor := cursor.skipComment
    if cursor.rest.head?.any isBreak then
      skipToToken steps
        { lexer with
          cursor := cursor.skipBreak
          keyAllowed := !lexer.inFlow || lexer.keyAllowed }
    else lexer.moveTo cursor

/-- A token of one character that may be followed by a key, or not. -/
def takeMark (lexer : Lexer) (token : Token) (keyAllowed : Bool) : Except Fault Lexer := do
  let lexer ← lexer.dropCandidate
  return ((lexer.allowKey keyAllowed).push token).moveTo (lexer.cursor.skip 1)

/-- The mark of a document, of three characters. It ends all block collections. -/
def takeDocumentMark (lexer : Lexer) (token : Token) : Except Fault Lexer := do
  let lexer ← (lexer.closeBlocks fun _ => false).dropCandidate
  return ((lexer.allowKey false).push token).moveTo (lexer.cursor.skip 3)

/-- A directive. -/
def takeDirective (lexer : Lexer) : Except Fault Lexer := do
  let lexer ← (lexer.closeBlocks fun _ => false).dropCandidate
  let (token, rest) ← readDirective lexer.cursor
  return ((lexer.allowKey false).push token).moveTo rest

/-- The start of a flow collection, which may be a key. -/
def takeFlowStart (lexer : Lexer) (token : Token) : Except Fault Lexer := do
  let lexer ← lexer.noteCandidate
  let lexer := { lexer with flowCandidates := none :: lexer.flowCandidates }
  return ((lexer.allowKey true).push token).moveTo (lexer.cursor.skip 1)

/-- The end of a flow collection. -/
def takeFlowEnd (lexer : Lexer) (token : Token) : Except Fault Lexer := do
  let lexer ← lexer.dropCandidate
  let lexer := { lexer with flowCandidates := lexer.flowCandidates.drop 1 }
  return ((lexer.allowKey false).push token).moveTo (lexer.cursor.skip 1)

/-- A `-` that begins a sequence entry. -/
def takeBlockEntry (lexer : Lexer) : Except Fault Lexer :=
  if lexer.inFlow then lexer.takeMark .blockEntry true
  else if !lexer.keyAllowed then .error .entryMisplaced
  else (lexer.openBlockHere .blockSequenceStart).takeMark .blockEntry true

/-- A `?` that begins a key. -/
def takeKey (lexer : Lexer) : Except Fault Lexer :=
  if lexer.inFlow then lexer.takeMark .key false
  else if !lexer.keyAllowed then .error .keyMisplaced
  else (lexer.openBlockHere .blockMappingStart).takeMark .key true

/-- A `:` that begins a value: behind a candidate, which thereby becomes a key, or on its own. -/
def takeValue (lexer : Lexer) : Except Fault Lexer :=
  match lexer.candidate? with
  | some candidate =>
    let lexer := (lexer.putAt candidate.position .key).openBlock candidate.column
      candidate.position .blockMappingStart
    .ok ((((lexer.withCandidate none).allowKey false).push .value).moveTo (lexer.cursor.skip 1))
  | none =>
    if lexer.inFlow then
      .ok (((lexer.allowKey false).push .value).moveTo (lexer.cursor.skip 1))
    else if !lexer.keyAllowed then .error .valueMisplaced
    else
      let lexer := lexer.openBlockHere .blockMappingStart
      .ok (((lexer.allowKey true).push .value).moveTo (lexer.cursor.skip 1))

/-- An anchor or an alias, which may be a key. -/
def takeAnchor (lexer : Lexer) (token : List Char → Token) : Except Fault Lexer := do
  let lexer ← lexer.noteCandidate
  let (name, rest) := (lexer.cursor.skip 1).takeWhile isWordChar
  let ends := beginsWithGap rest.rest || "?:,]\x7d%@`".toList.any fun c => rest.rest.head? == some c
  if name.isEmpty ∨ !ends then .error .anchorMalformed
  else return ((lexer.allowKey false).push (token name)).moveTo rest

/-- A tag, which may begin a key. -/
def takeTag (lexer : Lexer) : Except Fault Lexer := do
  let lexer ← lexer.noteCandidate
  let (token, rest) ← readTag lexer.inFlow lexer.cursor
  return ((lexer.allowKey false).push token).moveTo rest

/-- A block scalar. A key may follow it. -/
def takeBlockScalar (lexer : Lexer) (literal : Bool) : Except Fault Lexer := do
  let lexer ← lexer.dropCandidate
  let (text, rest) ← readBlock literal lexer.columns.head? lexer.cursor
  return ((lexer.allowKey true).push (.scalar false text)).moveTo rest

/-- A quoted scalar, which may be a key. -/
def takeQuoted (lexer : Lexer) (single : Bool) : Except Fault Lexer := do
  let lexer ← lexer.noteCandidate
  let (text, rest) ← readQuoted single lexer.cursor
  return ((lexer.allowKey false).push (.scalar false text)).moveTo rest

/-- A plain scalar, which may be a key. If a line has ended behind it, a key may follow it. -/
def takePlain (lexer : Lexer) : Except Fault Lexer := do
  let lexer ← lexer.noteCandidate
  let indent := match lexer.columns with
    | [] => 0
    | column :: _ => column + 1
  let (text, broken, rest) ← readPlain lexer.inFlow indent lexer.cursor
  return ((lexer.allowKey broken).push (.scalar true text)).moveTo rest

/-- Whether a plain scalar can start with a character, given the text behind it. -/
def startsPlain (inFlow : Bool) (c : Char) (rest : List Char) : Bool :=
  if isGapChar c then false
  else if c = '-' then !(rest.head?.any isSpaceOrTab)
  else if c = '?' ∨ c = ':' then !inFlow && !beginsWithGap rest
  else !("?:,[]\x7b\x7d#&*!|>'\"%@`".toList.contains c)

/-- The token that starts with a character. -/
def takeToken (lexer : Lexer) (c : Char) (rest : List Char) : Except Fault Lexer :=
  if lexer.cursor.column = 0 ∧ c = '%' then lexer.takeDirective
  else if lexer.cursor.atDocumentStart then lexer.takeDocumentMark .documentStart
  else if lexer.cursor.atDocumentEnd then lexer.takeDocumentMark .documentEnd
  else if c = '[' then lexer.takeFlowStart .flowSequenceStart
  else if c = '{' then lexer.takeFlowStart .flowMappingStart
  else if c = ']' then lexer.takeFlowEnd .flowSequenceEnd
  else if c = '}' then lexer.takeFlowEnd .flowMappingEnd
  else if c = ',' then lexer.takeMark .flowEntry true
  else if c = '-' ∧ beginsWithGap rest then lexer.takeBlockEntry
  else if c = '?' ∧ (lexer.inFlow ∨ beginsWithGap rest) then lexer.takeKey
  else if c = ':' ∧ (lexer.inFlow ∨ beginsWithGap rest) then lexer.takeValue
  else if c = '*' then lexer.takeAnchor .alias
  else if c = '&' then lexer.takeAnchor .anchor
  else if c = '!' then lexer.takeTag
  else if c = '|' ∧ !lexer.inFlow then lexer.takeBlockScalar true
  else if c = '>' ∧ !lexer.inFlow then lexer.takeBlockScalar false
  else if c = '\'' then lexer.takeQuoted true
  else if c = '"' then lexer.takeQuoted false
  else if startsPlain lexer.inFlow c rest then lexer.takePlain
  else .error .tokenUnknown

/-- The end of the text, which ends all block collections. -/
def takeEnd (lexer : Lexer) : Except Fault Lexer :=
  (lexer.closeBlocks fun _ => false).dropCandidate

/-- The next token; at the end of the text there is none. -/
def next (lexer : Lexer) : Except Fault (Option Lexer) := do
  let lexer ← (skipToToken (lexer.cursor.rest.length + 1) lexer).dropStaleCandidates
  let lexer := lexer.closeBlocks fun column => column ≤ lexer.cursor.column
  match lexer.cursor.rest with
  | [] => return none
  | c :: rest => return some (← lexer.takeToken c rest)

/-- The tokens up to here, with those that the end of the text adds. -/
def finish (lexer : Lexer) : TokenList :=
  match lexer.takeEnd with
  | .error fault => ⟨lexer.tokens.toList, some fault⟩
  | .ok lexer => ⟨lexer.tokens.toList, none⟩

/-- The tokens of a text, from some state on, up to its end or to a fault. Every step takes a
character. -/
def run : Nat → Lexer → TokenList
  | 0, lexer => lexer.finish
  | steps + 1, lexer =>
    match lexer.next with
    | .error fault => ⟨lexer.tokens.toList, some fault⟩
    | .ok none => lexer.finish
    | .ok (some lexer) => run steps lexer

end Lexer

/-- A character that a text may contain. -/
def isPrintable (c : Char) : Bool :=
  c == '\t' || c == '\n' || c == '\r' || (0x20 ≤ c.toNat && c.toNat ≤ 0x7E) || c == '\x85' ||
    (0xA0 ≤ c.toNat && c.toNat ≤ 0xD7FF) || (0xE000 ≤ c.toNat && c.toNat ≤ 0xFFFD) ||
    0x10000 ≤ c.toNat

/-- The tokens of a text. -/
def tokens (text : String) : TokenList :=
  if text.toList.all isPrintable then
    Lexer.run (text.toList.length + 1) (Lexer.start text.toList)
  else ⟨[], some .character⟩

end TypedClients.Yaml
