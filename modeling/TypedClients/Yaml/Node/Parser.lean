import TypedClients.Yaml.Node
import TypedClients.Yaml.Token.Lexer

/-!
# The tree of a document

Tokens are put together to one tree. In block collections an entry may have an empty key or
value, and a sequence may be the value of a key at the same column; in flow sequences a single
entry of a mapping may stand as an item. A text holds one document, perhaps behind directives.

An anchor gets as its number the number of names known before it. A name that is declared again
keeps its place among the names, so that two anchors can come to have one number; an alias then
stands for the one that begins last.
-/

namespace TypedClients.Yaml

/-- The state of the reading of a tree. -/
structure ParserState where
  rest : List Token
  /-- The fault behind the last token. -/
  fault : Option Fault
  /-- The number of each anchor name. -/
  names : List (List Char × Nat)
  /-- What each tag handle stands for. -/
  handles : List (List Char × List Char)

/-- A step of the reading of a tree. -/
abbrev Parse := StateT ParserState (Except Fault)

namespace Parse

/-- The next token. A fault in its place is found only here. -/
def next? : Parse (Option Token) := do
  let state : ParserState ← get
  match state.rest, state.fault with
  | token :: _, _ => return some token
  | [], none => return none
  | [], some fault => throw fault

/-- Pass over the next token. -/
def pass : Parse Unit :=
  modify fun (state : ParserState) => { state with rest := state.rest.drop 1 }

/-- Pass over the next token if it is the one given, and say whether it is. -/
def accept (token : Token) : Parse Bool := do
  if (← next?) = some token then
    pass
    return true
  else return false

/-- Give an anchor its number. -/
def declareAnchor (name : List Char) : Parse Nat := do
  let state : ParserState ← get
  let number := state.names.length
  let others := state.names.filter fun entry => entry.1 != name
  set ({ state with names := others ++ [(name, number)] } : ParserState)
  return number

/-- The number of the anchor that an alias names. -/
def anchorNumber (name : List Char) : Parse Nat := do
  let state : ParserState ← get
  match state.names.find? fun entry => entry.1 == name with
  | some entry => return entry.2
  | none => throw .aliasUnknown

/-- The full text of a tag. -/
def resolveTag (handle suffix : List Char) : Parse (List Char) := do
  let state : ParserState ← get
  if handle.isEmpty then return suffix
  else match state.handles.find? fun entry => entry.1 == handle with
    | some entry => return entry.2 ++ suffix
    | none => throw .tagHandleUnknown

/-- The anchor that stands before a node, if there is one. -/
def anchor? : Parse (Option Nat) := do
  match ← next? with
  | some (.anchor name) =>
    pass
    return some (← declareAnchor name)
  | _ => return none

/-- The tag that stands before a node, if there is one. -/
def tag? : Parse (Option (List Char)) := do
  match ← next? with
  | some (.tag handle suffix) =>
    pass
    return some (← resolveTag handle suffix)
  | _ => return none

/-- The anchor and the tag that stand before a node, in either order. -/
def properties : Parse (Option Nat × Option (List Char)) := do
  match ← anchor? with
  | some anchor => return (some anchor, ← tag?)
  | none =>
    let tag ← tag?
    if tag.isSome then return (← anchor?, tag) else return (none, none)

/-- A node behind its anchor. -/
def anchoredAt (anchor : Option Nat) (node : Node) : Node :=
  match anchor with
  | some anchor => .anchored anchor node
  | none => node

/-- What follows an entry of a block mapping that has nothing in it. -/
def mappingEnds : List Token := [.key, .value, .blockEnd]

/-- What follows an item without dashes further in that has nothing in it. -/
def indentlessEnds : List Token := [.blockEntry, .key, .value, .blockEnd]

/-- What follows a key of a flow mapping that has nothing in it. -/
def flowKeyEnds : List Token := [.value, .flowEntry, .flowMappingEnd]

/-- What follows a value of a flow mapping that has nothing in it. -/
def flowValueEnds : List Token := [.flowEntry, .flowMappingEnd]

/-- What follows the value of a single entry that has nothing in it. -/
def singleValueEnds : List Token := [.flowEntry, .flowSequenceEnd]

mutual

/-- A node. Block collections may stand only where a block may; a sequence may stand at the
column of the mapping around it only where that is said. -/
def node (block indentless : Bool) : Nat → Parse Node
  | 0 => throw .nodeExpected
  | steps + 1 => do
    if let some (.alias name) ← next? then
      pass
      return .alias (← anchorNumber name)
    let (anchor, tag) ← properties
    let content : Node ← match ← next? with
      | some .blockEntry =>
        if indentless then pure (.sequence tag (← indentlessItems steps))
        else emptyNode anchor tag
      | some (.scalar plain text) =>
        pass
        if tag = some ['!'] then pure (.scalar none plain text) else pure (.scalar tag plain text)
      | some .flowSequenceStart =>
        pass
        pure (.sequence tag (← flowItems true steps))
      | some .flowMappingStart =>
        pass
        pure (.mapping tag (← flowEntries true steps))
      | some .blockSequenceStart =>
        if block then
          pass
          pure (.sequence tag (← blockItems steps))
        else emptyNode anchor tag
      | some .blockMappingStart =>
        if block then
          pass
          pure (.mapping tag (← blockEntries steps))
        else emptyNode anchor tag
      | _ => emptyNode anchor tag
    return anchoredAt anchor content

/-- A node that has nothing but an anchor or a tag. -/
def emptyNode (anchor : Option Nat) (tag : Option (List Char)) : Parse Node :=
  if anchor.isSome ∨ tag.isSome then return .scalar tag true [] else throw .nodeExpected

/-- A node, or an empty one before some tokens. -/
def nodeOrEmpty (ends : List Token) (block indentless : Bool) : Nat → Parse Node
  | 0 => throw .nodeExpected
  | steps + 1 => do
    if (← next?).any fun token => ends.contains token then return .empty
    else node block indentless steps

/-- The items of a block sequence, up to its end. -/
def blockItems : Nat → Parse (List Node)
  | 0 => throw .collectionBroken
  | steps + 1 => do
    if ← accept .blockEntry then
      let item ← nodeOrEmpty [.blockEntry, .blockEnd] true false steps
      return item :: (← blockItems steps)
    else if ← accept .blockEnd then return []
    else throw .collectionBroken

/-- The items of a sequence at the column of the mapping around it. -/
def indentlessItems : Nat → Parse (List Node)
  | 0 => throw .collectionBroken
  | steps + 1 => do
    if ← accept .blockEntry then
      let item ← nodeOrEmpty indentlessEnds true false steps
      return item :: (← indentlessItems steps)
    else return []

/-- The entries of a block mapping, up to its end. -/
def blockEntries : Nat → Parse (List (Node × Node))
  | 0 => throw .collectionBroken
  | steps + 1 => do
    if ← accept .blockEnd then return []
    else if ← accept .key then
      let key ← nodeOrEmpty mappingEnds true true steps
      let value ← entryValue mappingEnds true true steps
      return (key, value) :: (← blockEntries steps)
    else throw .collectionBroken

/-- The value of an entry, empty when no `:` is there. -/
def entryValue (ends : List Token) (block indentless : Bool) : Nat → Parse Node
  | 0 => throw .nodeExpected
  | steps + 1 => do
    if ← accept .value then nodeOrEmpty ends block indentless steps else return .empty

/-- The items of a flow sequence, up to its end. -/
def flowItems (first : Bool) : Nat → Parse (List Node)
  | 0 => throw .collectionBroken
  | steps + 1 => do
    if ← accept .flowSequenceEnd then return []
    else
      if !first then
        if !(← accept .flowEntry) then throw .collectionBroken
      if ← accept .flowSequenceEnd then return []
      else if ← accept .key then
        let entry ← singleEntry steps
        return .mapping none [entry] :: (← flowItems false steps)
      else
        let item ← node false false steps
        return item :: (← flowItems false steps)

/-- The entry of a mapping that stands as an item of a flow sequence. An empty key takes the next
token with it. -/
def singleEntry : Nat → Parse (Node × Node)
  | 0 => throw .nodeExpected
  | steps + 1 => do
    let key ← match ← next? with
      | some .value | some .flowEntry | some .flowSequenceEnd =>
        pass
        pure Node.empty
      | _ => node false false steps
    let value ← entryValue singleValueEnds false false steps
    return (key, value)

/-- The entries of a flow mapping, up to its end. -/
def flowEntries (first : Bool) : Nat → Parse (List (Node × Node))
  | 0 => throw .collectionBroken
  | steps + 1 => do
    if ← accept .flowMappingEnd then return []
    else
      if !first then
        if !(← accept .flowEntry) then throw .collectionBroken
      if ← accept .flowMappingEnd then return []
      else if ← accept .key then
        let key ← nodeOrEmpty flowKeyEnds false false steps
        let value ← entryValue flowValueEnds false false steps
        return (key, value) :: (← flowEntries false steps)
      else
        let key ← node false false steps
        return (key, .empty) :: (← flowEntries false steps)

end

/-- The handles that need no directive. -/
def standardHandles : List (List Char × List Char) :=
  [("!".toList, "!".toList), ("!!".toList, "tag:yaml.org,2002:".toList)]

/-- The directives before a document. Says whether one of them is for the version. -/
def directives : Nat → Bool → Parse Bool
  | 0, versioned => return versioned
  | steps + 1, versioned => do
    match ← next? with
    | some (.version major minor) =>
      if versioned then throw .directiveRepeated
      else if major ≠ 1 ∨ (minor ≠ 1 ∧ minor ≠ 2) then throw .versionUnsupported
      else
        pass
        directives steps true
    | some (.tagHandle handle start) =>
      let state : ParserState ← get
      if state.handles.any fun entry => entry.1 == handle then throw .directiveRepeated
      else
        set { state with rest := state.rest.drop 1, handles := state.handles ++ [(handle, start)] }
        directives steps versioned
    | _ => return versioned

/-- Declare the standard handles that no directive has declared. -/
def addStandardHandles : Parse Unit :=
  modify fun (state : ParserState) =>
    { state with
      handles := state.handles ++ standardHandles.filter fun handle =>
        !(state.handles.any fun entry => entry.1 == handle.1) }

/-- Pass over marks of the end of a document. -/
def passDocumentEnds : Nat → Parse Unit
  | 0 => return
  | steps + 1 => do
    if ← accept .documentEnd then passDocumentEnds steps

/-- What follows the start of a document that has nothing in it. -/
def endsDocument : Token → Bool
  | .version .. | .tagHandle .. | .documentStart | .documentEnd => true
  | _ => false

/-- The first document of a text; a text without any stands for an empty node. -/
def document : Parse Node := do
  let state : ParserState ← get
  let steps := 4 * state.rest.length + 8
  if (← next?).isNone then return .empty
  let versioned ← directives steps false
  let state : ParserState ← get
  addStandardHandles
  let explicit ← accept .documentStart
  if (versioned ∨ !state.handles.isEmpty) ∧ !explicit then throw .documentStartExpected
  if explicit ∧ (← next?).all endsDocument then return .empty
  else node true false steps

/-- Only marks of the end of a document may stand behind the first one. -/
def documentEnd : Parse Unit := do
  let state : ParserState ← get
  passDocumentEnds state.rest.length
  if (← next?).isSome then throw .documentEndExpected

end Parse

/-- The state before the first token. -/
def ParserState.start (list : TokenList) : ParserState where
  rest := list.tokens
  fault := list.fault
  names := []
  handles := []

end TypedClients.Yaml
