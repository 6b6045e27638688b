import TypedClients.Yaml.Node.Parser
import TypedClients.Yaml.Scalar

/-!
# Reading YAML

A text is read in three stages: its tokens, the tree that they form, and the document that the
tree denotes once its scalars have values and its aliases are followed. Collections may be nested
128 deep, counted through aliases, which also stops an alias inside its own node; and the aliases
followed may be at most a hundred for each event of the tree.
-/

namespace TypedClients.Yaml

/-- The number of collections that may be open at once. -/
def maxDepth : Nat := 128

/-- The number of aliases that may be followed for each event of a tree. -/
def maxAliasesPerEvent : Nat := 100

/-- What is known about the whole tree. -/
structure Anchors where
  /-- The anchored nodes, in the order in which they begin. -/
  nodes : List (Nat × Node)
  /-- The number of aliases that may be followed. -/
  limit : Nat

/-- The anchors of a tree. -/
def Anchors.of (root : Node) : Anchors where
  nodes := root.anchors
  limit := root.eventCount * maxAliasesPerEvent

/-- The node that an alias stands for: of those with its number, the one that begins last. -/
def Anchors.find? (anchors : Anchors) (anchor : Nat) : Option Node :=
  (anchors.nodes.reverse.find? fun entry => entry.1 == anchor).map Prod.snd

/-- A step of giving values, which counts the aliases followed. -/
abbrev Valuation := StateT Nat (Except Fault)

/-- A node without its anchor, and in place of an alias the node that it stands for. -/
def followAlias (anchors : Anchors) : Node → Valuation Node
  | .anchored _ node => return node
  | .alias anchor => do
    let followed : Nat ← get
    if followed + 1 > anchors.limit then throw .tooManyAliases
    set (followed + 1)
    match anchors.find? anchor with
    | some node => return node
    | none => throw .aliasUnknown
  | node => return node

/-- Refuse a collection with a tag of the application. -/
def checkTag (tag : Option (List Char)) : Valuation Unit :=
  match tag with
  | some ('!' :: _) => throw .tagMeaningless
  | _ => return

/-- A value as the key of an entry. A number written with a minus sign is no position of a field,
not even when it is zero. -/
def keyOf (node : Node) (value : Document) : Document :=
  match node, value with
  | .scalar _ _ ('-' :: _), .int _ => .number
  | _, value => value

/-- The value of a node, inside of which collections may still be open to some depth. The node is
returned too, without its anchor or alias. -/
def valueOf (anchors : Anchors) : Nat → Node → Valuation (Node × Document)
  | depth, node => do
    let node ← followAlias anchors node
    match node, depth with
    | .scalar tag plain text, _ => return (node, ← scalarValue tag plain text)
    | .sequence tag _, 0 | .mapping tag _, 0 =>
      checkTag tag
      throw .tooDeep
    | .sequence tag items, depth + 1 =>
      checkTag tag
      let values ← items.mapM (valueOf anchors depth)
      return (node, .list (values.map Prod.snd))
    | .mapping tag entries, depth + 1 =>
      checkTag tag
      let values ← entries.mapM fun entry => do
        let (key, keyValue) ← valueOf anchors depth entry.1
        let (_, value) ← valueOf anchors depth entry.2
        return (keyOf key keyValue, value)
      return (node, .mapping values)
    | .anchored .., _ | .alias _, _ => throw .aliasUnknown

/-- The document that a tree denotes. -/
def Node.toDocument (root : Node) : Except Fault Document :=
  ((valueOf (Anchors.of root) maxDepth root).run 0).map fun result => result.1.2

/-- The first document of a text, and the state behind it. -/
def readFirst (text : String) : Except Fault (Document × ParserState) := do
  let (root, state) ← Parse.document.run (ParserState.start (tokens text))
  return (← root.toDocument, state)

/-- Nothing may stand behind the first document of a text. -/
def checkEnd (state : ParserState) : Except Fault Unit :=
  (Parse.documentEnd.run state).map Prod.fst

end TypedClients.Yaml
