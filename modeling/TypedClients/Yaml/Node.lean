/-!
# Nodes of YAML

The tree of a document before its scalars are given values and its aliases are followed. An
anchor is known by a number from the place where its node begins, so an alias may lie inside the
very node that it stands for.

Aliases are followed when values are made, and the number of events that this may take is bounded: a
short text with aliases inside of aliases denotes a large tree.
-/

namespace TypedClients.Yaml

/-- A node. -/
inductive Node where
  /-- A scalar; a plain one is neither quoted nor a block. -/
  | scalar (tag : Option (List Char)) (plain : Bool) (text : List Char)
  | sequence (tag : Option (List Char)) (items : List Node)
  | mapping (tag : Option (List Char)) (entries : List (Node × Node))
  /-- A node that aliases may stand for. -/
  | anchored (anchor : Nat) (node : Node)
  /-- What stands for an anchored node. -/
  | alias (anchor : Nat)
deriving Repr, Inhabited

namespace Node

/-- The node of an empty place. -/
def empty : Node :=
  .scalar none true []

mutual

/-- The number of events of a node: its scalars and aliases, and the starts and ends of its
collections. -/
def eventCount : Node → Nat
  | .scalar .. => 1
  | .sequence _ items => 2 + eventCountItems items
  | .mapping _ entries => 2 + eventCountEntries entries
  | .anchored _ node => node.eventCount
  | .alias _ => 1

/-- The number of events of the items of a sequence. -/
def eventCountItems : List Node → Nat
  | [] => 0
  | item :: items => item.eventCount + eventCountItems items

/-- The number of events of the entries of a mapping. -/
def eventCountEntries : List (Node × Node) → Nat
  | [] => 0
  | (key, value) :: entries =>
    key.eventCount + value.eventCount + eventCountEntries entries

end

mutual

/-- The anchored nodes in a node, each with its number, in the order in which they begin. -/
def anchors : Node → List (Nat × Node)
  | .scalar .. => []
  | .sequence _ items => anchorsOfItems items
  | .mapping _ entries => anchorsOfEntries entries
  | .anchored anchor node => (anchor, node) :: node.anchors
  | .alias _ => []

/-- The anchored nodes in the items of a sequence. -/
def anchorsOfItems : List Node → List (Nat × Node)
  | [] => []
  | item :: items => item.anchors ++ anchorsOfItems items

/-- The anchored nodes in the entries of a mapping. -/
def anchorsOfEntries : List (Node × Node) → List (Nat × Node)
  | [] => []
  | (key, value) :: entries => key.anchors ++ value.anchors ++ anchorsOfEntries entries

end

end Node

end TypedClients.Yaml
