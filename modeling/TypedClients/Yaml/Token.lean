/-!
# Tokens of YAML

The tokens of a text. Block collections have no marks of their own in the text; their starts and
ends come from indentation, and the key of an entry is recognised only when its `:` is met.

Flow collections have marks of their own and do not nest by indentation. A token has no place in the
text: what depends on places has been decided when it is made.
-/

namespace TypedClients.Yaml

/-- A token. -/
inductive Token where
  /-- The directive `%YAML major.minor`. -/
  | version (major minor : Nat)
  /-- The directive `%TAG handle start`. -/
  | tagHandle (handle start : List Char)
  | documentStart
  | documentEnd
  | blockSequenceStart
  | blockMappingStart
  | blockEnd
  | flowSequenceStart
  | flowSequenceEnd
  | flowMappingStart
  | flowMappingEnd
  | blockEntry
  | flowEntry
  | key
  | value
  | alias (name : List Char)
  | anchor (name : List Char)
  | tag (handle suffix : List Char)
  /-- A scalar; a plain one is neither quoted nor a block. -/
  | scalar (plain : Bool) (text : List Char)
deriving Repr, DecidableEq

end TypedClients.Yaml
