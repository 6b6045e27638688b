/-!
# Faults of a YAML text

A YAML text can fail as a stream of characters, as a sequence of tokens, as a tree of nodes, or
in the values of its scalars. A fault says which rule was broken.

The rules are kept apart by what was expected and not by where, as the message of a fault has no
place in it.
-/

namespace TypedClients.Yaml

/-- Which rule a text breaks. -/
inductive Fault where
  /-- A character that no text may contain. -/
  | character
  /-- A key with no `:` behind it. -/
  | keyUnfinished
  /-- A `-` where no sequence entry can begin. -/
  | entryMisplaced
  /-- A key where none can begin. -/
  | keyMisplaced
  /-- A `:` where no value can begin. -/
  | valueMisplaced
  /-- A character that no token begins with. -/
  | tokenUnknown
  /-- A directive that is not formed as one. -/
  | directiveMalformed
  /-- A directive given twice. -/
  | directiveRepeated
  /-- A version that is not supported. -/
  | versionUnsupported
  /-- An anchor or alias without a name. -/
  | anchorMalformed
  /-- A tag that is not formed as one. -/
  | tagMalformed
  /-- A tag with an undeclared handle. -/
  | tagHandleUnknown
  /-- The mark of a new document inside a quoted scalar. -/
  | documentMarkInScalar
  /-- The end of the text inside a quoted scalar. -/
  | scalarUnterminated
  /-- An escape that is not known. -/
  | escapeUnknown
  /-- A colon inside a plain scalar of a flow collection, right before an indicator. -/
  | colonInPlainScalar
  /-- A tab where indentation is measured. -/
  | tabInIndentation
  /-- A block scalar whose first line is not formed as one. -/
  | blockHeaderMalformed
  /-- No node where there has to be one. -/
  | nodeExpected
  /-- A collection that goes on with something that does not belong to it. -/
  | collectionBroken
  /-- Something behind the end of the document. -/
  | documentEndExpected
  /-- Directives without a document. -/
  | documentStartExpected
  /-- An alias without an anchor. -/
  | aliasUnknown
  /-- A node with a tag of the application, for which there is no meaning. -/
  | tagMeaningless
  /-- A scalar that is not of the type that its tag names. -/
  | tagContradicted
  /-- An integer beyond 64 bits. -/
  | integerTooLarge
  /-- Collections nested too deep. -/
  | tooDeep
  /-- Aliases that expand too far. -/
  | tooManyAliases
deriving Repr, DecidableEq

/-- The wording of a fault. -/
def Fault.message : Fault → String
  | .character => "control characters are not allowed"
  | .keyUnfinished => "could not find expected ':'"
  | .entryMisplaced => "block sequence entries are not allowed in this context"
  | .keyMisplaced => "mapping keys are not allowed in this context"
  | .valueMisplaced => "mapping values are not allowed in this context"
  | .tokenUnknown => "found character that cannot start any token"
  | .directiveMalformed => "found malformed directive"
  | .directiveRepeated => "found duplicate directive"
  | .versionUnsupported => "found incompatible YAML document"
  | .anchorMalformed => "did not find expected alphabetic or numeric character"
  | .tagMalformed => "did not find expected tag URI"
  | .tagHandleUnknown => "found undefined tag handle"
  | .documentMarkInScalar => "found unexpected document indicator"
  | .scalarUnterminated => "found unexpected end of stream"
  | .escapeUnknown => "found unknown escape character"
  | .colonInPlainScalar => "found unexpected ':'"
  | .tabInIndentation => "found a tab character that violates indentation"
  | .blockHeaderMalformed => "did not find expected comment or line break"
  | .nodeExpected => "did not find expected node content"
  | .collectionBroken => "did not find expected end of collection"
  | .documentEndExpected => "found more than one document"
  | .documentStartExpected => "did not find expected <document start>"
  | .aliasUnknown => "unknown anchor"
  | .tagMeaningless => "found a tag that has no meaning here"
  | .tagContradicted => "found a value that contradicts its tag"
  | .integerTooLarge => "integer does not fit"
  | .tooDeep => "recursion limit exceeded"
  | .tooManyAliases => "repetition limit exceeded"

end TypedClients.Yaml
