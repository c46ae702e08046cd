/-
  What can be wrong with a document.
-/
import SchemaAssist.Fault

namespace SchemaAssist.Yaml

inductive Problem where
  | unprintable
  | keyWithoutColon
  | strayToken
  | entryNotAllowed
  | keyNotAllowed
  | valueNotAllowed
  | strayClosing
  | directive
  | anchorName
  | tag
  | blockHeader
  | unterminated
  | documentMarkInScalar
  | escape
  | version
  | duplicateDirective
  | documentStart
  | undefinedHandle
  | nodeContent
  | blockEnd
  | flowSequence
  | flowMapping
  | undefinedAlias
  | duplicateAnchor
  | secondDocument
  | unknownTag
  | kindMismatch
  | unhashableKey
  | base64
  | mergedKind
  | pairs
  deriving DecidableEq, Repr

def Problem.message : Problem → String
  | unprintable => "special characters are not allowed"
  | keyWithoutColon => "could not find expected ':'"
  | strayToken => "found a character that cannot start any token"
  | entryNotAllowed => "sequence entries are not allowed here"
  | keyNotAllowed => "mapping keys are not allowed here"
  | valueNotAllowed => "mapping values are not allowed here"
  | strayClosing => "found a closing bracket without its opening one"
  | directive => "malformed directive"
  | anchorName => "malformed anchor or alias"
  | tag => "malformed tag"
  | blockHeader => "malformed block scalar header"
  | unterminated => "found unexpected end of stream"
  | documentMarkInScalar => "found unexpected document separator"
  | escape => "found unknown escape"
  | version => "found incompatible document version"
  | duplicateDirective => "found duplicate directive"
  | documentStart => "expected a document start"
  | undefinedHandle => "found undefined tag handle"
  | nodeContent => "expected the node content"
  | blockEnd => "expected the end of the block"
  | flowSequence => "expected ',' or ']'"
  | flowMapping => "expected ',' or a closing brace"
  | undefinedAlias => "found undefined alias"
  | duplicateAnchor => "found duplicate anchor"
  | secondDocument => "expected a single document"
  | unknownTag => "could not determine a constructor for the tag"
  | kindMismatch => "the tag does not fit the node"
  | unhashableKey => "found unhashable key"
  | base64 => "failed to decode base64 data"
  | mergedKind => "expected a mapping or list of mappings for merging"
  | pairs => "expected a sequence of single pairs"

/-- Why a document could not be read. -/
inductive Error where
  /-- The document violates the format; lines and columns count from zero. -/
  | invalid (problem : Problem) (line column : Nat)
  /-- The document is not UTF-8. -/
  | undecodable (error : Text.Utf8Error)
  /-- Something else, such as a scalar that does not denote what its tag says. -/
  | fault (fault : Fault)
  deriving DecidableEq, Repr

end SchemaAssist.Yaml
