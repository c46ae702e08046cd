/-
  The tokens of a document.

  The end of the list of tokens is the end of the stream.  A text that cannot be cut to its end has
  a last token that says why; it counts only if a reader gets as far.
-/
import SchemaAssist.Yaml.Problem

namespace SchemaAssist.Yaml

inductive Token where
  /-- A version directive with its major number. -/
  | version (major : Nat)
  /-- A tag directive: a handle and what it stands for. -/
  | tagHandle (handle : String) (expansion : String)
  | reserved
  | documentStart
  | documentEnd
  | blockSequenceStart
  | blockMappingStart
  | blockEnd
  | flowSequenceStart
  | flowSequenceEnd
  | flowMappingStart
  | flowMappingEnd
  | blockEntry
  | flowEntry
  | key
  | value
  | alias (name : String)
  | anchor (name : String)
  | tag (handle : Option String) (suffix : String)
  | scalar (text : String)
  /-- The text cannot be cut any further. -/
  | broken (error : Error)
  deriving DecidableEq, Repr

namespace Token

def isDirective : Token → Bool
  | version _ | tagHandle .. | reserved => true
  | _ => false

end Token

end SchemaAssist.Yaml
