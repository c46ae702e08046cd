/-
  Completion candidates.

  A candidate is a field (a property of the schema, inserted with its colon), a value (inserted
  after a space) or the marker that opens a sequence element.
-/
import SchemaAssist.Schema.Node

namespace SchemaAssist.Completion

open Schema

inductive Suggestion where
  /-- A property; `followUp` asks the host to offer its values next. -/
  | field (name detail documentation : String) (followUp : Bool)
  | value (text : String)
  | marker
  deriving DecidableEq, Repr

namespace Suggestion

def markerText : String := "- "

def label : Suggestion → String
  | field name .. => name
  | value text => text
  | marker => markerText

def insertText : Suggestion → String
  | field name .. => name ++ ":"
  | value text => " " ++ text
  | marker => markerText

/-- The number of the kind in the editor protocol. -/
def kindNumber : Suggestion → Nat
  | field .. => 5
  | value _ => 20
  | marker => 24

def kindName : Suggestion → String
  | field .. => "field"
  | value _ => "enum-member"
  | marker => "operator"

def detail? : Suggestion → Option String
  | field _ detail .. => some detail
  | _ => none

def documentation? : Suggestion → Option String
  | field _ _ documentation _ => some documentation
  | _ => none

def followUp : Suggestion → Bool
  | field _ _ _ followUp => followUp
  | _ => false

def isField : Suggestion → Bool
  | field .. => true
  | _ => false

def ofNode (n : Node) : Suggestion :=
  field n.name n.info.typeName n.info.description n.isChoice

end Suggestion

end SchemaAssist.Completion
