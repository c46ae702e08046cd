/-
  What a document declares elsewhere: the identifiers of its nodes, and its root properties.
-/
import SchemaAssist.Document.Basic

namespace SchemaAssist.Completion

open Document

def nodesKey : String := "Nodes"

def opensNodes (line : Line) : Bool := startsWithKey nodesKey.toList line

def startsWithLetter (line : Line) : Bool := line.head?.any (·.isAlpha)

/-- Identifiers in the remaining lines; `inside` says whether the block of nodes is open. -/
def identifiersFrom (inside : Bool) : List Line → List String
  | [] => []
  | line :: rest =>
    if opensNodes line then identifiersFrom true rest
    else if inside && !startsWithLetter line then
      (element? line).toList ++ identifiersFrom true rest
    else identifiersFrom false rest

/-- The identifiers of the elements of the block of nodes, in document order. -/
def nodeIdentifiers (doc : Document) : List String := identifiersFrom false doc.lines

/-- Whether a name is declared on some line, at any indentation. -/
def declaredAnywhere (doc : Document) (name : String) : Bool :=
  doc.lines.any (declares name.toList)

def declaredNames (doc : Document) (names : List String) : List String :=
  names.filter (declaredAnywhere doc)

end SchemaAssist.Completion
