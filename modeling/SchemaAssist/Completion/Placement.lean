/-
  Where a line sits in the hierarchy of a document.

  Structure is read off indentation alone.  The enclosing keys of a line are found by walking
  upward: a line with a key encloses it when it is indented less than everything met so far, and
  the walk ends at the first line that is not indented.  The siblings of a line are the keys of the
  same indentation in the block around it; the block reaches up and down until a line is indented
  less.  A line that is indented below a property that takes no children belongs to that property's
  level instead.
-/
import SchemaAssist.Document.Basic
import SchemaAssist.Schema.Node

namespace SchemaAssist.Completion

open Document Schema

/-- The place of a line in the hierarchy. -/
structure Placement where
  indent : Nat
  /-- The enclosing keys, outermost first; none at the root. -/
  path : Option (List String)
  /-- The keys of the lines beside it, in document order. -/
  usedKeys : List String
  deriving DecidableEq, Repr

namespace Placement

/-- Whether the line sits at the root of the document. -/
def isRoot (p : Placement) : Bool := p.path.isNone

def block? (p : Placement) : Option String := p.path.bind (·.getLast?)

end Placement

/-- The keys met on the way up that are indented less than everything before them, nearest first.
`bound` is the indentation still to undercut. -/
def enclosing : Nat → List Line → List String
  | _, [] => []
  | bound, line :: rest =>
    if blankLine line then enclosing bound rest
    else if indent line = 0 then (key? line).toList
    else match key? line with
      | some k =>
        if indent line < bound then k :: enclosing (indent line) rest else enclosing bound rest
      | none => enclosing bound rest

/-- The enclosing keys of a line at the given indentation, outermost first. -/
def parentPath (doc : Document) (line : Int) (indent : Int) : Option (List String) :=
  if indent ≤ 0 then none
  else match enclosing indent.toNat (doc.above line) with
    | [] => none
    | ks => some ks.reverse

def withinBlock (level : Int) (line : Line) : Bool := blankLine line || decide (level ≤ indent line)

/-- The key of a line, if the line has exactly the given indentation. -/
def siblingKey? (level : Int) (line : Line) : Option String :=
  if (indent line : Int) = level then key? line else none

/-- The keys of the given indentation in the block around a line, the line itself left out. -/
def usedKeys (doc : Document) (line : Int) (level : Int) : List String :=
  ((doc.above line).takeWhile (withinBlock level)).reverse.filterMap (siblingKey? level) ++
    ((doc.below line).takeWhile (withinBlock level)).filterMap (siblingKey? level)

/-- The schema node of a key, in the scope of the line that declares it. -/
def propertyNode? (doc : Document) (line : Int) (key : String) (schema : Option Node) :
    Option Node :=
  lookup? schema ((parentPath doc line (indent (doc.lineAt line))).getD [] ++ [key])

/-- Whether the line above declares a property that takes no children.  A key that the schema does
not know takes none; without a schema nothing is known. -/
def leafAbove (doc : Document) (line : Int) (schema : Option Node) : Bool :=
  if line ≤ 0 ∨ schema.isNone then false
  else match key? (doc.lineAt (line - 1)) with
    | some k => !canHaveChildren (propertyNode? doc (line - 1) k schema)
    | none => false

/-- The indentation that counts for a line: its own, or that of a leaf property right above. -/
def effectiveIndent (doc : Document) (line : Int) (schema : Option Node) : Nat :=
  let own := indent (doc.lineAt line)
  let previous := indent (doc.lineAt (line - 1))
  if 0 < line ∧ previous < own ∧ leafAbove doc line schema then previous else own

/-- The place of a line in the hierarchy. -/
def placement (doc : Document) (line : Int) (schema : Option Node) : Placement :=
  let level := effectiveIndent doc line schema
  ⟨level, parentPath doc line level, usedKeys doc line level⟩

end SchemaAssist.Completion
