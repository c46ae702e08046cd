/-
  The document under the cursor.

  A document is its list of lines.  Reading outside of it gives an empty line, so that a rule may
  look at the neighbours of a line without asking whether they exist.
-/
import SchemaAssist.Document.Line

namespace SchemaAssist

/-- A place in a document, counted from zero.  It may lie outside. -/
structure Position where
  line : Int
  column : Int
  deriving DecidableEq, Repr, Inhabited

structure Document where
  lines : List Document.Line
  deriving DecidableEq, Repr

namespace Document

/-- Cuts a text at each line feed; a carriage return right before it belongs to the cut. -/
def splitLines : List Char → List Line
  | [] => [[]]
  | '\r' :: '\n' :: rest => [] :: splitLines rest
  | c :: rest =>
    if c = '\n' then [] :: splitLines rest
    else match splitLines rest with
      | line :: lines => (c :: line) :: lines
      | [] => [[c]]

def ofText (text : String) : Document := ⟨splitLines text.toList⟩

/-- The line with the given number, empty outside the document. -/
def lineAt (doc : Document) (n : Int) : Line :=
  if n < 0 then [] else doc.lines.getD n.toNat []

def clamp (doc : Document) (p : Position) : Position :=
  let line := min (max p.line 0) ((doc.lines.length : Int) - 1)
  ⟨line, min (max p.column 0) (doc.lineAt line).length⟩

def textBefore (doc : Document) (p : Position) : List Char :=
  (doc.lineAt p.line).take p.column.toNat

/-- The lines above line `n`, nearest first. -/
def above (doc : Document) (n : Int) : List Line := (doc.lines.take n.toNat).reverse

/-- The lines below line `n`, nearest first. -/
def below (doc : Document) (n : Int) : List Line := doc.lines.drop (n + 1).toNat

end Document

end SchemaAssist
