/-
  Which edits ask for completions, and where.

  A request comes by hand, after a new line, or after one of the trigger characters.  After a new
  line the cursor moves to the level of a leaf property above, so that siblings are offered and not
  children of something that takes none.
-/
import SchemaAssist.Completion.Placement
import SchemaAssist.Log.Record

namespace SchemaAssist.Completion

open Document Schema

def newline : String := "\n"

def defaultTriggers : List String :=
  ("abcdefghijklmnopqrstuvwxyzABCDEFGHIJKLMNOPQRSTUVWXYZ: ".toList).map fun c => String.ofList [c]

/-- Whether a trigger leads to completions; none is a request by hand. -/
def accepts (triggers : List String) : Option String → Bool
  | none => true
  | some t => t == newline || triggers.contains t

def newlinePosition (doc : Document) (p : Position) (schema : Option Node) : Position :=
  if leafAbove doc p.line schema then ⟨p.line, indent (doc.lineAt (p.line - 1))⟩ else p

def newlineRecords (doc : Document) (p : Position) (schema : Option Node) : List Log.Record :=
  if p.line ≤ 0 then []
  else match key? (doc.lineAt (p.line - 1)) with
    | none => [Log.dispatch "newline" "previous line declares no property"]
    | some k =>
      if leafAbove doc p.line schema then
        [Log.dispatch "newline"
          ("leaf " ++ Text.quoteString k ++ s!", column -> {indent (doc.lineAt (p.line - 1))}")]
      else []

def targetPosition (doc : Document) (p : Position) (trigger : Option String)
    (schema : Option Node) :
    Position :=
  if trigger = some newline then newlinePosition doc p schema else p

def targetRecords (doc : Document) (p : Position) (trigger : Option String) (schema : Option Node) :
    List Log.Record :=
  if trigger = some newline then newlineRecords doc p schema else []

end SchemaAssist.Completion
