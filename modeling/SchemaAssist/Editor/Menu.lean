/-
  What an editor offers at its cursor.

  The typed part is what stands before the cursor on its line.  A line that is blank so far counts
  as a fresh new line, unless it is the first; otherwise the last typed character is the trigger,
  and a request by hand has none.
-/
import SchemaAssist.Session

namespace SchemaAssist.Editor

open Completion

structure Choice where
  text : List Char
  replaced : Nat
  label : String
  note : String
  deriving DecidableEq, Repr

/-- The text before a cursor; a negative cursor counts from the end. -/
def textBefore (text : List Char) (cursor : Int) : List Char :=
  if cursor < 0 then text.take ((text.length : Int) + cursor).toNat else text.take cursor.toNat

def lastLine (text : List Char) : List Char := (text.reverse.takeWhile (· != '\n')).reverse

/-- Row and column of a cursor.  A negative one lies on the row above the first, with its column
counted from the start of the last line. -/
def cursorPosition (text : List Char) (cursor : Int) : Position :=
  if cursor < 0 then ⟨-1, cursor - ((text.length : Int) - (lastLine text).length)⟩
  else
    let before := textBefore text cursor
    ⟨before.count '\n', (lastLine before).length⟩

/-- The trigger that a typed part stands for. -/
def triggerOf (typed : List Char) (row : Int) (requested : Bool) : Option String :=
  if (Text.trim typed).isEmpty && decide (0 < row) then some newline
  else if requested then none
  else typed.getLast?.map fun c => String.ofList [c]

/-- The entry for a candidate: a property replaces what was typed, anything else follows it. -/
def Choice.ofSuggestion (typed : List Char) (s : Suggestion) : Choice where
  text := s.insertText.toList
  replaced := if s.isField then (Text.trim typed).length else 0
  label := s.label
  note := s.detail?.getD ""

/-- The menu for a cursor.  A cursor past the end of the text is refused. -/
def choices (s : Session) (text : List Char) (cursor : Int) (requested : Bool) :
    Except Fault (List Choice) × Session :=
  if (text.length : Int) < cursor then (.error (.cursorBeyond cursor text.length), s)
  else
    let typed := lastLine (textBefore text cursor)
    let p := cursorPosition text cursor
    let (items, s) := s.complete (String.ofList text) p (triggerOf typed p.line requested)
    (.ok (items.map (Choice.ofSuggestion typed)), s)

end SchemaAssist.Editor
