/-
  One line of an architecture document.

  A line is read without a parser, because a document that is being typed seldom parses.  Three
  things matter about it: how far it is indented, which key it declares (`Name: x`), and whether it
  opens a sequence element that has an identifier (`- Api:`).
-/
import SchemaAssist.Text.Blank

namespace SchemaAssist.Document

open Text

/-- A line, without its line ending. -/
abbrev Line := List Char

def indent (line : Line) : Nat := (line.takeWhile isBlank).length

def blankLine (line : Line) : Bool := line.all isBlank

/-- Characters that can stand in a key: neither a blank nor a colon. -/
def isKeyChar (c : Char) : Bool := !isBlank c && c != ':'

/-- Whether a text is a colon after optional blanks, and then anything. -/
def startsColon (s : List Char) : Bool :=
  match s.dropWhile isBlank with
  | c :: _ => c == ':'
  | [] => false

/-- A key at the very front of a text: key characters, blanks, a colon. -/
def leadingKey? (s : List Char) : Option String :=
  let key := s.takeWhile isKeyChar
  if !key.isEmpty && startsColon (s.dropWhile isKeyChar) then some (String.ofList key) else none

def key? (line : Line) : Option String := leadingKey? (trimStart line)

/-- The identifier of the sequence element that a line opens, if any. -/
def element? (line : Line) : Option String :=
  match trimStart line with
  | '-' :: rest => leadingKey? (trimStart rest)
  | _ => none

/-- A text without the sequence marker it may start with. -/
def stripMarker (s : List Char) : List Char :=
  match s with
  | '-' :: rest => trimStart rest
  | _ => s

/-- What follows `front`, if the text starts with it. -/
def dropFront? : List Char → List Char → Option (List Char)
  | [], s => some s
  | _ :: _, [] => none
  | a :: front, c :: s => if a = c then dropFront? front s else none

/-- Whether a text is the name, blanks and a colon, and then anything. -/
def startsWithKey (name : List Char) (s : List Char) : Bool :=
  match dropFront? name s with
  | some rest => startsColon rest
  | none => false

/-- Whether a line declares the given name at any indentation.  The name may itself start with
blanks, so every cut through the indentation counts. -/
def declares (name : List Char) : Line → Bool
  | [] => startsWithKey name []
  | c :: rest => startsWithKey name (c :: rest) || (isBlank c && declares name rest)

end SchemaAssist.Document
