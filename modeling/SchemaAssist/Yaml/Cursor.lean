/-
  A cursor over the text of a document.

  The end of the text reads as the NUL character, which no document holds.  Carriage returns have
  been normalised to line feeds before.
-/
import SchemaAssist.Yaml.Problem

namespace SchemaAssist.Yaml

/-- The end of the text. -/
def endOfText : Char := '\x00'

def isBreak (c : Char) : Bool := c == '\n' || c == '\x85' || c == '\u2028' || c == '\u2029'

def isBreakOrEnd (c : Char) : Bool := isBreak c || c == endOfText

def isSpaceOrEnd (c : Char) : Bool := c == ' ' || isBreakOrEnd c

def isGap (c : Char) : Bool := c == '\t' || isSpaceOrEnd c

def isNameChar (c : Char) : Bool := c.isAlphanum || c == '-' || c == '_'

def isAllowed (c : Char) : Bool :=
  let n := c.toNat
  n == 0x09 || n == 0x0A || n == 0x0D || (decide (0x20 ≤ n) && decide (n ≤ 0x7E)) || n == 0x85 ||
    (decide (0xA0 ≤ n) && decide (n ≤ 0xFFFD)) || decide (0x10000 ≤ n)

structure Cursor where
  rest : List Char
  index : Nat
  line : Nat
  column : Nat
  /-- The length of the whole text. -/
  size : Nat
  deriving DecidableEq, Repr

namespace Cursor

def start (text : List Char) : Cursor := ⟨text, 0, 0, 0, text.length⟩

def left (c : Cursor) : Nat := c.size - c.index

def peek (c : Cursor) (k : Nat) : Char := c.rest.getD k endOfText

def head (c : Cursor) : Char := c.rest.headD endOfText

/-- One character forward.  A byte order mark takes no column. -/
def next (c : Cursor) : Cursor :=
  match c.rest with
  | [] => c
  | ch :: rest =>
    if isBreak ch then ⟨rest, c.index + 1, c.line + 1, 0, c.size⟩
    else ⟨rest, c.index + 1, c.line, if ch = '\ufeff' then c.column else c.column + 1, c.size⟩

def skip (c : Cursor) : Nat → Cursor
  | 0 => c
  | n + 1 => c.next.skip n

/-- The longest run of characters that satisfy `p`, and the cursor after it. -/
def span (p : Char → Bool) (c : Cursor) : List Char × Cursor :=
  let run := c.rest.takeWhile p
  (run, c.skip run.length)

/-- The cursor after the characters that satisfy `p`. -/
def skipWhile (p : Char → Bool) (c : Cursor) : Cursor := (c.span p).2

def fail {α : Type} (c : Cursor) (problem : Problem) : Except Error α :=
  .error (.invalid problem c.line c.column)

/-- A line break, if the cursor stands on one: the ASCII breaks read as a line feed. -/
def lineBreak (c : Cursor) : List Char × Cursor :=
  let ch := c.head
  if ch = '\n' ∨ ch = '\x85' then (['\n'], c.next)
  else if ch = '\u2028' ∨ ch = '\u2029' then ([ch], c.next)
  else ([], c)

/-- Whether a document mark (`---` or `...`) stands at the cursor. -/
def atMark (c : Cursor) (mark : Char) : Bool :=
  c.rest.take 3 == [mark, mark, mark] && isGap (c.peek 3)

def atDocumentMark (c : Cursor) : Bool := c.atMark '-' || c.atMark '.'

end Cursor

end SchemaAssist.Yaml
