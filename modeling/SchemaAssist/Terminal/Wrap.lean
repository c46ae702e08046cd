/-
  Fitting text into a number of terminal cells.

  A line breaks before a word that does not fit into what is left of it.  A word that fits no line
  is folded over several, or stands alone and is cut with an ellipsis.
-/
import SchemaAssist.Text.Blank
import SchemaAssist.Text.Split
import SchemaAssist.Text.Width

namespace SchemaAssist.Terminal

open Text

inductive Overflow where
  | fold
  | ellipsis
  deriving DecidableEq, Repr

inductive Justify where
  /-- Not at all. -/
  | natural
  /-- On the right. -/
  | left
  /-- On both sides, the odd cell on the right. -/
  | center
  deriving DecidableEq, Repr

def spaces (n : Nat) : List Char := List.replicate n ' '

def tabSize : Nat := 8

/-- Replaces tabs by blanks up to the next tab stop; `column` is where the text starts. -/
def expandTabs (column : Nat) : List Char → List Char
  | [] => []
  | c :: rest =>
    if c = '\t' then
      let stop := (column / tabSize + 1) * tabSize
      spaces (stop - column) ++ expandTabs stop rest
    else c :: expandTabs (column + cellWidth c) rest

/-! ### Line breaks -/

/-- Cuts a text into words, each with the blanks after it; blanks at the front belong to the first
word. -/
def words (s : List Char) : List (List Char) :=
  let lead := s.takeWhile isBlank
  let rest := s.dropWhile isBlank
  let body := rest.takeWhile (!isBlank ·)
  let tail := rest.dropWhile (!isBlank ·)
  let gap := tail.takeWhile isBlank
  let after := tail.dropWhile isBlank
  if _h : body = [] then [] else (lead ++ body ++ gap) :: words after
termination_by s.length
decreasing_by
  have whole : rest = body ++ tail := (List.takeWhile_append_dropWhile).symm
  have lengths := congrArg List.length whole
  have positive : 0 < body.length := List.length_pos_iff.2 _h
  have drop₁ := (List.dropWhile_suffix (l := s) isBlank).length_le
  have drop₂ := (List.dropWhile_suffix (l := tail) isBlank).length_le
  simp only [List.length_append] at lengths
  change rest.length ≤ s.length at drop₁
  change after.length ≤ tail.length at drop₂
  change after.length < s.length
  omega

def onFirst (c : Char) : List (List Char) → List (List Char)
  | row :: rows => (c :: row) :: rows
  | [] => [[c]]

/-- Cuts a word into rows of at most `width` cells; `used` cells of the first are taken. -/
def chop (width used : Nat) : List Char → List (List Char)
  | [] => [[]]
  | c :: rest =>
    let size := cellWidth c
    if width < used + size then [] :: onFirst c (chop width size rest)
    else onFirst c (chop width (used + size) rest)

/-- The places where rows start, the first of them at `start`. -/
def rowStarts (start : Nat) : List (List Char) → List Nat
  | [] => []
  | row :: rows => start :: rowStarts (start + row.length) rows

/-- Where lines break, for words that start at `start` on a line of which `used` cells are taken. -/
def breaksFrom (width : Nat) (overflow : Overflow) (start used : Nat) : List (List Char) → List Nat
  | [] => []
  | word :: rest =>
    let size := cells (trimEnd word)
    let next := start + word.length
    if size + used ≤ width then breaksFrom width overflow next (used + cells word) rest
    else if width < size then
      match overflow with
      | .fold =>
        let rows := chop width 0 word
        rowStarts start rows ++
          breaksFrom width overflow next (cells (rows.getLast?.getD [])) rest
      | .ellipsis => start :: breaksFrom width overflow next (cells word) rest
    else if used = 0 ∨ start = 0 then breaksFrom width overflow next used rest
    else start :: breaksFrom width overflow next (cells word) rest

def breaks (width : Nat) (overflow : Overflow) (s : List Char) : List Nat :=
  (breaksFrom width overflow 0 0 (words s)).filter (· != 0)

/-- Cuts a text, which starts at `start`, at the given places. -/
def cutAt (start : Nat) : List Nat → List Char → List (List Char)
  | [], s => [s]
  | place :: places, s => s.take (place - start) :: cutAt place places (s.drop (place - start))

/-! ### Filling -/

/-- The longest start of a text that fits. -/
def takeCells (room : Nat) : List Char → List Char
  | [] => []
  | c :: rest => if cellWidth c ≤ room then c :: takeCells (room - cellWidth c) rest else []

/-- A text cut or filled up to a number of cells. -/
def setCells (total : Nat) (s : List Char) : List Char :=
  let fitting := takeCells total s
  fitting ++ spaces (total - cells fitting)

def truncate (width : Nat) (overflow : Overflow) (s : List Char) : List Char :=
  if cells s ≤ width then s
  else match overflow with
    | .fold => setCells width s
    | .ellipsis => setCells (width - 1) s ++ ['…']

/-- A line without the blanks at its end that reach beyond the width. -/
def dropOverhang (width : Nat) (s : List Char) : List Char :=
  s.take (s.length - min (s.length - (trimEnd s).length) (s.length - width))

def justifyLine (width : Nat) (justify : Justify) (overflow : Overflow) (s : List Char) :
    List Char :=
  match justify with
  | .natural => s
  | .left =>
    let cut := truncate width overflow s
    cut ++ spaces (width - cells cut)
  | .center =>
    let cut := truncate width overflow (trimEnd s)
    let left := (width - cells cut) / 2
    spaces left ++ cut ++ spaces (width - cells cut - left)

def wrap (width : Nat) (justify : Justify) (overflow : Overflow) (s : List Char) :
    List (List Char) :=
  (splitAt '\n' s).flatMap fun row =>
    let row := expandTabs 0 row
    (cutAt 0 (breaks width overflow row) row).map fun line =>
      truncate width overflow (justifyLine width justify overflow (dropOverhang width line))

def terminalWidth : Nat := 1000

def shown (s : List Char) : List Char :=
  (wrap terminalWidth .natural .fold s).flatMap (· ++ ['\n'])

end SchemaAssist.Terminal
