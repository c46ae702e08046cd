/-
  Tables.

  A table has a title centred over it, a header between heavy lines and rows between light ones.  A
  column is as wide as its widest cell; a table that is wider than the terminal takes the excess
  from its widest columns.
-/
import SchemaAssist.Terminal.Markup
import SchemaAssist.Terminal.Wrap

namespace SchemaAssist.Terminal

open Text

/-- A table; title, header and cells are text with tags. -/
structure Table where
  title : String
  header : List String
  rows : List (List String)
  deriving DecidableEq, Repr

/-! ### Column widths -/

def endsLine (c : Char) : Bool :=
  [0x0A, 0x0B, 0x0C, 0x0D, 0x1C, 0x1D, 0x1E, 0x85, 0x2028, 0x2029].contains c.toNat

def widestLine (used : Nat) : List Char → Nat
  | [] => used
  | c :: rest =>
    if endsLine c then max used (widestLine 0 rest) else widestLine (used + cellWidth c) rest

/-- A quotient rounded to the nearest number, a half to the even one. -/
def roundedDiv (a b : Nat) : Nat :=
  let q := a / b
  if 2 * (a % b) < b then q
  else if b < 2 * (a % b) then q + 1
  else q + q % 2

/-- Takes an excess in even shares from the columns of a given width, at most `limit` from each;
`left` columns of that width remain. -/
def takeShares (width limit : Nat) : Nat → Nat → List Nat → List Nat
  | _, _, [] => []
  | excess, left, w :: rest =>
    if w = width then
      let share := min limit (roundedDiv excess left)
      (w - share) :: takeShares width limit (excess - share) (left - 1) rest
    else w :: takeShares width limit excess left rest

def totalWidth (ws : List Nat) : Nat := ws.foldl (· + ·) 0

/-- Narrows the widest columns until all fit into a width; `rounds` bounds the repetitions. -/
def narrow (room : Nat) : Nat → List Nat → List Nat
  | 0, ws => ws
  | rounds + 1, ws =>
    let excess := totalWidth ws - room
    if excess = 0 then ws
    else
      let widest := ws.foldl max 0
      let second := (ws.filter (· != widest)).foldl max 0
      let limit := min excess (widest - second)
      narrow room rounds (takeShares widest limit excess (ws.count widest) ws)

/-- Widths that fit into a room. -/
def fitWidths (room : Nat) (ws : List Nat) : List Nat := narrow room (totalWidth ws) ws

/-! ### Drawing -/

def rule (first line joint last : Char) (widths : List Nat) : List Char :=
  first :: (joint :: []).intercalate (widths.map fun w => List.replicate w line) ++ [last]

def cellLines (width : Nat) (text : List Char) : List (List Char) :=
  (wrap (width - 2) .left .ellipsis text).map fun line => ' ' :: line ++ [' ']

def rowLines (bar : Char) (widths : List Nat) (cells : List (List Char)) : List (List Char) :=
  let columns := widths.zipWith cellLines cells
  let height := columns.foldl (fun h c => max h c.length) 0
  (List.range height).map fun k =>
    bar :: [bar].intercalate
      ((widths.zip columns).map fun (w, lines) => (lines[k]?).getD (spaces w)) ++ [bar]

def column (k : Nat) (rows : List (List String)) : List String := rows.map fun r => r.getD k ""

def plainColumns (t : Table) : Except Fault (List (List (List Char))) :=
  (List.range t.header.length).mapM fun k =>
    (column k (t.header :: t.rows)).mapM fun cell => renderMarkup cell.toList

def Table.render (t : Table) : Except Fault (List Char) := do
  let columns ← plainColumns t
  let title ← renderMarkup t.title.toList
  let borders := columns.length + 1
  let widths := fitWidths (terminalWidth - borders) (columns.map fun cs =>
    (cs.map (widestLine 0)).foldl max 0 + 2)
  let row (k : Nat) : List (List Char) := columns.map (·.getD k [])
  let lines :=
    wrap (totalWidth widths + borders) .center .fold title ++
    [rule '┏' '━' '┳' '┓' widths] ++ rowLines '┃' widths (row 0) ++
    [rule '┡' '━' '╇' '┩' widths] ++
    (List.range t.rows.length).flatMap (fun k => rowLines '│' widths (row (k + 1))) ++
    [rule '└' '─' '┴' '┘' widths]
  pure (lines.flatMap (· ++ ['\n']))

end SchemaAssist.Terminal
