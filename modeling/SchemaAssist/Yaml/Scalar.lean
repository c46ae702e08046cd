/-
  The text of scalars: plain, quoted and block.

  A line break inside a plain or quoted scalar folds into a space, and further ones are kept.  In a
  block scalar the header decides about folding and about the breaks at the end.
-/
import SchemaAssist.Yaml.Cursor

namespace SchemaAssist.Yaml

/-! ### Plain scalars -/

/-- Characters that end a plain scalar inside brackets, and a value mark before them. -/
def isFlowMark (c : Char) : Bool := c == ',' || c == '[' || c == ']' || c == '\x7b' || c == '\x7d'

/-- How many characters at the front belong to one stretch of a plain scalar. -/
def plainLength (flow : Bool) : List Char → Nat
  | [] => 0
  | c :: rest =>
    let ahead := rest.headD endOfText
    if isGap c then 0
    else if c = ':' ∧ (isGap ahead ∨ (flow ∧ isFlowMark ahead)) then 0
    else if flow ∧ (isFlowMark c ∨ c = '?') then 0
    else plainLength flow rest + 1

/-- Spaces and breaks between two lines of a plain scalar: the breaks met, and where they end.
`none` means that a document mark ends the scalar. -/
def plainBreaks : Nat → Cursor → Option (List Char) × Cursor
  | 0, c => (some [], c)
  | fuel + 1, c =>
    if c.head = ' ' then plainBreaks fuel c.next
    else if isBreak c.head then
      let (br, after) := c.lineBreak
      if after.atDocumentMark then (none, after)
      else
        let (more, final) := plainBreaks fuel after
        (more.map (br ++ ·), final)
    else (some [], c)

/-- The text that stands for the gap after a stretch of a plain scalar, where it ends, and whether a
line was broken.  No text means that the scalar ends here. -/
def plainGap (c : Cursor) : List Char × Cursor × Bool :=
  let (blanks, after) := c.span (· == ' ')
  if isBreak after.head then
    let (br, next) := after.lineBreak
    if next.atDocumentMark then ([], next, true)
    else match plainBreaks (next.left + 1) next with
      | (none, final) => ([], final, true)
      | (some breaks, final) =>
        let lead := if br ≠ ['\n'] then br else if breaks.isEmpty then [' '] else []
        (lead ++ breaks, final, true)
  else (blanks, after, false)

/-- The stretches of a plain scalar.  `gap` is the text owed before the next stretch; `broken`
says whether the last gap broke a line. -/
def plainStretches (flow : Bool) (indent : Int) :
    Nat → Cursor → List Char → Bool → List Char × Cursor × Bool
  | 0, c, _, broken => ([], c, broken)
  | fuel + 1, c, gap, broken =>
    if c.head = '#' then ([], c, broken)
    else
      let n := plainLength flow c.rest
      if n = 0 then ([], c, broken)
      else
        let text := gap ++ c.rest.take n
        let (next, after, broke) := plainGap (c.skip n)
        if next.isEmpty ∨ after.head = '#' ∨ (¬ flow ∧ (after.column : Int) < indent) then
          (text, after, broke)
        else
          let (more, final, last) := plainStretches flow indent fuel after next broke
          (text ++ more, final, last)

/-- A plain scalar: its text, where it ends, and whether it ends on a later line. -/
def plainScalar (flow : Bool) (indent : Int) (c : Cursor) : List Char × Cursor × Bool :=
  plainStretches flow indent (c.left + 1) c [] false

/-! ### Quoted scalars -/

def hexDigit? (c : Char) : Option Nat :=
  if '0' ≤ c ∧ c ≤ '9' then some (c.toNat - '0'.toNat)
  else if 'a' ≤ c ∧ c ≤ 'f' then some (c.toNat - 'a'.toNat + 10)
  else if 'A' ≤ c ∧ c ≤ 'F' then some (c.toNat - 'A'.toNat + 10)
  else none

def hexNumber? (s : List Char) : Option Nat :=
  s.foldl (fun acc c => acc.bind fun n => (hexDigit? c).map (n * 16 + ·)) (some 0)

def escapeChar? : Char → Option Char
  | '0' => some '\x00'
  | 'a' => some '\x07'
  | 'b' => some '\x08'
  | 't' => some '\t'
  | '\t' => some '\t'
  | 'n' => some '\n'
  | 'v' => some '\x0b'
  | 'f' => some '\x0c'
  | 'r' => some '\r'
  | 'e' => some '\x1b'
  | ' ' => some ' '
  | '"' => some '"'
  | '\\' => some '\\'
  | '/' => some '/'
  | 'N' => some '\x85'
  | '_' => some '\xa0'
  | 'L' => some '\u2028'
  | 'P' => some '\u2029'
  | _ => none

def escapeDigits? : Char → Option Nat
  | 'x' => some 2
  | 'u' => some 4
  | 'U' => some 8
  | _ => none

/-- The character with the given number; half a surrogate pair is no character. -/
def codeChar (n : Nat) : Except Error Char :=
  if n < 0x110000 then .ok (if 0xD800 ≤ n ∧ n < 0xE000 then '\ufffd' else Char.ofNat n)
  else if n < 0x80000000 then .error (.fault .codePoint)
  else .error (.fault .codePointSize)

/-- The breaks after a line break inside quotes, past the blanks that start each line. -/
def quotedBreaks : Nat → Cursor → Except Error (List Char × Cursor)
  | 0, c => .ok ([], c)
  | fuel + 1, c =>
    if c.atDocumentMark then c.fail .documentMarkInScalar
    else
      let after := c.skipWhile fun ch => ch == ' ' || ch == '\t'
      if isBreak after.head then do
        let (br, next) := after.lineBreak
        let (more, final) ← quotedBreaks fuel next
        pure (br ++ more, final)
      else .ok ([], after)

def quotedGap (c : Cursor) : Except Error (List Char × Cursor) :=
  let (blanks, after) := c.span fun ch => ch == ' ' || ch == '\t'
  if after.rest.isEmpty then after.fail .unterminated
  else if isBreak after.head then do
    let (br, next) := after.lineBreak
    let (breaks, final) ← quotedBreaks (next.left + 1) next
    let lead := if br ≠ ['\n'] then br else if breaks.isEmpty then [' '] else []
    pure (lead ++ breaks, final)
  else .ok (blanks, after)

/-- An escape sequence, from after its backslash. -/
def escape (c : Cursor) : Except Error (List Char × Cursor) :=
  match escapeChar? c.head, escapeDigits? c.head with
  | some ch, _ => .ok ([ch], c.next)
  | none, some n =>
    let digits := c.next.rest.take n
    if digits.length < n then c.fail .escape
    else match hexNumber? digits with
      | none => c.fail .escape
      | some code => do
        let ch ← codeChar code
        pure ([ch], c.next.skip n)
  | none, none =>
    if isBreak c.head then
      let next := c.lineBreak.2
      quotedBreaks (next.left + 1) next
    else c.fail .escape

/-- Characters inside quotes that stand for themselves. -/
def isQuotedPlain (c : Char) : Bool := !(c == '\'' || c == '"' || c == '\\' || isGap c)

/-- The text up to the closing quote. -/
def quotedBody (double : Bool) : Nat → Cursor → Except Error (List Char × Cursor)
  | 0, c => c.fail .unterminated
  | fuel + 1, c =>
    let (run, after) := c.span isQuotedPlain
    let ch := after.head
    let continue_ (text : List Char) (next : Cursor) : Except Error (List Char × Cursor) := do
      let (more, final) ← quotedBody double fuel next
      pure (run ++ text ++ more, final)
    if !double && ch == '\'' && after.peek 1 == '\'' then continue_ ['\''] (after.skip 2)
    else if ch == (if double then '"' else '\'') then .ok (run, after.next)
    else if ch == '\'' || ch == '"' || (ch == '\\' && !double) then continue_ [ch] after.next
    else if ch == '\\' then do
      let (text, next) ← escape after.next
      continue_ text next
    else do
      let (text, next) ← quotedGap after
      continue_ text next

/-- A quoted scalar, from its opening quote. -/
def quotedScalar (double : Bool) (c : Cursor) : Except Error (List Char × Cursor) :=
  quotedBody double (c.left + 1) c.next

/-! ### Block scalars -/

/-- What happens to the breaks at the end of a block scalar. -/
inductive Chomping where
  | strip
  | clip
  | keep
  deriving DecidableEq, Repr

def chomping? : Char → Option Chomping
  | '+' => some .keep
  | '-' => some .strip
  | _ => none

def indentDigit? (c : Char) : Option Nat := if c.isDigit then some (c.toNat - '0'.toNat) else none

def blockHeader (c : Cursor) : Except Error (Chomping × Option Nat × Cursor) := do
  let (chomping, width, after) :=
    match chomping? c.head with
    | some ch =>
      match indentDigit? c.next.head with
      | some n => (ch, some n, c.next.next)
      | none => (ch, none, c.next)
    | none =>
      match indentDigit? c.head with
      | some n =>
        match chomping? c.next.head with
        | some ch => (ch, some n, c.next.next)
        | none => (.clip, some n, c.next)
      | none => (.clip, none, c)
  if width = some 0 ∨ !isSpaceOrEnd after.head then after.fail .blockHeader
  else pure (chomping, width, after)

/-- The rest of a line that may hold a comment only, and its break. -/
def ignoredLine (problem : Problem) (c : Cursor) : Except Error Cursor :=
  let c := c.skipWhile (· == ' ')
  let c := if c.head = '#' then c.skipWhile (!isBreakOrEnd ·) else c
  if isBreakOrEnd c.head then .ok c.lineBreak.2 else c.fail problem

/-- Blank lines before the first line of a block scalar: their breaks, and the deepest column. -/
def leadingLines : Nat → Cursor → Nat → List Char × Nat × Cursor
  | 0, c, deepest => ([], deepest, c)
  | fuel + 1, c, deepest =>
    if c.head = ' ' then leadingLines fuel c.next (max deepest c.next.column)
    else if isBreak c.head then
      let (br, next) := c.lineBreak
      let (more, deep, final) := leadingLines fuel next deepest
      (br ++ more, deep, final)
    else ([], deepest, c)

/-- Spaces up to a column. -/
def skipIndent (indent : Nat) (c : Cursor) : Cursor :=
  c.skip (min (indent - c.column) (c.rest.takeWhile (· == ' ')).length)

/-- Blank lines inside a block scalar: their breaks, and the first line that is not blank. -/
def innerBreaks (indent : Nat) : Nat → Cursor → List Char × Cursor
  | 0, c => ([], c)
  | fuel + 1, c =>
    let c := skipIndent indent c
    if isBreak c.head then
      let (br, next) := c.lineBreak
      let (more, final) := innerBreaks indent fuel next
      (br ++ more, final)
    else ([], c)

/-- The lines of a block scalar.  `breaks` are the blank lines before the current one. -/
def blockLines (folded : Bool) (chomping : Chomping) (indent : Nat) :
    Nat → List Char → Cursor → List Char × Cursor
  | 0, _, c => ([], c)
  | fuel + 1, breaks, c =>
    let (line, eol) := c.span (!isBreakOrEnd ·)
    let (br, next) := eol.lineBreak
    let (inner, after) := innerBreaks indent (next.left + 1) next
    if after.column = indent ∧ ¬ after.rest.isEmpty then
      let joins := folded && br == ['\n'] && !(c.head == ' ' || c.head == '\t') &&
        !(after.head == ' ' || after.head == '\t')
      let glue := if joins then (if inner.isEmpty then [' '] else []) else br
      let (more, final) := blockLines folded chomping indent fuel inner after
      (breaks ++ line ++ glue ++ more, final)
    else
      let tail := match chomping with
        | .strip => []
        | .clip => br
        | .keep => br ++ inner
      (breaks ++ line ++ tail, after)

/-- A block scalar, from its indicator.  `parent` is the indentation of the enclosing block. -/
def blockScalar (folded : Bool) (parent : Int) (c : Cursor) :
    Except Error (List Char × Cursor) := do
  let (chomping, width, afterHeader) ← blockHeader c.next
  let body ← ignoredLine .blockHeader afterHeader
  let least := (max (parent + 1) 1).toNat
  let fuel := body.left + 1
  let (indent, breaks, first) :=
    match width with
    | some n =>
      let indent := least + n - 1
      let (breaks, first) := innerBreaks indent fuel body
      (indent, breaks, first)
    | none =>
      let (breaks, deepest, first) := leadingLines fuel body 0
      (max least deepest, breaks, first)
  if first.column = indent ∧ ¬ first.rest.isEmpty then
    pure (blockLines folded chomping indent fuel breaks first)
  else pure (if chomping = .keep then breaks else [], first)

end SchemaAssist.Yaml
