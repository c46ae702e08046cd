/-
  Cutting a document into tokens.

  Indentation opens and closes blocks, and a scalar turns out to be a key only when a colon follows
  it on the same line.  So the scanner remembers, for every level of brackets, where a key may have
  started; when the colon comes, the tokens that open the key are put in front of it after the fact.
-/
import SchemaAssist.Number.Reading
import SchemaAssist.Yaml.Scalar
import SchemaAssist.Yaml.Stream
import SchemaAssist.Yaml.Token

namespace SchemaAssist.Yaml

structure PossibleKey where
  /-- How many tokens stand before it. -/
  number : Nat
  /-- Whether nothing but a key can stand there. -/
  required : Bool
  index : Nat
  line : Nat
  column : Nat
  deriving DecidableEq, Repr

/-- The scanner between two tokens. -/
structure Scanner where
  cursor : Cursor
  /-- Tokens so far, the latest first. -/
  emitted : List Token
  count : Nat
  flow : Nat
  /-- The column of the current block; -1 outside of all. -/
  indent : Int
  /-- The columns of the enclosing blocks. -/
  indents : List Int
  keyAllowed : Bool
  /-- Possible keys by bracket level. -/
  keys : List (Nat × PossibleKey)
  deriving Repr

namespace Scanner

def start (text : List Char) : Scanner := ⟨Cursor.start text, [], 0, 0, -1, [], true, []⟩

def emit (s : Scanner) (t : Token) :
    Scanner := { s with emitted := t :: s.emitted, count := s.count + 1 }

/-- Puts a token behind the first `number` ones. -/
def emitAt (s : Scanner) (number : Nat) (t : Token) : Scanner :=
  let late := s.count - number
  { s with emitted := s.emitted.take late ++ t :: s.emitted.drop late, count := s.count + 1 }

def moveTo (s : Scanner) (c : Cursor) : Scanner := { s with cursor := c }

def allowKey (s : Scanner) (allowed : Bool) : Scanner := { s with keyAllowed := allowed }

/-- Whether a possible key cannot become one any more: it lies on an earlier line or too far back.
-/
def expired (s : Scanner) (k : PossibleKey) : Bool :=
  k.line != s.cursor.line || decide (1024 < s.cursor.index - k.index)

/-- Drops the keys that have expired; a required one is an error. -/
def dropExpired (s : Scanner) : Except Error Scanner :=
  if s.keys.any fun e => s.expired e.2 && e.2.required then s.cursor.fail .keyWithoutColon
  else .ok { s with keys := s.keys.filter fun e => !s.expired e.2 }

/-- Drops the possible key of the current level; a required one is an error. -/
def dropKey (s : Scanner) : Except Error Scanner :=
  if s.keys.any fun e => e.1 == s.flow && e.2.required then s.cursor.fail .keyWithoutColon
  else .ok { s with keys := s.keys.filter fun e => e.1 != s.flow }

/-- Remembers that a key may start at the cursor. -/
def markKey (s : Scanner) : Except Error Scanner :=
  if s.keyAllowed then do
    let required := s.flow == 0 && s.indent == (s.cursor.column : Int)
    let s ← s.dropKey
    let key : PossibleKey :=
      ⟨s.count, required, s.cursor.index, s.cursor.line, s.cursor.column⟩
    pure { s with keys := (s.flow, key) :: s.keys }
  else .ok s

/-- The columns of the blocks that remain when those deeper than a column are closed, innermost
first, and how many are closed. -/
def unwindTo (column : Int) (indent : Int) : List Int → Nat × Int × List Int
  | [] => (0, indent, [])
  | outer :: rest =>
    if column < indent then
      let (closed, remaining) := unwindTo column outer rest
      (closed + 1, remaining)
    else (0, indent, outer :: rest)

/-- Closes the blocks that are deeper than a column, outside of brackets. -/
def unwind (s : Scanner) (column : Int) : Scanner :=
  if s.flow = 0 then
    let (closed, indent, indents) := unwindTo column s.indent s.indents
    { s with
      emitted := List.replicate closed .blockEnd ++ s.emitted, count := s.count + closed,
      indent := indent, indents := indents }
  else s

/-- Opens a block at a column that is deeper than the current one, by the given token, which goes
behind the first `number` tokens. -/
def openBlock (s : Scanner) (column : Nat) (number : Nat) (t : Token) : Scanner :=
  if s.indent < column then
    { s.emitAt number t with indent := column, indents := s.indent :: s.indents }
  else s

/-- Skips spaces, comments and line breaks; a line break outside of brackets permits a key. -/
def skipGaps : Nat → Scanner → Scanner
  | 0, s => s
  | fuel + 1, s =>
    let c := s.cursor.skipWhile (· == ' ')
    let c := if c.head = '#' then c.skipWhile (!isBreakOrEnd ·) else c
    if isBreak c.head then
      skipGaps fuel { s with cursor := c.lineBreak.2, keyAllowed := s.keyAllowed || s.flow == 0 }
    else s.moveTo c

/-- A byte order mark at the very start is skipped. -/
def skipByteOrderMark (s : Scanner) : Scanner :=
  if s.cursor.index = 0 ∧ s.cursor.head = '\ufeff' then s.moveTo s.cursor.next else s

/-! ### Directives, anchors and tags -/

def scanName (problem : Problem) (ends : Char → Bool) (c : Cursor) :
    Except Error (List Char × Cursor) :=
  let (name, after) := c.span isNameChar
  if name.isEmpty ∨ !ends after.head then after.fail problem else .ok (name, after)

def scanVersionPart (c : Cursor) : Except Error (Nat × Cursor) :=
  let (digits, after) := c.span Char.isDigit
  if digits.isEmpty then c.fail .directive
  else if Number.maxDigits < digits.length then .error (.fault (.digitLimit digits.length))
  else .ok (digits.foldl (fun n d => n * 10 + (d.toNat - '0'.toNat)) 0, after)

/-- A tag handle: `!`, `!!` or `!name!`. -/
def scanHandle (problem : Problem) (c : Cursor) : Except Error (List Char × Cursor) :=
  if c.head ≠ '!' then c.fail problem
  else if c.next.head = ' ' then .ok (['!'], c.next)
  else
    let (name, after) := c.next.span isNameChar
    if after.head = '!' then .ok ('!' :: name ++ ['!'], after.next) else after.fail problem

/-- Characters of a tag that stand for themselves. -/
def isTagChar (c : Char) : Bool := c.isAlphanum || "-;/?:@&=+$,_.!~*'()[]".toList.contains c

/-- The bytes of a run of percent escapes. -/
def scanPercent (problem : Problem) : Nat → Cursor → Except Error (List UInt8 × Cursor)
  | 0, c => .ok ([], c)
  | fuel + 1, c =>
    if c.head = '%' then
      match hexDigit? (c.peek 1), hexDigit? (c.peek 2) with
      | some a, some b => do
        let (more, final) ← scanPercent problem fuel (c.skip 3)
        pure (UInt8.ofNat (a * 16 + b) :: more, final)
      | _, _ => c.fail problem
    else .ok ([], c)

/-- The characters of a tag, with their percent escapes decoded. -/
def scanTagText (problem : Problem) : Nat → Cursor → Except Error (List Char × Cursor)
  | 0, c => .ok ([], c)
  | fuel + 1, c =>
    if c.head = '%' then do
      let (bytes, after) ← scanPercent problem (c.left + 1) c
      match Text.decodeUtf8 bytes with
      | .error _ => c.fail problem
      | .ok text =>
        let (more, final) ← scanTagText problem fuel after
        pure (text ++ more, final)
    else if isTagChar c.head then do
      let (run, after) := c.span isTagChar
      let (more, final) ← scanTagText problem fuel after
      pure (run ++ more, final)
    else .ok ([], c)

/-- A tag text that must not be empty. -/
def scanTagUri (problem : Problem) (c : Cursor) : Except Error (List Char × Cursor) :=
  if c.head = '%' ∨ isTagChar c.head then scanTagText problem (c.left + 1) c else c.fail problem

/-- A directive, from its percent sign. -/
def scanDirective (c : Cursor) : Except Error (Token × Cursor) := do
  let (name, after) ← scanName .directive isSpaceOrEnd c.next
  if name = "YAML".toList then
    let (major, c) ← scanVersionPart (after.skipWhile (· == ' '))
    if c.head ≠ '.' then c.fail .directive
    else
      let (_, c) ← scanVersionPart c.next
      if isSpaceOrEnd c.head then
        let c ← ignoredLine .directive c
        pure (.version major, c)
      else c.fail .directive
  else if name = "TAG".toList then
    let (handle, c) ← scanHandle .directive (after.skipWhile (· == ' '))
    if c.head ≠ ' ' then c.fail .directive
    else
      let (expansion, c) ← scanTagUri .directive (c.skipWhile (· == ' '))
      if isSpaceOrEnd c.head then
        let c ← ignoredLine .directive c
        pure (.tagHandle (String.ofList handle) (String.ofList expansion), c)
      else c.fail .directive
  else
    let c ← ignoredLine .directive (after.skipWhile (!isBreakOrEnd ·))
    pure (.reserved, c)

/-- Characters that may follow the name of an anchor. -/
def endsAnchor (c : Char) : Bool := isGap c || "?:,]\x7d%@`".toList.contains c

/-- A tag, from its exclamation mark. -/
def scanTag (c : Cursor) : Except Error (Token × Cursor) := do
  let (token, after) ←
    if c.peek 1 = '<' then do
      let (suffix, after) ← scanTagUri .tag (c.skip 2)
      if after.head = '>' then pure (Token.tag none (String.ofList suffix), after.next)
      else after.fail .tag
    else if isGap (c.peek 1) then pure (Token.tag none "!", c.next)
    else if (c.next.rest.takeWhile (!isSpaceOrEnd ·)).contains '!' then do
      let (handle, body) ← scanHandle .tag c
      let (suffix, after) ← scanTagUri .tag body
      pure (Token.tag (some (String.ofList handle)) (String.ofList suffix), after)
    else do
      let (suffix, after) ← scanTagUri .tag c.next
      pure (Token.tag (some "!") (String.ofList suffix), after)
  if isSpaceOrEnd after.head then pure (token, after) else after.fail .tag

/-! ### Tokens -/

/-- A mark of a document, which closes all blocks. -/
def documentToken (s : Scanner) (t : Token) : Except Error Scanner := do
  let s ← (s.unwind (-1)).dropKey
  pure (((s.allowKey false).emit t).moveTo (s.cursor.skip 3))

def openBracket (s : Scanner) (t : Token) : Except Error Scanner := do
  let s ← s.markKey
  pure { s.emit t with flow := s.flow + 1, keyAllowed := true, cursor := s.cursor.next }

def closeBracket (s : Scanner) (t : Token) : Except Error Scanner := do
  if s.flow = 0 then s.cursor.fail .strayClosing
  else
    let s ← s.dropKey
    pure { s.emit t with flow := s.flow - 1, keyAllowed := false, cursor := s.cursor.next }

def flowEntryToken (s : Scanner) : Except Error Scanner := do
  let s ← (s.allowKey true).dropKey
  pure ((s.emit .flowEntry).moveTo s.cursor.next)

def blockEntryToken (s : Scanner) : Except Error Scanner := do
  if s.flow = 0 ∧ !s.keyAllowed then s.cursor.fail .entryNotAllowed
  else
    let s := if s.flow = 0 then s.openBlock s.cursor.column s.count .blockSequenceStart else s
    let s ← (s.allowKey true).dropKey
    pure ((s.emit .blockEntry).moveTo s.cursor.next)

def keyToken (s : Scanner) : Except Error Scanner := do
  if s.flow = 0 ∧ !s.keyAllowed then s.cursor.fail .keyNotAllowed
  else
    let s := if s.flow = 0 then s.openBlock s.cursor.column s.count .blockMappingStart else s
    let s ← (s.allowKey (s.flow == 0)).dropKey
    pure ((s.emit .key).moveTo s.cursor.next)

/-- A colon that opens a value.  If a key may have started before it, that was one. -/
def valueToken (s : Scanner) : Except Error Scanner := do
  match s.keys.find? (·.1 == s.flow) with
  | some (_, k) =>
    let s := { s with keys := s.keys.filter fun e => e.1 != s.flow }
    let s := s.emitAt k.number .key
    let s := if s.flow = 0 then s.openBlock k.column k.number .blockMappingStart else s
    pure (((s.allowKey false).emit .value).moveTo s.cursor.next)
  | none =>
    if s.flow = 0 ∧ !s.keyAllowed then s.cursor.fail .valueNotAllowed
    else
      let s := if s.flow = 0 then s.openBlock s.cursor.column s.count .blockMappingStart else s
      let s ← (s.allowKey (s.flow == 0)).dropKey
      pure ((s.emit .value).moveTo s.cursor.next)

/-- A token that may be a key, with the cursor after it. -/
def nodeToken (s : Scanner) (scan : Cursor → Except Error (Token × Cursor)) :
    Except Error Scanner := do
  let s ← s.markKey
  let (t, after) ← scan s.cursor
  pure (((s.allowKey false).emit t).moveTo after)

/-- A plain scalar.  After a line break a key may follow. -/
def plainToken (s : Scanner) : Except Error Scanner := do
  let s ← s.markKey
  let (text, after, broken) := plainScalar (decide (0 < s.flow)) (s.indent + 1) s.cursor
  pure (((s.allowKey broken).emit (.scalar (String.ofList text))).moveTo after)

def blockToken (s : Scanner) (folded : Bool) : Except Error Scanner := do
  let s ← (s.allowKey true).dropKey
  let (text, after) ← blockScalar folded s.indent s.cursor
  pure ((s.emit (.scalar (String.ofList text))).moveTo after)

def startsPlain (s : Scanner) : Bool :=
  let ch := s.cursor.head
  !(isGap ch || "-?:,[]\x7b\x7d#&*!|>'\"%@`".toList.contains ch) ||
    (!isGap (s.cursor.peek 1) && (ch == '-' || (s.flow == 0 && (ch == '?' || ch == ':'))))

/-- The token at the cursor, or `none` at the end of the text. -/
def tokenAt (s : Scanner) : Except Error (Option Scanner) := do
  let c := s.cursor
  let ch := c.head
  let spaced := isGap (c.peek 1)
  if c.rest.isEmpty then pure none
  else if ch = '%' ∧ c.column = 0 then
    let s ← (s.unwind (-1)).dropKey
    let (t, after) ← scanDirective s.cursor
    pure (some (((s.allowKey false).emit t).moveTo after))
  else if c.column = 0 ∧ c.atMark '-' then some <$> s.documentToken .documentStart
  else if c.column = 0 ∧ c.atMark '.' then some <$> s.documentToken .documentEnd
  else if ch = '[' then some <$> s.openBracket .flowSequenceStart
  else if ch = '\x7b' then some <$> s.openBracket .flowMappingStart
  else if ch = ']' then some <$> s.closeBracket .flowSequenceEnd
  else if ch = '\x7d' then some <$> s.closeBracket .flowMappingEnd
  else if ch = ',' then some <$> s.flowEntryToken
  else if ch = '-' ∧ spaced then some <$> s.blockEntryToken
  else if ch = '?' ∧ (0 < s.flow ∨ spaced) then some <$> s.keyToken
  else if ch = ':' ∧ (0 < s.flow ∨ spaced) then some <$> s.valueToken
  else if ch = '*' then some <$> s.nodeToken fun c => do
    let (name, after) ← scanName .anchorName endsAnchor c.next
    pure (.alias (String.ofList name), after)
  else if ch = '&' then some <$> s.nodeToken fun c => do
    let (name, after) ← scanName .anchorName endsAnchor c.next
    pure (.anchor (String.ofList name), after)
  else if ch = '!' then some <$> s.nodeToken scanTag
  else if ch = '|' ∧ s.flow = 0 then some <$> s.blockToken false
  else if ch = '>' ∧ s.flow = 0 then some <$> s.blockToken true
  else if ch = '\'' ∨ ch = '"' then some <$> s.nodeToken fun c => do
    let (text, after) ← quotedScalar (ch == '"') c
    pure (.scalar (String.ofList text), after)
  else if s.startsPlain then some <$> s.plainToken
  else c.fail .strayToken

/-- The next token, or `none` at the end of the text. -/
def step (s : Scanner) : Except Error (Option Scanner) := do
  let s ← (skipGaps (s.cursor.left + 1) s.skipByteOrderMark).dropExpired
  (s.unwind s.cursor.column).tokenAt

/-- At the end of the text the blocks that are open are closed. -/
def finish (s : Scanner) : Except Error (List Token) := do
  let s ← (skipGaps (s.cursor.left + 1) s.skipByteOrderMark).dropExpired
  let s ← (s.unwind (-1)).dropKey
  pure s.emitted.reverse

/-- How many tokens are final: those before the first place where a key may still have started. -/
def settled (s : Scanner) : Nat :=
  s.keys.foldl (fun n e => if s.expired e.2 && !e.2.required then n else min n e.2.number) s.count

/-- The tokens that are final, and the failure that ends them. -/
def breakOff (s : Scanner) (e : Error) :
    List Token := s.emitted.reverse.take s.settled ++ [.broken e]

def close (s : Scanner) : List Token :=
  match s.finish with
  | .ok ts => ts
  | .error e => s.breakOff e

/-- The tokens where there are no more characters: all of them at the end of the document, or those
before the failure. -/
def stop (s : Scanner) (failure : Option Error) : List Token :=
  match failure with
  | none => s.close
  | some e => s.breakOff e

/-- The error that is met: one that comes from running out of characters is not, if a failure is why
they run out. -/
def firstError (failure : Option Error) : Error → Error
  | .invalid .unterminated line column => failure.getD (.invalid .unterminated line column)
  | e => e

/-- All tokens from here on.  A token is not complete before a character follows it. -/
def run (failure : Option Error) : Nat → Scanner → List Token
  | 0, s => s.stop failure
  | fuel + 1, s =>
    match s.step with
    | .ok (some next) =>
      if failure.isSome && next.cursor.rest.isEmpty then s.stop failure else next.run failure fuel
    | .ok none => s.stop failure
    | .error e => s.breakOff (firstError failure e)

end Scanner

def tokens (s : Stream) : List Token := (Scanner.start s.text).run s.failure (s.text.length + 1)

end SchemaAssist.Yaml
