/-
  Reading a JSON text.

  The reader works on the text that is left.  A flaw is located by how much text was left when it
  was met, and turned into line, column and offset only when it is worded.  Beyond the standard the
  words `NaN`, `Infinity` and `-Infinity` are numbers, and the last of several members of one name
  counts.
-/
import SchemaAssist.Json.Basic
import SchemaAssist.Number.Reading

namespace SchemaAssist.Json

open Number

inductive Flaw where
  | byteOrderMark
  | expectingValue
  | expectingName
  | expectingColon
  | expectingComma
  | extraData
  | unterminatedString
  | controlCharacter
  | invalidEscape
  | invalidUnicodeEscape
  deriving DecidableEq, Repr

def Flaw.message : Flaw → String
  | byteOrderMark => "Unexpected UTF-8 BOM (decode using utf-8-sig)"
  | expectingValue => "Expecting value"
  | expectingName => "Expecting property name enclosed in double quotes"
  | expectingColon => "Expecting ':' delimiter"
  | expectingComma => "Expecting ',' delimiter"
  | extraData => "Extra data"
  | unterminatedString => "Unterminated string starting at"
  | controlCharacter => "Invalid control character at"
  | invalidEscape => "Invalid \\escape"
  | invalidUnicodeEscape => "Invalid \\uXXXX escape"

/-- Why a text was not read. -/
inductive ParseError where
  /-- A flaw, with the number of characters from it to the end of the text. -/
  | flaw (flaw : Flaw) (left : Nat)
  | digitLimit (count : Nat)
  deriving DecidableEq, Repr

/-- Fails at the start of the given text. -/
def failAt {α : Type} (flaw : Flaw) (s : List Char) :
    Except ParseError α := .error (.flaw flaw s.length)

def isSpace (c : Char) : Bool := c == ' ' || c == '\t' || c == '\n' || c == '\r'

def skipSpace (s : List Char) : List Char := s.dropWhile isSpace

/-! ### Strings -/

def hexValue? (c : Char) : Option Nat :=
  if '0' ≤ c ∧ c ≤ '9' then some (c.toNat - '0'.toNat)
  else if 'a' ≤ c ∧ c ≤ 'f' then some (c.toNat - 'a'.toNat + 10)
  else if 'A' ≤ c ∧ c ≤ 'F' then some (c.toNat - 'A'.toNat + 10)
  else none

/-- The value of four hexadecimal digits at the front, and the rest. -/
def hexUnit? : List Char → Option (Nat × List Char)
  | a :: b :: c :: d :: rest =>
    match hexValue? a, hexValue? b, hexValue? c, hexValue? d with
    | some w, some x, some y, some z => some (((w * 16 + x) * 16 + y) * 16 + z, rest)
    | _, _, _, _ => none
  | _ => none

def simpleEscape? : Char → Option Char
  | '"' => some '"'
  | '\\' => some '\\'
  | '/' => some '/'
  | 'b' => some '\x08'
  | 'f' => some '\x0c'
  | 'n' => some '\n'
  | 'r' => some '\r'
  | 't' => some '\t'
  | _ => none

def isHigh (n : Nat) : Bool := decide (0xD800 ≤ n) && decide (n < 0xDC00)

def isLow (n : Nat) : Bool := decide (0xDC00 ≤ n) && decide (n < 0xE000)

/-- The character of a unit that is not part of a pair; half a pair is no character. -/
def unitChar (n : Nat) : Char := if isHigh n || isLow n then '\ufffd' else Char.ofNat n

/-- The character of a `\u` escape, and the text after it.  `s` starts after the `u`. -/
def unicodeEscape (s : List Char) : Except ParseError (Char × List Char) :=
  match hexUnit? s with
  | none => .error (.flaw .invalidUnicodeEscape (s.length + 1))
  | some (_, []) => .error (.flaw .invalidUnicodeEscape (s.length + 1))
  | some (high, rest) =>
    match isHigh high, rest with
    | true, '\\' :: 'u' :: more =>
      if 4 < more.length then
        match hexUnit? more with
        | none => .error (.flaw .invalidUnicodeEscape (more.length + 1))
        | some (low, after) =>
          if isLow low then
            .ok (Char.ofNat (0x10000 + (high - 0xD800) * 0x400 + (low - 0xDC00)), after)
          else .ok (unitChar high, rest)
      else .ok (unitChar high, rest)
    | _, _ => .ok (unitChar high, rest)

/-- The characters of a string up to its closing quote.  `start` is how much text was left at the
opening quote. -/
def stringBody (start : Nat) : Nat → List Char → Except ParseError (List Char × List Char)
  | 0, _ => .error (.flaw .unterminatedString start)
  | _ + 1, [] => .error (.flaw .unterminatedString start)
  | fuel + 1, c :: rest =>
    if c = '"' then .ok ([], rest)
    else if c = '\\' then
      match rest with
      | [] => .error (.flaw .unterminatedString start)
      | 'u' :: more => do
        let (ch, after) ← unicodeEscape more
        let (body, final) ← stringBody start fuel after
        pure (ch :: body, final)
      | e :: more =>
        match simpleEscape? e with
        | none => failAt .invalidEscape (c :: rest)
        | some ch => do
          let (body, final) ← stringBody start fuel more
          pure (ch :: body, final)
    else if c.toNat ≤ 0x1F then failAt .controlCharacter (c :: rest)
    else do
      let (body, final) ← stringBody start fuel rest
      pure (c :: body, final)

def stringFrom (s : List Char) : Except ParseError (String × List Char) := do
  let (body, rest) ← stringBody (s.length + 1) (s.length + 1) s
  pure (String.ofList body, rest)

/-! ### Numbers and words -/

/-- A fraction part at the front: its digits and the rest. -/
def fraction (s : List Char) : List Char × List Char :=
  match s with
  | '.' :: rest =>
    let (ds, more) := spanDigits rest
    if ds.isEmpty then ([], s) else (ds, more)
  | _ => ([], s)

/-- The digits before the point: a zero alone, or a run that does not start with zero. -/
def wholeDigits : List Char → List Char × List Char
  | '0' :: rest => (['0'], rest)
  | s => spanDigits s

/-- A number.  `start` is the text at its first character. -/
def number (start : List Char) : Except ParseError (Json × List Char) :=
  let (negative, s) := match start with
    | '-' :: rest => (true, rest)
    | _ => (false, start)
  let (whole, afterWhole) := wholeDigits s
  if whole.isEmpty then failAt .expectingValue start
  else
    let (part, afterPart) := fraction afterWhole
    let (power, rest) := scanExponent afterPart
    if part.isEmpty && rest.length == afterPart.length then
      if maxDigits < whole.length then .error (.digitLimit whole.length)
      else
        let n : Int := natOfDigits whole
        .ok (int (if negative then -n else n), rest)
    else .ok (float (Binary64.ofDecimal negative (natOfDigits (whole ++ part))
      (power - part.length)), rest)

def afterWord? (word : String) (s : List Char) : Option (List Char) :=
  if word.toList.isPrefixOf s then some (s.drop word.length) else none

def words : List (String × Json) :=
  [("null", null), ("true", bool true), ("false", bool false), ("NaN", float .nan),
    ("Infinity", float (.infinite false)), ("-Infinity", float (.infinite true))]

def atom (s : List Char) : Except ParseError (Json × List Char) :=
  match words.findSome? fun (w, v) => (afterWord? w s).map (v, ·) with
  | some r => .ok r
  | none => number s

/-! ### Values -/

mutual

def value : Nat → List Char → Except ParseError (Json × List Char)
  | 0, s => failAt .expectingValue s
  | _ + 1, [] => failAt .expectingValue []
  | fuel + 1, c :: rest =>
    if c = '"' then do
      let (s, more) ← stringFrom rest
      pure (str s, more)
    else if c = '[' then
      match skipSpace rest with
      | ']' :: more => .ok (arr [], more)
      | s => do
        let (items, more) ← elements fuel s
        pure (arr items, more)
    else if c = '\x7b' then
      match skipSpace rest with
      | '\x7d' :: more => .ok (obj [], more)
      | s => do
        let (ms, more) ← members fuel s
        pure (obj (ms.foldl (fun acc m => put m.1 m.2 acc) []), more)
    else atom (c :: rest)

def elements : Nat → List Char → Except ParseError (List Json × List Char)
  | 0, s => failAt .expectingValue s
  | fuel + 1, s => do
    let (item, rest) ← value fuel s
    match skipSpace rest with
    | ']' :: more => pure ([item], more)
    | ',' :: more =>
      let (items, final) ← elements fuel (skipSpace more)
      pure (item :: items, final)
    | other => failAt .expectingComma other

def members : Nat → List Char → Except ParseError (List (String × Json) × List Char)
  | 0, s => failAt .expectingName s
  | fuel + 1, s =>
    match s with
    | '"' :: rest => do
      let (name, more) ← stringFrom rest
      match skipSpace more with
      | ':' :: tail =>
        let (v, final) ← value fuel (skipSpace tail)
        match skipSpace final with
        | '\x7d' :: after => pure ([(name, v)], after)
        | ',' :: after =>
          let (ms, last) ← members fuel (skipSpace after)
          pure ((name, v) :: ms, last)
        | other => failAt .expectingComma other
      | other => failAt .expectingColon other
    | other => failAt .expectingName other

end

def parseChars (s : List Char) : Except ParseError Json :=
  if s.head? = some '\ufeff' then failAt .byteOrderMark s
  else do
    let (v, rest) ← value (2 * s.length + 2) (skipSpace s)
    match skipSpace rest with
    | [] => pure v
    | other => failAt .extraData other

def parse (text : String) : Except ParseError Json := parseChars text.toList

/-- The wording of a flaw in a text: what it is, and its line, column and offset. -/
def Flaw.locate (flaw : Flaw) (text : List Char) (left : Nat) : String :=
  let before := text.take (text.length - left)
  let line := before.count '\n' + 1
  let column := (before.reverse.takeWhile (· != '\n')).length + 1
  flaw.message ++ s!": line {line} column {column} (char {before.length})"

end SchemaAssist.Json
