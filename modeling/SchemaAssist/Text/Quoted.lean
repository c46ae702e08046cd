/-
  Quoted text: how a string is shown inside a message.

  Single quotes stand around the text unless it holds a single quote and no double quote.  The
  backslash, the chosen quote and the three common layout characters are escaped by a backslash;
  a character that cannot be shown is written by its code point in lower-case hexadecimal, with two,
  four or eight digits.
-/
import SchemaAssist.Text.Printable

namespace SchemaAssist.Text

/-- A number in lower-case hexadecimal with at least `width` digits. -/
def hexDigits (width n : Nat) : List Char :=
  let ds := Nat.toDigits 16 n
  List.replicate (width - ds.length) '0' ++ ds

/-- The escape of a character that is not shown. -/
def codeEscape (n : Nat) : List Char :=
  if n ≤ 0xFF then ['\\', 'x'] ++ hexDigits 2 n
  else if n ≤ 0xFFFF then ['\\', 'u'] ++ hexDigits 4 n
  else ['\\', 'U'] ++ hexDigits 8 n

/-- One character between quotes. -/
def quoteChar (quote : Char) (c : Char) : List Char :=
  if c = quote ∨ c = '\\' then ['\\', c]
  else if c = '\n' then ['\\', 'n']
  else if c = '\r' then ['\\', 'r']
  else if c = '\t' then ['\\', 't']
  else if isPrintable c then [c]
  else codeEscape c.toNat

def quoteMark (s : List Char) : Char :=
  if s.contains '\'' && !s.contains '"' then '"' else '\''

def quote (s : List Char) : List Char :=
  let q := quoteMark s
  q :: s.flatMap (quoteChar q) ++ [q]

def quoteString (s : String) : String := String.ofList (quote s.toList)

/-- Bytes in quotes, by their ASCII characters, behind the letter that marks them as bytes. -/
def quoteBytes (bytes : List UInt8) : String :=
  let q := quoteMark (bytes.map fun b => Char.ofNat b.toNat)
  let shown (b : UInt8) : List Char :=
    if b < 0x80 then quoteChar q (Char.ofNat b.toNat) else codeEscape b.toNat
  String.ofList (('b' :: q :: bytes.flatMap shown) ++ [q])

def quoteList (xs : List String) : String :=
  "[" ++ ", ".intercalate (xs.map quoteString) ++ "]"

end SchemaAssist.Text
