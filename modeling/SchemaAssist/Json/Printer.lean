/-
  The text of a JSON value.

  A comma or colon is followed by one space and no line is broken; text outside ASCII is escaped by
  UTF-16 units.  The indented form puts every item on a line of its own.
-/
import SchemaAssist.Json.Basic
import SchemaAssist.Text.Quoted

namespace SchemaAssist.Json

open Number Text

def unitEscape (n : Nat) : List Char := ['\\', 'u'] ++ hexDigits 4 n

def escapeChar (c : Char) : List Char :=
  if c = '"' then ['\\', '"']
  else if c = '\\' then ['\\', '\\']
  else if c = '\n' then ['\\', 'n']
  else if c = '\r' then ['\\', 'r']
  else if c = '\t' then ['\\', 't']
  else if c = '\x08' then ['\\', 'b']
  else if c = '\x0c' then ['\\', 'f']
  else if 0x20 ≤ c.toNat ∧ c.toNat ≤ 0x7E then [c]
  else if c.toNat ≤ 0xFFFF then unitEscape c.toNat
  else
    let n := c.toNat - 0x10000
    unitEscape (0xD800 + n / 0x400) ++ unitEscape (0xDC00 + n % 0x400)

def renderString (s : List Char) : List Char := '"' :: s.flatMap escapeChar ++ ['"']

def renderInt (n : Int) : List Char :=
  (if n < 0 then ['-'] else []) ++ Nat.toDigits 10 n.natAbs

/-- A double: the shortest text, or a word. -/
def renderFloat : Binary64 → List Char
  | .nan => "NaN".toList
  | .infinite negative => (if negative then "-Infinity" else "Infinity").toList
  | x => x.render

def joinWith (separator : List Char) : List (List Char) → List Char
  | [] => []
  | [x] => x
  | x :: rest => x ++ separator ++ joinWith separator rest

mutual

def renderChars : Json → List Char
  | null => "null".toList
  | bool b => (if b then "true" else "false").toList
  | int n => renderInt n
  | float x => renderFloat x
  | str s => renderString s.toList
  | arr items => '[' :: joinWith [',', ' '] (renderItems items) ++ [']']
  | obj members => '\x7b' :: joinWith [',', ' '] (renderMembers members) ++ ['\x7d']

def renderItems : List Json → List (List Char)
  | [] => []
  | v :: rest => renderChars v :: renderItems rest

def renderMembers : List (String × Json) → List (List Char)
  | [] => []
  | (k, v) :: rest => (renderString k.toList ++ ':' :: ' ' :: renderChars v) :: renderMembers rest

end

def render (v : Json) : String := String.ofList (renderChars v)

/-- A line break and the indentation of a level. -/
def breakAt (level : Nat) : List Char := '\n' :: List.replicate (2 * level) ' '

/-- Items between brackets, each on its own line one level deeper. -/
def block (opening closing : Char) (level : Nat) (items : List (List Char)) : List Char :=
  if items.isEmpty then [opening, closing]
  else opening :: breakAt (level + 1) ++ joinWith (',' :: breakAt (level + 1)) items ++
    breakAt level ++ [closing]

mutual

/-- The indented text of a value at a level. -/
def indentChars (level : Nat) : Json → List Char
  | arr items => block '[' ']' level (indentItems (level + 1) items)
  | obj members => block '\x7b' '\x7d' level (indentMembers (level + 1) members)
  | null => renderChars null
  | bool b => renderChars (bool b)
  | int n => renderChars (int n)
  | float x => renderChars (float x)
  | str s => renderChars (str s)

def indentItems (level : Nat) : List Json → List (List Char)
  | [] => []
  | v :: rest => indentChars level v :: indentItems level rest

def indentMembers (level : Nat) : List (String × Json) → List (List Char)
  | [] => []
  | (k, v) :: rest =>
    (renderString k.toList ++ ':' :: ' ' :: indentChars level v) :: indentMembers level rest

end

def renderIndented (v : Json) : String := String.ofList (indentChars 0 v)

end SchemaAssist.Json
