/-
  The values a schema document is made of.

  Mappings keep their entries in the order of first mention.  Keys compare by value, so that an
  integer, a double and a truth value of the same number are one key.
-/
import SchemaAssist.Json.Basic
import SchemaAssist.Number.Reading
import SchemaAssist.Text.Quoted
import SchemaAssist.Yaml.Timestamp

namespace SchemaAssist.Yaml

open Number

inductive Value where
  | null
  | bool (b : Bool)
  | int (n : Int)
  | float (x : Binary64)
  | str (s : String)
  | bytes (content : List UInt8)
  | time (t : Timestamp)
  | seq (items : List Value)
  | map (entries : List (Value × Value))
  | set (items : List Value)
  | pair (first second : Value)
  /-- A mapping or a sequence met inside itself, where it is not followed any further. -/
  | cycle (keyed : Bool)
  deriving Repr, Inhabited

namespace Value

mutual

def ofJson : Json → Value
  | .null => null
  | .bool b => bool b
  | .int n => int n
  | .float x => float x
  | .str s => str s
  | .arr items => seq (ofItems items)
  | .obj members => map (ofMembers members)

def ofItems : List Json → List Value
  | [] => []
  | v :: rest => ofJson v :: ofItems rest

def ofMembers : List (String × Json) → List (Value × Value)
  | [] => []
  | (k, v) :: rest => (str k, ofJson v) :: ofMembers rest

end

def ratio? : Value → Option (Int × Nat)
  | bool b => some (if b then 1 else 0, 1)
  | int n => some (n, 1)
  | float x => x.ratio?
  | _ => none

def sameKey : Value → Value → Bool
  | null, null => true
  | str a, str b => a == b
  | bytes a, bytes b => a == b
  | time a, time b => a.same b
  | float (.infinite a), float (.infinite b) => a == b
  | a, b =>
    match a.ratio?, b.ratio? with
    | some (p, q), some (r, s) => p * s == r * q
    | _, _ => false

/-- Sets an entry: in its old place if the key is known, else at the end. -/
def put {α : Type} (key : Value) (value : α) : List (Value × α) → List (Value × α)
  | [] => [(key, value)]
  | (k, v) :: rest => if sameKey k key then (k, value) :: rest else (k, v) :: put key value rest

def get? : Value → String → Option Value
  | map entries, name =>
    (entries.find? fun e => match e.1 with | str s => s == name | _ => false).map (·.2)
  | _, _ => none

mutual

/-- A value as it is shown inside another. -/
def shown : Value → String
  | null => "None"
  | bool b => if b then "True" else "False"
  | int n => toString n
  | float x => String.ofList x.render
  | str s => Text.quoteString s
  | bytes content => Text.quoteBytes content
  | time t => t.shown
  | seq items => "[" ++ ", ".intercalate (shownItems items) ++ "]"
  | map entries => "\x7b" ++ ", ".intercalate (shownEntries entries) ++ "\x7d"
  | set items =>
    match shownItems items with
    | [] => "set()"
    | texts => "\x7b" ++ ", ".intercalate texts ++ "\x7d"
  | pair first second => "(" ++ shown first ++ ", " ++ shown second ++ ")"
  | cycle keyed => if keyed then "\x7b...\x7d" else "[...]"

def shownItems : List Value → List String
  | [] => []
  | v :: rest => shown v :: shownItems rest

def shownEntries : List (Value × Value) → List String
  | [] => []
  | (k, v) :: rest => (shown k ++ ": " ++ shown v) :: shownEntries rest

end

/-- The text of a value: a string and a time as they are, anything else as it is shown. -/
def text : Value → String
  | str s => s
  | time t => t.text
  | v => shown v

mutual

/-- Whether a value can be written: none of its integers has too many digits. -/
def writable : Value → Bool
  | int n => decide (n.natAbs < Nat.pow 10 maxDigits)
  | seq items | set items => writableItems items
  | map entries => writableEntries entries
  | pair first second => writable first && writable second
  | _ => true

def writableItems : List Value → Bool
  | [] => true
  | v :: rest => writable v && writableItems rest

def writableEntries : List (Value × Value) → Bool
  | [] => true
  | (k, v) :: rest => writable k && writable v && writableEntries rest

end

end Value

end SchemaAssist.Yaml
