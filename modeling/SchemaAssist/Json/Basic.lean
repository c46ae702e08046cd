/-
  JSON values.

  Objects keep their members in the order of first mention.  Integers are exact and apart from
  doubles, as the text `1` is apart from the text `1.0`.
-/
import SchemaAssist.Number.Shortest

namespace SchemaAssist

inductive Json where
  | null
  | bool (b : Bool)
  | int (n : Int)
  | float (x : Number.Binary64)
  | str (s : String)
  | arr (items : List Json)
  | obj (members : List (String × Json))
  deriving Repr, Inhabited

namespace Json

/-- Sets a member: in its old place if the name is known, else at the end. -/
def put (name : String) (value : Json) : List (String × Json) → List (String × Json)
  | [] => [(name, value)]
  | (n, v) :: rest => if n = name then (n, value) :: rest else (n, v) :: put name value rest

def get? : Json → String → Option Json
  | obj members, name => (members.find? (·.1 == name)).map (·.2)
  | _, _ => none

/-- A value that counts as absent: null, false, zero, and whatever is empty. -/
def isEmpty : Json → Bool
  | null => true
  | bool b => !b
  | int n => n == 0
  | float x => x.same (Number.Binary64.zero false)
  | str s => s.isEmpty
  | arr items => items.isEmpty
  | obj members => members.isEmpty

def kindName : Json → String
  | null => "NoneType"
  | bool _ => "bool"
  | int _ => "int"
  | float _ => "float"
  | str _ => "str"
  | arr _ => "list"
  | obj _ => "dict"

def strings (xs : List String) : Json := arr (xs.map str)

def optional (s : Option String) : Json :=
  match s with
  | some s => str s
  | none => null

end Json

end SchemaAssist
