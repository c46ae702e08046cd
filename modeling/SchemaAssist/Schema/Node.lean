/-
  The schema tree.

  Every property of an architecture document is a node of one of four shapes: a plain value, a
  value restricted to a list of choices, an object with named properties, or a sequence whose
  elements share named properties.  A property is found by its path from the root.
-/
import SchemaAssist.Text.Split

namespace SchemaAssist.Schema

/-- What every property has. -/
structure Info where
  name : String
  typeName : String
  description : String
  deriving DecidableEq, Repr, Inhabited

inductive Node where
  | scalar (info : Info)
  | choice (info : Info) (values : List String)
  | object (info : Info) (properties : List Node)
  | sequence (info : Info) (properties : List Node)
  deriving Repr, Inhabited

namespace Node

def info : Node → Info
  | scalar i | choice i _ | object i _ | sequence i _ => i

def name (n : Node) : String := n.info.name

def children : Node → List Node
  | scalar _ | choice _ _ => []
  | object _ ps | sequence _ ps => ps

def isChoice : Node → Bool
  | choice _ _ => true
  | _ => false

/-- Whether keys may be nested below a node. -/
def canHaveChildren : Node → Bool
  | object _ _ | sequence _ _ => true
  | _ => false

/-- The word for the shape of a node. -/
def kindName : Node → String
  | scalar _ => "scalar"
  | choice _ _ => "enum"
  | object _ _ => "object"
  | sequence _ _ => "array-of-object"

def child? (n : Node) (name : String) : Option Node := n.children.find? (·.name == name)

def lookup? (n : Node) : List String → Option Node
  | [] => some n
  | segment :: path => (n.child? segment).bind (·.lookup? path)

end Node

def lookup? (root : Option Node) (path : List String) : Option Node := root.bind (·.lookup? path)

/-- Whether keys may be nested below a property; an unknown property takes none. -/
def canHaveChildren (n : Option Node) : Bool := n.any (·.canHaveChildren)

/-- The segments of a dotted path; empty ones do not count. -/
def segments (path : String) : List String :=
  ((Text.splitAt '.' path.toList).filter (!·.isEmpty)).map String.ofList

/-- A path as it may be given: not at all, as a dotted text, or by its segments. -/
inductive PathForm where
  | absent
  | dotted (text : String)
  | segmented (path : List String)
  deriving DecidableEq, Repr, Inhabited

def PathForm.split : PathForm → List String
  | absent => []
  | dotted text => segments text
  | segmented path => path

def resolve? (root : Option Node) (path : PathForm) : Option Node := lookup? root path.split

end SchemaAssist.Schema
