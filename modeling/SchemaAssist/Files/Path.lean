/-
  File paths.

  A path is its root and its parts.  Empty parts and single dots are dropped when a path is read,
  double dots are kept; a path without parts is written as a dot.  A place is the list of names from
  the root down to it: many paths lead to one place, and a relative path starts at the working
  directory.
-/
import SchemaAssist.Text.Split

namespace SchemaAssist.Files

structure Path where
  /-- Slashes at the front: none, one, or exactly two. -/
  root : String
  parts : List String
  deriving DecidableEq, Repr, Inhabited

namespace Path

def ofString (text : String) : Path :=
  let chars := text.toList
  let slashes := (chars.takeWhile (· == '/')).length
  let root := if slashes = 0 then "" else if slashes = 2 then "//" else "/"
  let parts := ((Text.splitAt '/' chars).map String.ofList).filter fun p => p != "" && p != "."
  ⟨root, parts⟩

def render (p : Path) : String :=
  if p.root = "" ∧ p.parts = [] then "." else p.root ++ "/".intercalate p.parts

/-- Whether a text names a directory by its form: it ends in a slash or in a single dot. -/
def namesDirectory (text : String) : Bool :=
  match (Text.splitAt '/' text.toList).getLast? with
  | some part => part == [] || part == ['.']
  | none => false

def child (p : Path) (name : String) : Path := ⟨p.root, p.parts ++ [name]⟩

/-- Whether a file can have the path: no name of a file holds a null character. -/
def nameable (p : Path) : Bool := p.parts.all fun part => !part.toList.contains '\x00'

/-! ### Places -/

/-- Where a path starts, with the working directory at `home`. -/
def start (home : List String) (p : Path) : List String := if p.root = "" then home else []

/-- One part further.  The root is above itself. -/
def step (here : List String) (part : String) : List String :=
  if part = ".." then here.dropLast else here ++ [part]

def place (home : List String) (p : Path) : List String := p.parts.foldl step (p.start home)

/-- The text of a place, from the root on. -/
def renderPlace (place : List String) : String := "/" ++ "/".intercalate place

end Path

end SchemaAssist.Files
