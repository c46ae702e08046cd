/-
  Files and directories.

  They are kept by their place, together with the place of the working directory.  A path is
  followed part by part, as an operating system does: what stands before a slash must be a
  directory.
-/
import SchemaAssist.Fault
import SchemaAssist.Files.Path

namespace SchemaAssist.Files

/-- What stands at a place. -/
inductive Entry where
  | file (bytes : List UInt8)
  | directory
  deriving DecidableEq, Repr

/-- What a path leads to. -/
inductive Found where
  | file (bytes : List UInt8)
  | directory
  | missing
  /-- A file stands where a directory is needed. -/
  | blocked
  deriving DecidableEq, Repr

/-- Files and directories by place; a later entry counts before an earlier one of the same place. -/
structure Store where
  /-- The place of the working directory. -/
  home : List String
  entries : List (List String × Entry)
  deriving DecidableEq, Repr, Inhabited

namespace Store

/-- A working directory below the root, with nothing in it. -/
def empty : Store := ⟨["home"], []⟩

/-- What stands at a place.  The working directory and those above it are always there. -/
def entry? (s : Store) (place : List String) : Option Entry :=
  if place <+: s.home then some .directory
  else (s.entries.find? (·.1 == place)).map (·.2)

/-- Follows parts from a place, and tells how far it came. -/
def follow (s : Store) : List String → List String → Found × List String
  | here, [] =>
    match s.entry? here with
    | some (.file bytes) => (.file bytes, here)
    | some .directory => (.directory, here)
    | none => (.missing, here)
  | here, part :: rest =>
    match s.entry? here with
    | some .directory => follow s (Path.step here part) rest
    | some (.file _) => (.blocked, here)
    | none => (.missing, here)

def find (s : Store) (p : Path) : Found := (s.follow (p.start s.home) p.parts).1

/-- What a text leads to as a path.  An empty text leads nowhere, and a text that names a directory
by its form does not lead to a file. -/
def findText (s : Store) (text : String) : Found :=
  if text.isEmpty then .missing
  else match s.find (Path.ofString text) with
    | .file bytes => if Path.namesDirectory text then .blocked else .file bytes
    | found => found

def isFile (s : Store) (p : Path) : Bool :=
  match s.find p with
  | .file _ => true
  | _ => false

def set (s : Store) (place : List String) (e : Entry) : Store :=
  { s with entries := (place, e) :: s.entries.filter (·.1 != place) }

/-- Makes directories at a place and at all places above it, where nothing stands yet. -/
def makeParents (s : Store) (place : List String) : Store :=
  (List.range (place.length + 1)).foldl (fun s n =>
    let upper := place.take n
    if (s.entry? upper).isSome then s else s.set upper .directory) s

/-- Writes a file at a place, with the directories above it. -/
def write (s : Store) (place : List String) (bytes : List UInt8) : Store :=
  (s.makeParents place.dropLast).set place (.file bytes)

def remove (s : Store) (place : List String) : Store :=
  { s with entries := s.entries.filter (·.1 != place) }

/-- Makes the first directory that a path misses. -/
def makeNext (s : Store) (p : Path) : Except Fault Store :=
  match s.follow (p.start s.home) p.parts with
  | (.directory, _) => .ok s
  | (.file _, _) => .error (.fileExists p.render)
  | (.blocked, _) => .error (.notDirectory p.render)
  | (.missing, place) => .ok (s.set place .directory)

/-- Makes a directory and those above it, the uppermost first; an existing one is fine. -/
def makeDirectory (s : Store) (p : Path) : Except Fault Store :=
  if s.find p = .missing then
    (List.range p.parts.length).foldlM (fun s n => s.makeNext ⟨p.root, p.parts.take (n + 1)⟩) s
  else s.makeNext p

/-- Replaces the content of a file, or makes it in an existing directory. -/
def overwrite (s : Store) (p : Path) (bytes : List UInt8) : Except Fault Store :=
  match s.follow (p.start s.home) p.parts with
  | (.directory, _) => .error (.isDirectory p.render)
  | (.blocked, _) => .error (.notDirectory p.render)
  | (.file _, place) => .ok (s.set place (.file bytes))
  | (.missing, place) =>
    if (s.follow (p.start s.home) p.parts.dropLast).1 =
      .directory then .ok (s.set place (.file bytes))
    else .error (.noSuchFile p.render)

/-- Makes an empty file where nothing stands and one can be made. -/
def touch (s : Store) (p : Path) : Store :=
  match s.find p with
  | .missing => (s.overwrite p []).toOption.getD s
  | _ => s

end Store

end SchemaAssist.Files
