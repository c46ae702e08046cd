/-
  Where records go.

  Configuring gives each level a handler with a file of its own in the log directory.  Every record
  is offered to every handler, and a handler takes the records of its own level only.  While there
  is no handler, warnings and errors go to the error output as bare messages.
-/
import SchemaAssist.Files.Store
import SchemaAssist.Log.Record

namespace SchemaAssist.Log

open Files

/-- A record as it was written. -/
inductive Written where
  | line (text : String)
  | object (value : Json)
  deriving Repr

/-! ### Handlers -/

/-- The place of the file of a level in a log directory, with the working directory at `home`. -/
def logFile (home : List String) (directory : Path) (level : Level) : List String :=
  (directory.child level.fileName).place home

structure Handler where
  file : List String
  /-- Records of a lower rank are not looked at. -/
  least : Nat
  /-- The one rank that passes the filter. -/
  only : Nat
  objects : Bool
  deriving DecidableEq, Repr

namespace Handler

def takes (h : Handler) (record : Record) : Bool :=
  decide (h.least ≤ record.level.rank) && record.level.rank == h.only

def form (h : Handler) (record : Record) : Written :=
  if h.objects then .object record.object else .line record.line

def ofLevel (home : List String) (directory : Path) (objects : Bool) (level : Level) : Handler :=
  ⟨logFile home directory level, level.rank, level.rank, objects⟩

end Handler

structure Router where
  directory : Option Path
  /-- Records of a lower rank are dropped before any handler sees them. -/
  least : Nat
  handlers : List Handler
  /-- What was written, and to which file, in order. -/
  written : List (List String × Written)
  console : List String
  deriving Repr

namespace Router

def unconfigured : Router := ⟨none, Level.warning.rank, [], [], []⟩

/-! ### Configuring -/

/-- How logging is asked for. -/
structure Options where
  level : String := "INFO"
  directory : Option String := none
  objects : Bool := false
  enabled : Bool := true
  deriving DecidableEq, Repr

/-- The least rank that a level name stands for; an unknown name stands for `INFO`.  Two names are
taken by things that are no level. -/
def leastRank (level : String) : Except Fault Nat :=
  let names : List (String × Nat) :=
    [("DEBUG", 10), ("INFO", 20), ("WARN", 30), ("WARNING", 30), ("ERROR", 40), ("CRITICAL", 50),
      ("FATAL", 50), ("NOTSET", 0)]
  let name := capitals level
  if name = "BASIC_FORMAT" then .error (.levelOrder "str")
  else if name = "_STYLES" then .error (.levelOrder "dict")
  else .ok (((names.find? (·.1 == name)).map (·.2)).getD 20)

/-- The directory that is used when none is given: one for each day. -/
def defaultDirectory (date : String) : Path := (Path.ofString "logs").child date

def Options.path (o : Options) (date : String) : Path :=
  match o.directory with
  | some d => if d.isEmpty then defaultDirectory date else Path.ofString d
  | none => defaultDirectory date

/-- Drops the handlers and lets every record through to those that will be added. -/
def clear (r : Router) (directory : Path) : Router :=
  { r with handlers := [], least := Level.debug.rank, directory := some directory }

def addHandler (r : Router) (h : Handler) : Router := { r with handlers := r.handlers ++ [h] }

/-- Adds a handler for each of some levels that is not below the least rank, and makes its file if
there is none.  A directory in the place of a file ends it. -/
def addHandlers (r : Router) (files : Store) (directory : Path) (objects : Bool) (least : Nat) :
    List Level → Router × Store × Option Fault
  | [] => (r, files, none)
  | level :: rest =>
    if least ≤ level.rank then
      if files.find (directory.child level.fileName) = .directory then
        (r, files, some (.isDirectory (Path.renderPlace (logFile files.home directory level))))
      else
        addHandlers (r.addHandler (.ofLevel files.home directory objects level))
          (files.touch (directory.child level.fileName)) directory objects least rest
    else addHandlers r files directory objects least rest

/-- Configures logging.  The handlers of before are gone, also when a failure keeps new ones from
being added; options that are not enabled change nothing. -/
def configure (r : Router) (files : Store) (date : String) (o : Options) :
    Router × Store × Option Fault :=
  if o.enabled then
    match files.makeDirectory (o.path date) with
    | .error f => (r.clear (o.path date), files, some f)
    | .ok made =>
      match leastRank o.level with
      | .error f => (r.clear (o.path date), made, some f)
      | .ok least =>
        (r.clear (o.path date)).addHandlers made (o.path date) o.objects least Level.all
  else (r, files, none)

/-! ### Logging -/

def offer (record : Record) (r : Router) (h : Handler) : Router :=
  if h.takes record then { r with written := r.written ++ [(h.file, h.form record)] } else r

def log (r : Router) (record : Record) : Router :=
  if record.level.rank < r.least then r
  else if r.handlers.isEmpty then
    if Level.warning.rank ≤ record.level.rank then
      { r with console := r.console ++ [record.message] }
    else r
  else r.handlers.foldl (offer record) r

def logAll (r : Router) (records : List Record) : Router := records.foldl log r

def contents (r : Router) (file : List String) : List Written :=
  (r.written.filter (·.1 == file)).map (·.2)

/-- The log files of a directory with their contents. -/
def listing (r : Router) (files : Store) (directory : Path) : List (Level × List Written) :=
  (Level.all.filter fun level => files.isFile (directory.child level.fileName)).map fun level =>
    (level, r.contents (logFile files.home directory level))

end Router

end SchemaAssist.Log
