/-
  What is logged.

  A record has a level, the component it comes from, a message, and named data.  The functions here
  are the events of the library.
-/
import SchemaAssist.Fault
import SchemaAssist.Json.Printer
import SchemaAssist.Text.Case

namespace SchemaAssist.Log

inductive Level where
  | debug
  | info
  | warning
  | error
  deriving DecidableEq, Repr

def Level.rank : Level → Nat
  | debug => 10
  | info => 20
  | warning => 30
  | error => 40

def Level.name : Level → String
  | debug => "DEBUG"
  | info => "INFO"
  | warning => "WARNING"
  | error => "ERROR"

def Level.fileName : Level → String
  | debug => "debug.log"
  | info => "info.log"
  | warning => "warning.log"
  | error => "error.log"

/-- Every level, the least grave first. -/
def Level.all : List Level := [.debug, .info, .warning, .error]

structure Record where
  level : Level
  component : String
  message : String
  data : List (String × Json)
  deriving Repr

/-! ### Events -/

def schemaLoaded (path : String) (properties : Nat) : Record :=
  ⟨.info, "SCHEMA", "Loaded " ++ path ++ s!" ({properties} root properties)",
    [("path", .str path), ("root_properties", .int properties)]⟩

def schemaFailed (path reason : String) : Record :=
  ⟨.error, "SCHEMA", "Failed to load " ++ path ++ ": " ++ reason,
    [("path", .str path), ("reason", .str reason)]⟩

def completionRequest (line column : Int) (trigger : Option String) : Record :=
  let shown := (trigger.map Text.quoteString).getD "None"
  ⟨.debug, "ENGINE", s!"Request at {line}:{column} (trigger=" ++ shown ++ ")",
    [("line", .int line), ("character", .int column), ("trigger", Json.optional trigger)]⟩

def insertSorted (x : String) : List String → List String
  | [] => [x]
  | y :: rest => if x ≤ y then x :: y :: rest else y :: insertSorted x rest

/-- Strings in the order of their code points. -/
def sorted (xs : List String) : List String := xs.foldr insertSorted []

/-- The distinct strings of a list in the order of their code points. -/
def sortedUnique (xs : List String) : List String := sorted xs.eraseDups

/-- The place of a line was found. -/
def structuralPosition (indent : Int) (path : List String) (used : List String) : Record :=
  let parent := if path.isEmpty then "<root>" else ".".intercalate path
  ⟨.debug, "RESOLVER",
    s!"indent={indent} parent=" ++ parent ++ " used=" ++ Text.quoteList (sorted used),
    [("indent", .int indent), ("parent_path", Json.strings path)]⟩

def nodeIdentifiers (identifiers : List String) : Record :=
  ⟨.debug, "INDEX", "Node identifiers: " ++ Text.quoteList identifiers,
    [("count", .int identifiers.length)]⟩

/-- A decision was taken. -/
def dispatch (decision reason : String) : Record :=
  ⟨.debug, "DISPATCH", decision ++ ": " ++ reason,
    [("decision", .str decision), ("reason", .str reason)]⟩

def suggestions (branch : String) (count : Int) : Record :=
  ⟨.info, "ENGINE", s!"{count} suggestions (" ++ branch ++ ")",
    [("branch", .str branch), ("count", .int count)]⟩

def capitals (component : String) : String := String.ofList (Text.upper component.toList)

/-- The last line of a report on a failure: its class, and its message if there is one. -/
def failureLine (kind message : String) : String :=
  kind ++ (if message.isEmpty then "" else ": " ++ message) ++ "\n"

/-- Something went wrong; the failure that caused it may be known by class and message. -/
def error (component message : String) (failure : Option (String × String)) : Record :=
  match failure with
  | some (kind, text) =>
    ⟨.error, capitals component, "ERROR: " ++ message ++ "\n" ++ failureLine kind text,
      [("error", .str text)]⟩
  | none => ⟨.error, capitals component, "ERROR: " ++ message, [("error", .str message)]⟩

def faultMet (component message : String) (f : Fault) : Record :=
  error component message (some (f.kind, f.message))

def warning (component message : String) : Record :=
  ⟨.warning, capitals component, "WARNING: " ++ message, []⟩

/-! ### Written form -/

/-- A record as a line: the component, padded to eight characters, and the message. -/
def Record.line (r : Record) : String :=
  "[" ++ r.component ++ String.ofList (List.replicate (8 - r.component.length) ' ') ++ "] " ++
    r.message

/-- A record as an object: data of a known name take its place. -/
def Record.object (r : Record) : Json :=
  let base : List (String × Json) :=
    [("level", .str r.level.name), ("component", .str r.component), ("message", .str r.message)]
  .obj (r.data.foldl (fun acc m => Json.put m.1 m.2 acc) base)

end SchemaAssist.Log
