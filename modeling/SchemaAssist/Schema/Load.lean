/-
  Loading a schema from a file.

  A file that is missing, unreadable, not UTF-8, not valid YAML or not a schema document is a load
  error.  Whatever else goes wrong is a fault, which is not contained: in the decoding, for which
  any decoder may stand, or in what is built from the decoded document.
-/
import SchemaAssist.Files.Store
import SchemaAssist.Log.Record
import SchemaAssist.Schema.Build
import SchemaAssist.Schema.Bundled
import SchemaAssist.Schema.Extract

namespace SchemaAssist.Schema

open Files

inductive Source where
  | bundled
  | file (path : Path)
  deriving DecidableEq, Repr, Inhabited

def Source.render : Source → String
  | bundled => "<bundled>"
  | file path => path.render

inductive LoadError where
  | notFound (path : String)
  | unreadable (path : String) (cause : Fault)
  | notUtf8 (path : String) (error : Text.Utf8Error)
  | invalidYaml (path : String) (problem : Yaml.Problem) (line column : Nat)
  | malformed (reason : Malformed)
  deriving DecidableEq, Repr

def LoadError.message : LoadError → String
  | notFound path => "Schema file not found: " ++ path
  | unreadable path cause => "Cannot read schema file " ++ path ++ ": " ++ cause.message
  | notUtf8 path error => "Schema file " ++ path ++ " is not valid UTF-8: " ++ error.message
  | invalidYaml path problem line column =>
    "Invalid YAML in schema file " ++ path ++ ": " ++ problem.message ++
      s!" (line {line + 1}, column {column + 1})"
  | malformed reason => reason.message

inductive LoadFailure where
  | error (e : LoadError)
  | fault (f : Fault)
  deriving DecidableEq, Repr

abbrev Decoder := List UInt8 → Except Yaml.Error (Option Yaml.Document)

def ofDocument (document : Option Yaml.Document) : Except LoadFailure Built :=
  match extract document with
  | .error f => .error (.fault f)
  | .ok data =>
    match build data with
    | .error reason => .error (.error (.malformed reason))
    | .ok built => .ok built

/-- The schema of the bytes of a file with the given name. -/
def ofBytes (decode : Decoder) (name : String) (bytes : List UInt8) : Except LoadFailure Built :=
  match decode bytes with
  | .error (.invalid problem line column) => .error (.error (.invalidYaml name problem line column))
  | .error (.undecodable e) => .error (.error (.notUtf8 name e))
  | .error (.fault f) => .error (.fault f)
  | .ok document => ofDocument document

/-- Why a path that leads to no file cannot be opened. -/
def openFailure (path : Path) (found : Found) : LoadFailure :=
  if path.nameable then
    .error (match found with
      | .directory => .unreadable path.render (.isDirectory path.render)
      | .blocked => .unreadable path.render (.notDirectory path.render)
      | _ => .notFound path.render)
  else .fault .nullByte

def loadWith (decode : Decoder) (files : Store) : Source → Except LoadFailure Built
  | .bundled => ofBytes decode Source.bundled.render bundledText.toUTF8.toList
  | .file path =>
    match files.find path with
    | .file bytes => ofBytes decode path.render bytes
    | found => .error (openFailure path found)

def load (files : Store) (source : Source) :
    Except LoadFailure Built := loadWith Yaml.decode files source

def Built.warnings (b : Built) : List Log.Record :=
  b.skipped.map fun name => Log.warning "SCHEMA" ("Skipping malformed property " ++ name)

def Built.records (b : Built) (source : Source) : List Log.Record :=
  b.warnings ++ [Log.schemaLoaded source.render b.root.children.length]

end SchemaAssist.Schema
