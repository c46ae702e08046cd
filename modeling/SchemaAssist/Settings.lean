/-
  Settings from the environment.
-/
import SchemaAssist.Log.Router
import SchemaAssist.Schema.Load

namespace SchemaAssist

open Files Schema

abbrev Environment := List (String × String)

def Environment.get? (env : Environment) (name : String) : Option String :=
  (env.find? (·.1 == name)).map (·.2)

def workspaceSchemaName : String := "metadata.yaml"

/-- Picks the schema: an explicit path, then the file of the workspace, then the bundled one. -/
def pickSchema (files : Store) (explicit workspace : Option String) : Source :=
  match explicit.filter (!·.isEmpty), workspace.filter (!·.isEmpty) with
  | some path, _ => .file (Path.ofString path)
  | none, some root =>
    let candidate := (Path.ofString root).child workspaceSchemaName
    if files.isFile candidate then .file candidate else .bundled
  | none, none => .bundled

structure Settings where
  schema : Source
  logLevel : String
  logDirectory : Option String
  logObjects : Bool
  logging : Bool
  deriving DecidableEq, Repr

namespace Settings

def isTrue (env : Environment) (name : String) : Bool :=
  (env.get? name).any fun v => Text.lower v.toList == "true".toList

def ofEnvironment (files : Store) (env : Environment) (workspace : Option String) : Settings where
  schema := pickSchema files (env.get? "ARCHHINT_SCHEMA_PATH") workspace
  logLevel := (env.get? "ARCHHINT_LOG_LEVEL").getD "INFO"
  logDirectory := env.get? "ARCHHINT_LOG_DIR"
  logObjects := isTrue env "ARCHHINT_LOG_JSON"
  logging := isTrue env "ARCHHINT_LOGGING"

def logOptions (s : Settings) : Log.Router.Options :=
  { level := s.logLevel, directory := s.logDirectory, objects := s.logObjects,
    enabled := s.logging }

end Settings

end SchemaAssist
