/-
  The command line.

  The files a command line may touch are read beforehand, the program runs on them as a function,
  and what it changed is written back.  Only the service answers while its input still arrives.
-/
import SchemaAssist.Cli.Program
import Std.Time

namespace SchemaAssist.Cli

open Files

/-! ### Reading the world -/

def probe (path : String) : IO (Option Entry) := do
  try
    let bytes ← IO.FS.readBinFile path
    return some (.file bytes.toList)
  catch e =>
    match e with
    | .inappropriateType .. => return some .directory
    | _ => return none

def readPath (s : Store) (text : String) : IO Store := do
  let path := Path.ofString text
  let mut store := s
  for n in List.range path.parts.length do
    let part : Path := ⟨path.root, path.parts.take (n + 1)⟩
    match ← probe part.render with
    | some entry => store := store.set (part.place s.home) entry
    | none => pure ()
  return store

def readEnvironment : IO Environment := do
  let names :=
    ["ARCHHINT_SCHEMA_PATH", "ARCHHINT_LOG_LEVEL", "ARCHHINT_LOG_DIR", "ARCHHINT_LOG_JSON",
    "ARCHHINT_LOGGING"]
  names.filterMapM fun name => do
    return (← IO.getEnv name).map fun value => (name, value)

def mentionedPaths (environment : Environment) (arguments : List String) (date : String) :
    List String :=
  let values := arguments ++ arguments.filterMap fun a => (splitValue a).2
  let logs :=
    (Log.Router.defaultDirectory date).render :: (environment.get? "ARCHHINT_LOG_DIR").toList
  values ++ values.map (· ++ "/" ++ workspaceSchemaName) ++
    (environment.get? "ARCHHINT_SCHEMA_PATH").toList ++
    logs.flatMap fun directory => Log.Level.all.map fun level => directory ++ "/" ++ level.fileName

/-! ### Writing back -/

def writeFiles (before after : Store) : IO Unit := do
  for (place, entry) in after.entries.reverse do
    unless before.entry? place = some entry do
      let path := Path.renderPlace place
      match entry with
      | .directory => IO.FS.createDirAll path
      | .file bytes => IO.FS.writeBinFile path ⟨bytes.toArray⟩

def writeLog (log : Log.Router) : IO Unit := do
  let now ← Std.Time.PlainDateTime.now
  for (file, written) in log.written do
    let line := match written with
      | .line text => now.format "HH:mm:ss" ++ " " ++ text
      | .object value =>
        (Json.obj (("time", .str (now.format "uuuu-MM-dd'T'HH:mm:ss")) ::
          (match value with
            | .obj members => members
            | _ => []))).render
    let handle ← IO.FS.Handle.mk (Path.renderPlace file) .append
    handle.putStrLn line

/-! ### Running -/

/-- Answers each line of the input as it arrives: what ended the loop early, and the session. -/
partial def serveLines (s : Session) : IO (Option Fault × Session) := do
  let line ← (← IO.getStdin).getLine
  if line.isEmpty then return (none, s)
  let (answer, next) := s.line line
  for message in next.router.console.drop s.router.console.length do
    IO.eprintln message
  match answer with
  | .ok none => serveLines next
  | .ok (some value) =>
    let output ← IO.getStdout
    output.putStrLn value.render
    output.flush
    serveLines next
  | .error f => return (some f, next)

def serveInput (s : Session) : IO Report := do
  let (failure, s) ← serveLines (s.log Service.startRecord)
  let report := Report.ofSession (s.log Service.stopRecord) 0 (.ok [])
  let exitCode := if failure.isSome then 1 else 0
  return { report with errors := "", failure := failure, exitCode := exitCode }

def conclude (before : Store) (r : Report) : IO UInt32 := do
  writeFiles before r.files
  writeLog r.log
  IO.print r.output
  IO.eprint r.errors
  if let some f := r.failure then IO.eprintln (f.kind ++ ": " ++ f.message)
  return UInt32.ofNat r.exitCode

end SchemaAssist.Cli

open SchemaAssist Cli in
def main (arguments : List String) : IO UInt32 := do
  let environment ← readEnvironment
  let date := (← Std.Time.PlainDateTime.now).format "uuuu-MM-dd"
  let home := (Files.Path.ofString (← IO.currentDir).toString).parts
  let files ← (mentionedPaths environment arguments date).foldlM readPath ⟨home, []⟩
  let world : World := ⟨files, environment, date, "", []⟩
  match readLine files arguments with
  | .command (.serve choice) =>
    match openSession world choice with
    | (some f, s) => conclude files (Report.ofSession s 1 (.error f))
    | (none, s) => conclude files (← serveInput s)
  | .command (.edit ..) =>
    let input ← (← IO.getStdin).readToEnd
    conclude files (run { world with keys := Editor.Key.decode input.toList } arguments)
  | _ => conclude files (run world arguments)
