/-
  The program: what a command line does to the world around it.

  A run is a function from the files, the environment and the input to the output, the exit code and
  the files afterwards.
-/
import SchemaAssist.Cli.View
import SchemaAssist.Editor.Buffer
import SchemaAssist.Session

namespace SchemaAssist.Cli

open Completion Files Schema

/-- What a run finds. -/
structure World where
  files : Store
  environment : Environment
  date : String
  input : String
  keys : List Editor.Key

/-- What a run leaves. -/
structure Report where
  exitCode : Nat
  output : String
  errors : String
  /-- The failure that ended the run. -/
  failure : Option Fault
  files : Store
  log : Log.Router

namespace Report

def consoleText (log : Log.Router) : String := String.join (log.console.map (· ++ "\n"))

def ofSession (s : Session) (exitCode : Nat) (output : Except Fault (List Char)) : Report :=
  match output with
  | .ok text => ⟨exitCode, String.ofList text, consoleText s.router, none, s.files, s.router⟩
  | .error f => ⟨1, "", consoleText s.router, some f, s.files, s.router⟩

end Report

/-- The source of the schema: the one named on the command line, else the one of the settings. -/
def SchemaChoice.source (c : SchemaChoice) (settings : Settings) : Source :=
  match c.schema.filter (!·.isEmpty) with
  | some path => .file (Path.ofString path)
  | none => settings.schema

def openSession (w : World) (c : SchemaChoice) : Option Fault × Session :=
  let settings := Settings.ofEnvironment w.files w.environment c.workspace
  (Session.start w.files (c.source settings) defaultTriggers).configure w.date settings.logOptions

def withSession (w : World) (c : SchemaChoice) (body : Session → Report) : Report :=
  match openSession w c with
  | (some f, s) => Report.ofSession s 1 (.error f)
  | (none, s) => body s

def plainReport (w : World) (exitCode : Nat) (output : Except Fault (List Char)) : Report :=
  Report.ofSession ⟨w.files, Engine.start .bundled defaultTriggers,
    Log.Router.unconfigured⟩ exitCode output

/-- The text of a file, with every line ending as a line feed. -/
def readText (bytes : List UInt8) : Except Fault (List Char) :=
  match Text.decodeUtf8 bytes with
  | .ok text => .ok (Text.universalNewlines text)
  | .error e => .error (.undecodable e)

/-- The length of a line of a text; zero for a line that it does not have. -/
def lineLength (text : List Char) (line : Int) : Nat :=
  if line < 0 then 0 else ((Text.splitAt '\n' text).getD line.toNat []).length

/-! ### Commands -/

/-- Answers the requests of the input. -/
def serve (w : World) (s : Session) : Report :=
  let (text, failure, s) := s.run (String.ofList (Text.universalNewlines w.input.toList))
  { Report.ofSession s (if failure.isSome then 1 else 0) (.ok text.toList) with failure := failure }

def complete (s : Session) (file : String) (line : Int) (column : Option Int)
    (newline objects : Bool) :
    Report :=
  match s.files.find (Path.ofString file) with
  | .file bytes =>
    match readText bytes with
    | .error f => Report.ofSession s 1 (.error f)
    | .ok text =>
      let column := column.getD (lineLength text line)
      let trigger := if newline then some Completion.newline else none
      let (items, s) := s.complete (String.ofList text) ⟨line, column⟩ trigger
      Report.ofSession s 0
        (if objects then .ok ((Service.itemsJson items).renderIndented.toList ++ ['\n'])
        else suggestionsView (file ++ s!":{line}:{column}") items)
  | .directory => Report.ofSession s 1 (.error (.isDirectory (Path.ofString file).render))
  | .missing => Report.ofSession s 1 (.error (.noSuchFile (Path.ofString file).render))
  | .blocked => Report.ofSession s 1 (.error (.notDirectory (Path.ofString file).render))

/-- Shows the schema; nothing is logged to files. -/
def showSchema (w : World) (c : SchemaChoice) : Report :=
  let settings := Settings.ofEnvironment w.files w.environment c.workspace
  let s := Session.start w.files (c.source settings) defaultTriggers
  match load w.files s.engine.source with
  | .ok built =>
    Report.ofSession { s with router := s.router.logAll built.warnings } 0 (schemaView built.root)
  | .error (.error e) => Report.ofSession s 1 (messageView .failure e.message)
  | .error (.fault f) => Report.ofSession s 1 (.error f)

def editedText (files : Store) (p : Path) : Except Fault (List Char) :=
  match files.find p with
  | .file bytes => readText bytes
  | .directory => .error (.isDirectory p.render)
  | .missing | .blocked => .ok []

def editFile (w : World) (s : Session) (file : String) : Report :=
  let path := Path.ofString file
  match editedText s.files path with
  | .error f => Report.ofSession s 1 (.error f)
  | .ok text =>
    match Editor.edit (Editor.Buffer.start s text) w.keys with
    | (.cancelled, s) => Report.ofSession s 0 (messageView .warning "Edit cancelled, nothing saved")
    | (.saved text, s) =>
      match s.files.overwrite path (String.ofList text).toUTF8.toList with
      | .error f => Report.ofSession s 1 (.error f)
      | .ok files =>
        Report.ofSession { s with files := files } 0
          (messageView .success ("Saved " ++ path.render))

def Command.run (w : World) : Command → Report
  | .serve c => withSession w c (Cli.serve w)
  | .complete file line column newline objects c =>
    withSession w c fun s => Cli.complete s file line column newline objects
  | .schema c => showSchema w c
  | .edit file c => withSession w c fun s => editFile w s file
  | .acknowledge => plainReport w 0 (shownMarkup Engine.acknowledgement)
  | .version => plainReport w 0 versionView

/-- Runs a command line.  Without arguments the help counts as an error. -/
def run (w : World) (arguments : List String) : Report :=
  match readLine w.files arguments with
  | .command c => c.run w
  | .help =>
    if arguments.isEmpty then { plainReport w 2 (.ok []) with errors := programHelp }
    else plainReport w 0 (.ok programHelp.toList)
  | .commandHelp s => plainReport w 0 (.ok (commandHelp s).toList)
  | .mistake name parameters m =>
    { plainReport w 2 (.ok []) with errors := m.report name parameters }

end SchemaAssist.Cli
