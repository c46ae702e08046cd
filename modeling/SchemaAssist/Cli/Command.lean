/-
  The commands of the program.
-/
import SchemaAssist.Cli.Arguments

namespace SchemaAssist.Cli

open Files

/-- Where a command finds its schema. -/
structure SchemaChoice where
  schema : Option String
  workspace : Option String
  deriving DecidableEq, Repr

inductive Command where
  | serve (choice : SchemaChoice)
  /-- Shows the candidates at a place in a file; without a column, at the end of the line. -/
  | complete (file : String) (line : Int) (column : Option Int) (newline objects : Bool)
      (choice : SchemaChoice)
  | schema (choice : SchemaChoice)
  | edit (file : String) (choice : SchemaChoice)
  | acknowledge
  | version
  deriving DecidableEq, Repr

/-! ### Signatures -/

def schemaOptions : List Parameter := [
  ⟨"--schema", .file false, false,
    "Schema file (default: $ARCHHINT_SCHEMA_PATH, workspace metadata.yaml, bundled schema)"⟩,
  ⟨"--workspace", .directory, false, "Workspace root searched for metadata.yaml"⟩]

def signatures : List Signature := [
  ⟨"architecture-as-code", "Acknowledge architecture-as-code support", none, []⟩,
  ⟨"complete", "Show completions for a position in FILE", some ("FILE", .file true), [
    ⟨"--line", .integer, true, "Cursor line (0-indexed)  [required]"⟩,
    ⟨"--character", .integer, false, "Cursor column (default: end of line)"⟩,
    ⟨"--newline", .switch, false, "Treat the request as triggered by a newline"⟩,
    ⟨"--json", .switch, false, "Print LSP-style completion items as JSON"⟩] ++ schemaOptions⟩,
  ⟨"edit", "Edit FILE with completion (Esc+Enter saves, Ctrl+C cancels)",
    some ("FILE", .file false), schemaOptions⟩,
  ⟨"schema", "Print the schema tree", none, schemaOptions⟩,
  ⟨"serve", "Run the JSON-RPC completion service on stdio", none, schemaOptions⟩,
  ⟨"version", "Show version information", none, []⟩]

def Command.ofArguments (name : String) (a : Arguments) : Command :=
  let choice : SchemaChoice := ⟨a.get? "--schema", a.get? "--workspace"⟩
  match name with
  | "serve" => .serve choice
  | "complete" =>
    .complete a.argument ((a.getInt? "--line").getD 0) (a.getInt? "--character") (a.has "--newline")
      (a.has "--json") choice
  | "schema" => .schema choice
  | "edit" => .edit a.argument choice
  | "version" => .version
  | _ => .acknowledge

/-! ### Reading a command line -/

/-- The name under which the program reports. -/
def programName : String := "main"

def programParameters : String := "[OPTIONS] COMMAND [ARGS]..."

/-- What a command line asks for. -/
inductive Invocation where
  | command (c : Command)
  | help
  | commandHelp (s : Signature)
  | mistake (name parameters : String) (m : Mistake)
  deriving DecidableEq, Repr

/-- The mistake of naming an unknown command.  A name that is written as an option is read as one.
-/
def unknownCommand (name : String) : Invocation :=
  let m : Mistake :=
    if isOption name then unknown [helpOption] name
    else .unknownCommand name (Text.closeMatches name (signatures.map (·.name)))
  .mistake programName programParameters m

def readCommand (files : Store) : List String → Invocation
  | [] => .mistake programName programParameters .noCommand
  | name :: arguments =>
    match signatures.find? (·.name == name) with
    | none => unknownCommand name
    | some s =>
      match readArguments files s arguments with
      | .ok .help => .commandHelp s
      | .ok (.run a) => .command (Command.ofArguments name a)
      | .error m => .mistake (programName ++ " " ++ s.name) s.parameters m

/-- Reads a command line; the options before the command belong to the program. -/
def readLine (files : Store) (arguments : List String) : Invocation :=
  match arguments with
  | [] => .help
  | first :: rest =>
    if first = "--" then readCommand files rest
    else if isOption first then
      let (name, value) := splitValue first
      if name = helpOption.name then
        if value.isSome then .mistake programName programParameters (.valueRefused name) else .help
      else .mistake programName programParameters (unknown [helpOption] first)
    else readCommand files arguments

end SchemaAssist.Cli
