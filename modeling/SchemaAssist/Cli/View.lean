/-
  What the commands show.
-/
import SchemaAssist.Cli.Command
import SchemaAssist.Completion.Suggestion
import SchemaAssist.Terminal.Table
import SchemaAssist.Terminal.Tree

namespace SchemaAssist.Cli

open Completion Schema Terminal

def shownMarkup (text : String) : Except Fault (List Char) := do
  let plain ← renderMarkup text.toList
  pure (shown plain)

/-! ### Messages -/

inductive Tone where
  | success
  | warning
  | failure
  deriving DecidableEq, Repr

def Tone.style : Tone → String
  | .success => "bold green"
  | .warning => "bold yellow"
  | .failure => "bold red"

/-- A message between blank lines. -/
def messageView (tone : Tone) (text : String) : Except Fault (List Char) :=
  shownMarkup ("\n[" ++ tone.style ++ "]" ++ text ++ "[/" ++ tone.style ++ "]\n")

def versionView : Except Fault (List Char) := shownMarkup "\n[bold]archhint[/bold] v0.1.0\n"

/-! ### Candidates -/

def suggestionRow (s : Suggestion) : List String :=
  [s.label, s.kindName, Text.quoteString s.insertText, s.detail?.getD "", s.documentation?.getD ""]

def suggestionsView (title : String) (items : List Suggestion) : Except Fault (List Char) :=
  if items.isEmpty then shownMarkup "[dim]No suggestions[/dim]"
  else
    Table.render ⟨title, ["Label", "Kind", "Insert", "Detail", "Documentation"],
      items.map suggestionRow⟩

/-! ### Schema -/

def nodeLabel (n : Node) : String :=
  let base := "[cyan]" ++ n.name ++ "[/cyan] [dim]" ++ n.kindName ++ "[/dim]"
  match n with
  | .choice _ values => base ++ " [green]" ++ ", ".intercalate values ++ "[/green]"
  | _ => base

mutual

def nodeTree : Node → Tree
  | .scalar i => .node (nodeLabel (.scalar i)) []
  | .choice i vs => .node (nodeLabel (.choice i vs)) []
  | .object i ps => .node (nodeLabel (.object i [])) (nodeTrees ps)
  | .sequence i ps => .node (nodeLabel (.sequence i [])) (nodeTrees ps)

def nodeTrees : List Node → List Tree
  | [] => []
  | n :: rest => nodeTree n :: nodeTrees rest

end

def schemaView (root : Node) : Except Fault (List Char) :=
  Tree.render (.node ("[bold]" ++ root.name ++ "[/bold]") (nodeTrees root.children))

/-! ### Help -/

def definitions (entries : List (String × String)) : String :=
  let width := entries.foldl (fun w e => max w e.1.length) 0
  String.join (entries.map fun (name, text) =>
    "  " ++ name ++ String.ofList (spaces (width - name.length + 2)) ++ text ++ "\n")

def Parameter.form (p : Parameter) : String :=
  match p.kind with
  | .switch => p.name
  | .integer => p.name ++ " INTEGER"
  | .file _ => p.name ++ " FILE"
  | .directory => p.name ++ " DIRECTORY"

def programHelp : String :=
  "Usage: " ++ programName ++ " " ++ programParameters ++
    "\n\n  archhint - schema-aware completion for architecture-as-code YAML\n\nOptions:\n" ++
    definitions [(helpOption.form, helpOption.description)] ++
    "\nCommands:\n" ++ definitions (signatures.map fun s => (s.name, s.summary))

def commandHelp (s : Signature) : String :=
  "Usage: " ++ programName ++ " " ++ s.name ++ " " ++ s.parameters ++ "\n\n  " ++ s.summary ++
    "\n\nOptions:\n" ++ definitions (s.allOptions.map fun p => (p.form, p.description))

end SchemaAssist.Cli
