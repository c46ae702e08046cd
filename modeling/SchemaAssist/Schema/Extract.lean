/-
  What the schema tree is built from.

  The builder goes from definition to definition and takes texts on its way.  Two things can stop it
  that are not the form of the document: a text with an integer that has too many digits, and a
  definition inside itself, which it would follow for ever.  What it reads before is put together as
  a tree, in the order in which it is read.
-/
import SchemaAssist.Schema.Build
import SchemaAssist.Yaml.Load

namespace SchemaAssist.Schema

open Yaml (Value)

/-- Entries by key, as a document has them. -/
abbrev NodeEntries := List (Value × Yaml.Node)

def nodeAt? (entries : NodeEntries) (name : String) : Option Yaml.Node :=
  (entries.find? fun e => isKey name e.1).map (·.2)

/-- The entries of a string key whose node is a mapping. -/
def entriesAt? (d : Yaml.Document) (entries : NodeEntries) (name : String) : Option NodeEntries :=
  (nodeAt? entries name).bind d.entries?

def written (v : Value) : Except Fault Value := if v.writable then .ok v else .error .shownDigits

/-- The entry of a name whose text is taken, if there is one. -/
def textEntry (d : Yaml.Document) (entries : NodeEntries) (name : String) :
    Except Fault (List (Value × Value)) :=
  match nodeAt? entries name with
  | none => .ok []
  | some n => do
    let v ← written (d.value n)
    pure [(.str name, v)]

def extractProperties (d : Yaml.Document)
    (define : NodeEntries → Except Fault (List (Value × Value))) :
    NodeEntries → Except Fault (List (Value × Value))
  | [] => .ok []
  | (k, n) :: rest => do
    let name ← written k
    let definition ←
      match d.entries? n with
      | none => pure Value.null
      | some entries => do pure (.map (← define entries))
    let more ← extractProperties d define rest
    pure ((name, definition) :: more)

/-- A definition, at most `fuel` deep. -/
def extractDefinition (d : Yaml.Document) : Nat → NodeEntries → Except Fault (List (Value × Value))
  | 0, _ => .error .recursion
  | fuel + 1, entries => do
    let type ← textEntry d entries "type"
    let description ← textEntry d entries "description"
    let texts := type ++ description
    match (nodeAt? entries "enum").bind d.items? with
    | some items => do
      let values ← items.mapM written
      pure (texts ++ [(.str "enum", .seq values)])
    | none =>
      match entriesAt? d entries "properties" with
      | some properties => do
        let inner ← extractProperties d (extractDefinition d fuel) properties
        pure (texts ++ [(.str "properties", .map inner)])
      | none =>
        if type.any (·.2.text = "object") then pure texts
        else match (entriesAt? d entries "items").bind fun items =>
          entriesAt? d items "properties" with
          | some properties => do
            let inner ← extractProperties d (extractDefinition d fuel) properties
            pure (texts ++ [(.str "items", .map [(.str "properties", .map inner)])])
          | none => pure texts

/-- What is read of a document. -/
def extract : Option Yaml.Document → Except Fault Value
  | none => .ok .null
  | some d =>
    match d.entries? d.root with
    | none => .ok .null
    | some top =>
      match entriesAt? d top rootName with
      | none => .ok (.map [])
      | some spec =>
        match entriesAt? d spec "properties" with
        | none => .ok (.map [])
        | some properties => do
          let description ← textEntry d spec "description"
          -- A descent that is longer than the document comes back to where it was.
          let inner ← extractProperties d (extractDefinition d (d.size + 1)) properties
          pure (.map [(.str rootName, .map (description ++ [(.str "properties", .map inner)]))])

end SchemaAssist.Schema
