/-
  The schema tree of a metadata document.

  The document has a mapping `spec.properties`.  Each of its entries that is a mapping defines a
  property: a list under `enum` makes it a choice, a mapping under `properties` (or the type
  `object`) an object, a mapping under `items.properties` a sequence, and anything else a plain
  value.  An entry that is no mapping is skipped with a warning.  Of several entries of one name the
  last counts, in the place of the first.
-/
import SchemaAssist.Schema.Node
import SchemaAssist.Yaml.Value

namespace SchemaAssist.Schema

open Yaml (Value)

def textOf (definition : Value) (name : String) :
    String := ((definition.get? name).map (·.text)).getD ""

/-- Whether a key is the given string. -/
def isKey (name : String) : Value → Bool
  | .str s => s == name
  | _ => false

/-- The first of two texts that is not empty. -/
def orElse (text fallback : String) : String := if text.isEmpty then fallback else text

/-- Puts a node in the place of the one of the same name, or at the end. -/
def place (nodes : List Node) (n : Node) : List Node :=
  if nodes.any (·.name == n.name) then nodes.map fun m => if m.name == n.name then n else m
  else nodes ++ [n]

/-- Keeps one node for each name: the last, in the place of the first. -/
def collapse (nodes : List Node) : List Node := nodes.foldl place []

/-- A node of the shape its definition asks for.  `nested` and `element` are the nodes of its
`properties` and `items.properties`, where these are mappings. -/
def assemble (name : String) (definition : Value) (nested element : Option (List Node)) : Node :=
  let typeName := textOf definition "type"
  let description := textOf definition "description"
  match definition.get? "enum" with
  | some (.seq values) => .choice ⟨name, typeName, description⟩ (values.map (·.text))
  | _ =>
    match nested, element with
    | some ps, _ => .object ⟨name, orElse typeName "object", description⟩ ps
    | none, element =>
      if typeName = "object" then .object ⟨name, typeName, description⟩ []
      else match element with
        | some ps => .sequence ⟨name, orElse typeName "array", description⟩ ps
        | none => .scalar ⟨name, typeName, description⟩

mutual

def definedNodes : List (Value × Value) → List Node
  | [] => []
  | (k, .map entries) :: rest =>
    assemble k.text (.map entries) (propertiesIn entries) (elementIn entries) :: definedNodes rest
  | _ :: rest => definedNodes rest

/-- The nodes of the entry `properties`, if it is a mapping. -/
def propertiesIn : List (Value × Value) → Option (List Node)
  | [] => none
  | (k, v) :: rest =>
    if isKey "properties" k then
      match v with
      | .map entries => some (collapse (definedNodes entries))
      | _ => none
    else propertiesIn rest

/-- The nodes of the entry `items.properties`, if it is a mapping. -/
def elementIn : List (Value × Value) → Option (List Node)
  | [] => none
  | (k, v) :: rest =>
    if isKey "items" k then
      match v with
      | .map entries => propertiesIn entries
      | _ => none
    else elementIn rest

end

def dotted (parent : String) (key : Value) : String := parent ++ "." ++ key.text

mutual

/-- The dotted names of the entries that are skipped, in the order in which they are met. -/
def skippedIn (parent : String) : List (Value × Value) → List String
  | [] => []
  | (k, .map entries) :: rest =>
    (match (Value.map entries).get? "enum" with
      | some (.seq _) => []
      | _ =>
        match skippedProperties (dotted parent k) entries with
        | some names => names
        | none =>
          if textOf (.map entries) "type" = "object" then []
          else (skippedElement (dotted parent k) entries).getD []) ++
      skippedIn parent rest
  | (k, _) :: rest => dotted parent k :: skippedIn parent rest

/-- The skipped entries below `properties`, if it is a mapping. -/
def skippedProperties (parent : String) : List (Value × Value) → Option (List String)
  | [] => none
  | (k, v) :: rest =>
    if isKey "properties" k then
      match v with
      | .map entries => some (skippedIn parent entries)
      | _ => none
    else skippedProperties parent rest

/-- The skipped entries below `items.properties`, if it is a mapping. -/
def skippedElement (parent : String) : List (Value × Value) → Option (List String)
  | [] => none
  | (k, v) :: rest =>
    if isKey "items" k then
      match v with
      | .map entries => skippedProperties parent entries
      | _ => none
    else skippedElement parent rest

end

def rootName : String := "spec"

inductive Malformed where
  | notMapping
  | noProperties
  deriving DecidableEq, Repr

def Malformed.message : Malformed → String
  | notMapping => "Schema document must be a mapping"
  | noProperties => "Schema document has no 'spec.properties' mapping"

/-- A schema and the dotted names of the entries that were skipped. -/
structure Built where
  root : Node
  skipped : List String
  deriving Repr

def build (data : Value) : Except Malformed Built :=
  match data with
  | .map _ =>
    match data.get? rootName with
    | some (.map spec) =>
      match (Value.map spec).get? "properties" with
      | some (.map entries) =>
        let info : Info := ⟨rootName, "object", textOf (.map spec) "description"⟩
        .ok ⟨.object info (collapse (definedNodes entries)), skippedIn rootName entries⟩
      | _ => .error .noProperties
    | _ => .error .noProperties
  | _ => .error .notMapping

end SchemaAssist.Schema
