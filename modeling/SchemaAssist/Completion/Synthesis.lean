/-
  The candidates for one cursor.

  After a colon the values of the property are offered: the choices of the schema, or the declared
  node identifiers for either end of a relationship.  Elsewhere the properties of the enclosing node
  are offered that are not used yet and whose name starts with what was typed, ignoring case.  Right
  below the key of a sequence only the element marker makes sense.
-/
import SchemaAssist.Completion.Placement
import SchemaAssist.Completion.Suggestion
import SchemaAssist.Fault
import SchemaAssist.Text.Case

namespace SchemaAssist.Completion

open Document Schema Text

def relationshipsKey : String := "Relationships"

def referenceFields : List String := ["Start", "End"]

def matchesTyped (name : String) (typed : List Char) : Bool :=
  typed.isEmpty || (lower typed).isPrefixOf (lower name.toList)

def valueSuggestions (schema : Option Node) (place : Placement) (property : String)
    (identifiers : List String) : List Suggestion :=
  if place.block? = some relationshipsKey ∧ property ∈ referenceFields then
    identifiers.map .value
  else match lookup? schema (place.path.getD [] ++ [property]) with
    | some (.choice _ values) => values.map .value
    | _ => []

def propertySuggestions (scope : Node) (used : List String) (typed : List Char) : List Suggestion :=
  (scope.children.filter fun n => !used.contains n.name && matchesTyped n.name typed).map .ofNode

def rootSuggestions (root : Node) (place : Placement) (declared : List String) (typed : List Char) :
    List Suggestion :=
  propertySuggestions root (declared ++ place.usedKeys) typed

/-- Whether the cursor stands on the first line of a sequence that has no element yet. -/
def opensSequence (doc : Document) (p : Position) (place : Placement) : Bool :=
  (trim (doc.lineAt p.line)).head? != some '-' &&
    (if 0 < p.line then key? (doc.lineAt (p.line - 1)) else none) == place.block?

/-- What a cursor asks for. -/
inductive Request where
  | values (property : String)
  | properties (typed : List Char)
  deriving DecidableEq, Repr

/-- What the text before a cursor asks for: values after a colon, properties otherwise. -/
def Request.ofTyped (before : List Char) : Request :=
  match (trimEnd before).reverse with
  | ':' :: rest => .values (String.ofList (stripMarker (trim rest.reverse)))
  | _ => .properties (trim before)

/-- The candidates for one cursor.  At the root a schema must be present. -/
def synthesize (doc : Document) (p : Position) (schema : Option Node) (place : Placement)
    (identifiers declared : List String) : Except Fault (List Suggestion) :=
  match Request.ofTyped (doc.textBefore p) with
  | .values property => .ok (valueSuggestions schema place property identifiers)
  | .properties typed =>
    match place.path with
    | none =>
      match schema with
      | some root => .ok (rootSuggestions root place declared typed)
      | none => .error .noSchema
    | some path =>
      match lookup? schema path with
      | some (.sequence i ps) =>
        if opensSequence doc p place then .ok [.marker]
        else .ok (propertySuggestions (.sequence i ps) place.usedKeys typed)
      | some (.object i ps) => .ok (propertySuggestions (.object i ps) place.usedKeys typed)
      | _ => .ok []

end SchemaAssist.Completion
