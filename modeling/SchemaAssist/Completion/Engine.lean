/-
  A completion session.

  The schema is the only thing kept between requests.  It is loaded when it is first needed; once a
  load has failed no other is tried until the session is reset.
-/
import SchemaAssist.Completion.References
import SchemaAssist.Completion.Synthesis
import SchemaAssist.Completion.Trigger
import SchemaAssist.Schema.Load

namespace SchemaAssist.Completion

open Files Schema

inductive Cache where
  | unloaded
  | loaded (root : Node)
  | failed
  deriving Repr

def Cache.root? : Cache → Option Node
  | loaded root => some root
  | _ => none

structure Engine where
  source : Source
  triggers : List String
  cache : Cache
  requests : Nat
  deriving Repr

namespace Engine

def start (source : Source) (triggers : List String) : Engine := ⟨source, triggers, .unloaded, 0⟩

/-- A new session on a schema that is already built. -/
def ofSchema (root : Node) (triggers : List String) :
    Engine := ⟨.bundled, triggers, .loaded root, 0⟩

def reset (e : Engine) : Engine := { e with cache := .unloaded }

/-- The schema of a session, loaded now if need be; with what is logged meanwhile. -/
def ensureSchema (files : Store) (e : Engine) :
    Except Fault (Option Node) × Engine × List Log.Record :=
  match e.cache with
  | .loaded root => (.ok (some root), e, [])
  | .failed => (.ok none, e, [])
  | .unloaded =>
    match Schema.load files e.source with
    | .ok built =>
      (.ok (some built.root), { e with cache := .loaded built.root }, built.records e.source)
    | .error (.error err) =>
      (.ok none, { e with cache := .failed }, [Log.schemaFailed e.source.render err.message])
    | .error (.fault f) => (.error f, e, [])

/-- The place of a cursor, what is offered there, and what is logged about it. -/
def candidates (root : Node) (doc : Document) (p : Position) :
    Except Fault (List Suggestion) × List Log.Record :=
  let place := placement doc p.line (some root)
  let identifiers := nodeIdentifiers doc
  let declared := declaredNames doc (root.children.map (·.name))
  let path := place.path.getD []
  let found := [Log.structuralPosition place.indent path (Log.sortedUnique place.usedKeys),
    Log.nodeIdentifiers identifiers]
  match synthesize doc p (some root) place identifiers declared with
  | .ok items =>
    let branch := if path.isEmpty then "<root>" else ".".intercalate path
    (.ok items, found ++ [Log.suggestions branch items.length])
  | .error f => (.error f, found)

def completeOn (root : Node) (text : String) (p : Position) (trigger : Option String) :
    Except Fault (List Suggestion) × List Log.Record :=
  let doc := Document.ofText text
  let inside := doc.clamp p
  let target := targetPosition doc inside trigger (some root)
  let (items, records) := candidates root doc (doc.clamp target)
  (items, targetRecords doc inside trigger (some root) ++ records)

/-- The candidates for a cursor.  A failure is logged and leaves nothing to offer. -/
def complete (files : Store) (e : Engine) (text : String) (p : Position) (trigger : Option String) :
    List Suggestion × Engine × List Log.Record :=
  let e : Engine := { e with requests := e.requests + 1 }
  let asked := [Log.completionRequest p.line p.column trigger]
  let failed (f : Fault) : Log.Record := Log.faultMet "ENGINE" "Completion failed" f
  if accepts e.triggers trigger then
    match e.ensureSchema files with
    | (.error f, e, records) => ([], e, asked ++ records ++ [failed f])
    | (.ok none, e, records) => ([], e, asked ++ records)
    | (.ok (some root), e, records) =>
      match completeOn root text p trigger with
      | (.ok items, more) => (items, e, asked ++ records ++ more)
      | (.error f, more) => ([], e, asked ++ records ++ more ++ [failed f])
  else ([], e, asked)

def completeOnNewline (files : Store) (e : Engine) (text : String) (p : Position) :
    List Suggestion × Engine × List Log.Record :=
  e.complete files text p (some newline)

def acknowledgement : String := "Architecture as code smart-hint support!"

def acknowledgeRecords : List Log.Record := [Log.dispatch "command" "acknowledgement requested"]

def stats (e : Engine) : Json :=
  .obj [("schema_path", .str e.source.render), ("schema_loaded", .bool e.cache.root?.isSome),
    ("schema_failed", .bool (match e.cache with | .failed => true | _ => false)),
    ("requests", .int e.requests)]

end Engine

end SchemaAssist.Completion
