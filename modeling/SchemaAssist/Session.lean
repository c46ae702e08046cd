/-
  A session with everything it touches: the files, the engine and the log.
-/
import SchemaAssist.Service.Handler
import SchemaAssist.Settings

namespace SchemaAssist

open Completion Files Log Schema

structure Session where
  files : Store
  engine : Engine
  router : Router
  deriving Repr

namespace Session

/-- A new session whose log is not configured. -/
def start (files : Store) (source : Source) (triggers : List String) : Session :=
  ⟨files, Engine.start source triggers, Router.unconfigured⟩

/-- Takes over an engine and logs records. -/
def advance (s : Session) (e : Engine) (records : List Record) : Session :=
  { s with engine := e, router := s.router.logAll records }

def log (s : Session) (r : Record) : Session := { s with router := s.router.log r }

def complete (s : Session) (text : String) (p : Position) (trigger : Option String) :
    List Suggestion × Session :=
  let (items, e, records) := s.engine.complete s.files text p trigger
  (items, s.advance e records)

/-- The schema, loaded if need be. -/
def schema (s : Session) : Except Fault (Option Node) × Session :=
  let (root, e, records) := s.engine.ensureSchema s.files
  (root, s.advance e records)

def reset (s : Session) : Session := { s with engine := s.engine.reset }

def acknowledge (s : Session) : String × Session :=
  (Engine.acknowledgement, s.advance s.engine Engine.acknowledgeRecords)

def request (s : Session) (r : Json) : Except Fault Json × Session :=
  let (answer, e, records) := Service.handleRequest s.files s.engine r
  (answer, s.advance e records)

def line (s : Session) (text : String) : Except Fault (Option Json) × Session :=
  let (answer, e, records) := Service.handleLine s.files s.engine text.toList
  (answer, s.advance e records)

/-- Runs the service on its whole input: what it writes, and what ended it early. -/
def run (s : Session) (input : String) : String × Option Fault × Session :=
  let r := Service.run s.files s.engine input.toList
  (r.text, r.failure, s.advance r.engine r.records)

def configure (s : Session) (date : String) (o : Router.Options) : Option Fault × Session :=
  let (router, files, failure) := s.router.configure s.files date o
  (failure, { s with router := router, files := files })

end Session

end SchemaAssist
