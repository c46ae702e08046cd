/-
  The completion service.

  Every line of input that is not blank is one request and gets one answer.  A request that cannot
  be served is answered by an error and leaves the session as it was; the two exceptions that end
  the service are a method that is a list or an object, and an integer with too many digits.
-/
import SchemaAssist.Completion.Engine
import SchemaAssist.Service.Message
import SchemaAssist.Service.Params

namespace SchemaAssist.Service

open Completion Files

/-- A candidate as the editor protocol wants it. -/
def itemJson (s : Suggestion) : Json :=
  .obj ([("label", .str s.label), ("kind", .int s.kindNumber), ("insertText", .str s.insertText)] ++
    (s.detail?.map fun d => ("detail", Json.str d)).toList ++
    (s.documentation?.map fun d => ("documentation", Json.str d)).toList ++
    (if s.followUp then
      [("command", .obj [("command", .str "editor.action.triggerSuggest"),
        ("title", .str "Suggest")])]
    else []))

def itemsJson (items : List Suggestion) : Json := .arr (items.map itemJson)

def plainText : Json → String
  | .null => "None"
  | .bool b => if b then "True" else "False"
  | .int n => toString n
  | .float x => String.ofList x.render
  | .str s => s
  | .arr _ | .obj _ => ""

inductive Method where
  | provideCompletions
  | provideCompletionsOnNewline
  | architectureAsCode
  | reloadSchema
  | getStats
  | ping
  deriving DecidableEq, Repr

def Method.name : Method → String
  | provideCompletions => "provideCompletions"
  | provideCompletionsOnNewline => "provideCompletionsOnNewline"
  | architectureAsCode => "architectureAsCode"
  | reloadSchema => "reloadSchema"
  | getStats => "getStats"
  | ping => "ping"

def Method.all : List Method :=
  [.provideCompletions, .provideCompletionsOnNewline, .architectureAsCode, .reloadSchema, .getStats,
    .ping]

def Method.ofName? (name : String) : Option Method := Method.all.find? (·.name == name)

/-- What a session answers, the session after it, and what is logged. -/
abbrev Answer (α : Type) := α × Engine × List Log.Record

inductive MethodError where
  | params (reason : InvalidParams)
  | fault (fault : Fault)
  deriving DecidableEq, Repr

def serveCompletions (files : Store) (e : Engine) (params : Json)
    (trigger : CompletionParams → Option String) :
    Answer (Except MethodError Json) :=
  match readParams params with
  | .error (.invalid reason) => (.error (.params reason), e, [])
  | .error (.fault f) => (.error (.fault f), e, [])
  | .ok p =>
    let (items, e, records) := e.complete files p.content p.position (trigger p)
    (.ok (.obj [("items", itemsJson items)]), e, records)

def call (files : Store) (e : Engine) (params : Json) : Method → Answer (Except MethodError Json)
  | .provideCompletions => serveCompletions files e params (·.trigger)
  | .provideCompletionsOnNewline => serveCompletions files e params fun _ => some newline
  | .architectureAsCode =>
    (.ok (.obj [("message", .str Engine.acknowledgement)]), e, Engine.acknowledgeRecords)
  | .reloadSchema =>
    match e.reset.ensureSchema files with
    | (.ok root, e, records) =>
      (.ok (.obj [("status", .str "ok"), ("schema_loaded", .bool root.isSome)]), e, records)
    | (.error f, e, records) => (.error (.fault f), e, records)
  | .getStats => (.ok e.stats, e, [])
  | .ping => (.ok (.obj [("status", .str "ok")]), e, [])

/-- The parameters of a request; whatever counts as absent is an empty object. -/
def paramsOf (request : Json) : Json :=
  match request.get? "params" with
  | some p => if p.isEmpty then .obj [] else p
  | none => .obj []

def serve (files : Store) (e : Engine) (request : Json) (m : Method) : Answer Json :=
  let id := (request.get? "id").getD .null
  match call files e (paramsOf request) m with
  | (.ok result, e, records) => (resultMessage result id, e, records)
  | (.error (.params reason), e, records) =>
    (errorAnswer .invalidParams reason.message id, e, records)
  | (.error (.fault f), e, records) =>
    (errorAnswer .internal f.message id, e,
      records ++ [Log.faultMet "SERVICE" ("Error handling " ++ m.name) f])

def handleRequest (files : Store) (e : Engine) (request : Json) : Answer (Except Fault Json) :=
  match request with
  | .obj _ =>
    let id := (request.get? "id").getD .null
    let unknown (method : Json) : Json :=
      errorAnswer .methodNotFound ("Method not found: " ++ plainText method) id
    match (request.get? "method").getD .null with
    | .arr _ => (.error (.unhashable "list"), e, [])
    | .obj _ => (.error (.unhashable "dict"), e, [])
    | .str name =>
      match Method.ofName? name with
      | some m =>
        let (answer, e, records) := serve files e request m
        (.ok answer, e, records)
      | none => (.ok (unknown (.str name)), e, [])
    | method => (.ok (unknown method), e, [])
  | _ => (.ok (errorAnswer .invalidParams "Request must be an object" .null), e, [])

def handleLine (files : Store) (e : Engine) (line : List Char) :
    Answer (Except Fault (Option Json)) :=
  let body := Text.trim line
  if body.isEmpty then (.ok none, e, [])
  else match Json.parseChars body with
    | .error (.digitLimit n) => (.error (.digitLimit n), e, [])
    | .error (.flaw flaw left) =>
      (.ok (some (errorAnswer .parse "Parse error" .null)), e,
        [Log.warning "SERVICE" ("Invalid JSON: " ++ flaw.locate body left)])
    | .ok request =>
      match handleRequest files e request with
      | (.ok answer, e, records) => (.ok (some answer), e, records)
      | (.error f, e, records) => (.error f, e, records)

/-- Cuts input into lines that end at a line feed; what follows the last one is a line too. -/
def inputLines : List Char → List (List Char)
  | [] => []
  | c :: rest =>
    if c = '\n' then [c] :: inputLines rest
    else match inputLines rest with
      | line :: lines => (c :: line) :: lines
      | [] => [[c]]

/-- What a run of the service leaves. -/
structure Run where
  output : List String
  engine : Engine
  records : List Log.Record
  /-- What ended the run before the end of its input. -/
  failure : Option Fault
  deriving Repr

/-- Answers lines until they end or one of them ends the run. -/
def answerLines (files : Store) (e : Engine) : List (List Char) → Run
  | [] => ⟨[], e, [], none⟩
  | line :: rest =>
    match handleLine files e line with
    | (.error f, e, records) => ⟨[], e, records, some f⟩
    | (.ok answer, e, records) =>
      let more := answerLines files e rest
      ⟨(answer.map Json.render).toList ++ more.output, more.engine, records ++ more.records,
        more.failure⟩

def startRecord : Log.Record := Log.dispatch "service" "starting stdio loop"

def stopRecord : Log.Record := Log.dispatch "service" "shutting down"

def run (files : Store) (e : Engine) (input : List Char) : Run :=
  let r := answerLines files e (inputLines input)
  { r with records := startRecord :: r.records ++ [stopRecord] }

def Run.text (r : Run) : String := String.join (r.output.map (· ++ "\n"))

end SchemaAssist.Service
