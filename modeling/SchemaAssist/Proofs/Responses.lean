/-
  Responses and the session behind them.

  `Served` says once what an object that is answered gets and what becomes of the session: an
  unknown method changes nothing, a result counts as a completion if it is one, and an error leaves
  the session as it was, unless the schema was to be loaded again.  The parameters of a method are
  read before the session is touched, and completion itself never fails once it has been counted
  (`call_cases`).  Over a run the counter of a session is the number of completions that were
  answered with a result (`requests_overRequests`), which is what the session reports.
-/
import SchemaAssist.Proofs.ServiceLoop
import SchemaAssist.Proofs.SessionRuns

namespace SchemaAssist.Service

open Completion Files

/-! ### Methods by name -/

/-- The method that a request asks for, if the service has it. -/
def methodOf? (request : Json) : Option Method :=
  match request.get? "method" with
  | some (.str name) => Method.ofName? name
  | _ => none

/-- The identifier of a request. -/
def idOf (request : Json) : Json := (request.get? "id").getD .null

/-- The methods whose results are candidates. -/
def Method.completes : Method → Bool
  | provideCompletions | provideCompletionsOnNewline => true
  | _ => false

theorem ofName?_eq_some {name : String} {m : Method} :
    Method.ofName? name = some m ↔ name = m.name := by
  constructor
  · intro h
    have hfound := List.find?_some h
    exact (beq_iff_eq.mp hfound).symm
  · rintro rfl
    cases m <;> rfl

theorem methodOf?_eq_some {request : Json} {m : Method} :
    methodOf? request = some m ↔ request.get? "method" = some (.str m.name) := by
  unfold methodOf?
  split
  · rename_i name hname
    rw [hname, ofName?_eq_some]
    simp
  · rename_i hother
    constructor
    · intro h
      cases h
    · intro h
      exact (hother _ h).elim

theorem methodOf?_eq_none {request : Json} :
    methodOf? request = none ↔ ∀ name ∈ Method.all.map Method.name,
      request.get? "method" ≠ some (.str name) := by
  rw [Option.eq_none_iff_forall_ne_some]
  constructor
  · intro h name hname
    obtain ⟨m, -, rfl⟩ := List.mem_map.mp hname
    exact mt methodOf?_eq_some.mpr (h m)
  · intro h m hm
    have hall : m ∈ Method.all := by cases m <;> decide
    exact h m.name (List.mem_map_of_mem hall) (methodOf?_eq_some.mp hm)

/-! ### What becomes of a request -/

/-- What an object gets for an answer, and the session after it. -/
inductive Served (e : Engine) (request : Json) : Json → Engine → Prop where
  | unknown (message : String) (method : methodOf? request = none) :
      Served e request (errorAnswer .methodNotFound message (idOf request)) e
  | result {m : Method} {e' : Engine} (result : Json) (method : methodOf? request = some m)
      (requests : e'.requests = e.requests + if m.completes then 1 else 0) :
      Served e request (resultMessage result (idOf request)) e'
  | refused {m : Method} {e' : Engine} {code : ErrorCode} (message : String)
    (method : methodOf? request = some m)
      (found : code ≠ .methodNotFound) (requests : e'.requests = e.requests)
      (unchanged : m ≠ .reloadSchema → e' = e) :
      Served e request (errorAnswer code message (idOf request)) e'

section Request

variable (files : Store) (e : Engine)

/-- Parameters are read before the session is touched. -/
theorem serveCompletions_cases (params : Json) (trigger : CompletionParams → Option String) :
    (∃ result, (serveCompletions files e params trigger).1 = .ok result ∧
        (serveCompletions files e params trigger).2.1.requests = e.requests + 1) ∨
      ∃ err, (serveCompletions files e params trigger).1 = .error err ∧
        (serveCompletions files e params trigger).2.1 = e := by
  unfold serveCompletions
  split
  · exact Or.inr ⟨_, rfl, rfl⟩
  · exact Or.inr ⟨_, rfl, rfl⟩
  · rename_i p _
    refine Or.inl ⟨_, rfl, ?_⟩
    exact congrArg Engine.requests (Engine.complete_state e files p.content p.position (trigger p))

/-- A method gives a result, and the session counts it if it completes; or it fails, and then only a
schema that was to be loaded again makes a difference. -/
theorem call_cases (params : Json) (m : Method) :
    (∃ result, (call files e params m).1 = .ok result ∧
        (call files e params m).2.1.requests = e.requests + if m.completes then 1 else 0) ∨
      ∃ err, (call files e params m).1 = .error err ∧
        (call files e params m).2.1.requests = e.requests ∧
        (m ≠ .reloadSchema → (call files e params m).2.1 = e) := by
  cases m with
  | provideCompletions =>
    rcases serveCompletions_cases files e params
      (·.trigger) with ⟨result, hresult, hrequests⟩ | ⟨err, herr, hsame⟩
    · exact Or.inl ⟨result, hresult, hrequests⟩
    · exact Or.inr ⟨err, herr, congrArg Engine.requests hsame, fun _ => hsame⟩
  | provideCompletionsOnNewline =>
    rcases serveCompletions_cases files e params (fun _ => some newline) with
      ⟨result, hresult, hrequests⟩ | ⟨err, herr, hsame⟩
    · exact Or.inl ⟨result, hresult, hrequests⟩
    · exact Or.inr ⟨err, herr, congrArg Engine.requests hsame, fun _ => hsame⟩
  | architectureAsCode => exact Or.inl ⟨_, rfl, rfl⟩
  | reloadSchema =>
    have hrequests : (e.reset.ensureSchema files).2.1.requests = e.requests := by
      rw [Engine.ensureSchema_engine]
      rfl
    unfold call
    generalize e.reset.ensureSchema files = loaded at hrequests ⊢
    obtain ⟨outcome, e', records⟩ := loaded
    cases outcome with
    | ok root => exact Or.inl ⟨_, rfl, hrequests⟩
    | error f => exact Or.inr ⟨_, rfl, hrequests, fun h => absurd rfl h⟩
  | getStats => exact Or.inl ⟨_, rfl, rfl⟩
  | ping => exact Or.inl ⟨_, rfl, rfl⟩

theorem serve_served {request : Json} {m : Method} (h : methodOf? request = some m) :
    Served e request (serve files e request m).1 (serve files e request m).2.1 := by
  have hcall := call_cases files e (paramsOf request) m
  unfold serve
  generalize call files e (paramsOf request) m = called at hcall ⊢
  obtain ⟨outcome, e', records⟩ := called
  rcases hcall with ⟨result, hresult, hrequests⟩ | ⟨err, herr, hrequests, hsame⟩
  · obtain rfl : outcome = .ok result := hresult
    exact .result result h hrequests
  · obtain rfl : outcome = .error err := herr
    cases err with
    | params reason => exact .refused _ h (by decide) hrequests hsame
    | fault f => exact .refused _ h (by decide) hrequests hsame

theorem handleRequest_of_method {members : List (String × Json)} {m : Method}
    (h : methodOf? (.obj members) = some m) :
    handleRequest files e (.obj members) =
      (.ok (serve files e (.obj members) m).1, (serve files e (.obj members) m).2) := by
  have hname := methodOf?_eq_some.mp h
  have hmethod : Method.ofName? m.name = some m := ofName?_eq_some.mpr rfl
  simp only [handleRequest, hname, Option.getD_some, hmethod]

theorem handleRequest_of_unknown {members : List (String × Json)}
    (h : methodOf? (.obj members) = none) (hfault : methodFault? (.obj members) = none) :
    ∃ message, handleRequest files e (.obj members) =
      (.ok (errorAnswer .methodNotFound message (idOf (.obj members))), e, []) := by
  unfold methodFault? at hfault
  unfold handleRequest
  simp only
  split
  · rename_i hmethod
    rw [hmethod] at hfault
    cases hfault
  · rename_i hmethod
    rw [hmethod] at hfault
    cases hfault
  · rename_i name hname
    cases hknown : Method.ofName? name with
    | none => exact ⟨_, rfl⟩
    | some m =>
      have hget : (Json.obj members).get? "method" = some (.str m.name) := by
        rw [ofName?_eq_some.mp hknown] at hname
        cases hvalue : (Json.obj members).get? "method" with
        | none =>
          rw [hvalue] at hname
          cases hname
        | some v =>
          rw [hvalue] at hname
          exact congrArg some hname
      rw [methodOf?_eq_some.mpr hget] at h
      cases h
  · exact ⟨_, rfl⟩

/-- Every object is served whose method can be looked up. -/
theorem handleRequest_served {members : List (String × Json)}
    (h : methodFault? (.obj members) = none) :
    ∃ response, (handleRequest files e (.obj members)).1 = .ok response ∧
      Served e (.obj members) response (handleRequest files e (.obj members)).2.1 := by
  cases hmethod : methodOf? (.obj members) with
  | some m =>
    rw [handleRequest_of_method files e hmethod]
    exact ⟨_, rfl, serve_served files e hmethod⟩
  | none =>
    obtain ⟨message, hanswer⟩ := handleRequest_of_unknown files e hmethod h
    rw [hanswer]
    exact ⟨_, rfl, .unknown message hmethod⟩

theorem served_of_answer {members : List (String × Json)} {response : Json}
    (h : (handleRequest files e (.obj members)).1 = .ok response) :
    Served e (.obj members) response (handleRequest files e (.obj members)).2.1 := by
  cases hfault : methodFault? (.obj members) with
  | some f =>
    rw [handleRequest_of_methodFault hfault files e] at h
    cases h
  | none =>
    obtain ⟨response', hanswer, hserved⟩ := handleRequest_served files e hfault
    obtain rfl : response' = response := Except.ok.inj (hanswer.symm.trans h)
    exact hserved

end Request

/-! ### Runs of requests -/

/-- A request, and the files as they are when it comes. -/
structure Incoming where
  files : Store
  request : Json

/-- A request and its answer, or the fault that it met instead. -/
structure Exchange where
  request : Json
  answer : Except Fault Json

/-- Whether a request asks for completions. -/
def asksCompletions (request : Json) : Bool :=
  match request.get? "method" with
  | some (.str name) => name == "provideCompletions" || name == "provideCompletionsOnNewline"
  | _ => false

/-- Whether completions were asked for and the answer carries a result. -/
def Exchange.completed (x : Exchange) : Bool :=
  asksCompletions x.request &&
    match x.answer with
    | .ok response => (response.get? "result").isSome
    | .error _ => false

/-- The session after a request. -/
def stepRequest (e : Engine) (i : Incoming) : Engine := (handleRequest i.files e i.request).2.1

/-- The session after some requests. -/
def overRequests (e : Engine) (requests : List Incoming) : Engine := requests.foldl stepRequest e

/-- Requests with their answers. -/
def exchanges (e : Engine) : List Incoming → List Exchange
  | [] => []
  | i :: rest =>
    ⟨i.request, (handleRequest i.files e i.request).1⟩ :: exchanges (stepRequest e i) rest

theorem asksCompletions_eq (request : Json) :
    asksCompletions request = (methodOf? request).any Method.completes := by
  unfold asksCompletions methodOf?
  split
  · rename_i name hname
    cases h : Method.ofName? name with
    | some m =>
      obtain rfl := ofName?_eq_some.mp h
      cases m <;> rfl
    | none =>
      have hne : ∀ m : Method, name ≠ m.name := by
        intro m hm
        rw [ofName?_eq_some.mpr hm] at h
        cases h
      have hplain : name ≠ "provideCompletions" := hne .provideCompletions
      have hline : name ≠ "provideCompletionsOnNewline" := hne .provideCompletionsOnNewline
      simp [hplain, hline]
  · rfl

/-- What an object gets tells whether the session has counted it. -/
theorem Served.requests_eq {e e' : Engine} {request response : Json}
    (h : Served e request response e') :
    e'.requests = e.requests + if (Exchange.mk request (.ok response)).completed then 1 else 0 := by
  unfold Exchange.completed
  rw [asksCompletions_eq]
  cases h with
  | unknown message method =>
    rw [method]
    rfl
  | result result method requests =>
    rw [method, requests]
    simp [resultMessage, Json.get?]
  | refused message method found requests unchanged =>
    rw [method, requests]
    simp [errorAnswer, errorMessage, Json.get?]

/-- A request counts if it asks for completions and gets a result. -/
theorem requests_stepRequest (e : Engine) (i : Incoming) :
    (stepRequest e i).requests =
      e.requests + if (Exchange.mk i.request (handleRequest i.files e i.request).1).completed then 1
        else 0 := by
  obtain ⟨files, request⟩ := i
  cases request with
  | obj members =>
    unfold stepRequest
    cases hfault : methodFault? (.obj members) with
    | some f =>
      simp [handleRequest_of_methodFault hfault files e, Exchange.completed]
    | none =>
      obtain ⟨response, hanswer, hserved⟩ := handleRequest_served files e hfault
      simp only [hanswer]
      exact hserved.requests_eq
  | _ => rfl

/-- Over a run, the session has counted the requests for completions that got a result. -/
theorem requests_overRequests (e : Engine) (requests : List Incoming) :
    (overRequests e requests).requests =
      e.requests + (exchanges e requests).countP Exchange.completed := by
  induction requests generalizing e with
  | nil => rfl
  | cons i rest ih =>
    have hrest : (overRequests e (i :: rest)).requests =
        (overRequests (stepRequest e i) rest).requests := rfl
    rw [hrest, ih, requests_stepRequest, exchanges, List.countP_cons]
    omega

/-! ### Answers and the session -/

section Served

variable {e e' : Engine} {request response : Json}

theorem Served.envelope (h : Served e request response e') :
    response.get? "jsonrpc" = some (.str "2.0") ∧ response.get? "id" = some (idOf request) ∧
      ((response.get? "result").isSome ↔ response.get? "error" = none) := by
  cases h with
  | unknown message method => exact ⟨rfl, rfl, by simp [errorAnswer, errorMessage, Json.get?]⟩
  | result result method requests => exact ⟨rfl, rfl, by simp [resultMessage, Json.get?]⟩
  | refused message method found requests unchanged =>
    exact ⟨rfl, rfl, by simp [errorAnswer, errorMessage, Json.get?]⟩

theorem Served.notFound_iff (h : Served e request response e') :
    (response.get? "error").bind (·.get? "code") = some (.int (-32601)) ↔
      methodOf? request = none := by
  cases h with
  | unknown message method => exact ⟨fun _ => method, fun _ => rfl⟩
  | result result method requests =>
    rw [method]
    constructor
    · intro hcode
      cases hcode
    · intro hnone
      cases hnone
  | @refused m e' code message method found requests unchanged =>
    rw [method]
    constructor
    · intro hcode
      have hnumber : code.number = -32601 := Json.int.inj (Option.some.inj hcode)
      cases code with
      | methodNotFound => exact absurd rfl found
      | _ => exact absurd hnumber (by decide)
    · intro hnone
      cases hnone

theorem Served.unchanged_of_error (h : Served e request response e')
    (herror : (response.get? "error").isSome)
    (hreload : request.get? "method" ≠ some (.str "reloadSchema")) : e' = e := by
  cases h with
  | unknown message method => rfl
  | result result method requests => cases herror
  | refused message method found requests unchanged =>
    apply unchanged
    rintro rfl
    exact hreload (methodOf?_eq_some.mp method)

end Served

theorem handleRequest_getStats (files : Store) (e : Engine) {request : Json}
    (h : request.get? "method" = some (.str "getStats")) :
    (handleRequest files e request).1 = .ok (resultMessage e.stats (idOf request)) := by
  cases request with
  | obj members =>
    have hmethod : methodOf? (.obj members) = some .getStats := methodOf?_eq_some.mpr h
    rw [handleRequest_of_method files e hmethod]
    rfl
  | _ => cases h

/-- Errors do not disturb a session.  Whatever an object gets carries the version, its own
identifier, and either a result or an error; the error says that there is no such method iff there
is none; and a session that answers with an error is as it was, unless its schema was to be loaded
again.  So over every run the session reports how many requests for completions got a result. -/
theorem errors_keep_session :
    (∀ (files : Store) (e : Engine) (members : List (String × Json)) (response : Json),
        (handleRequest files e (.obj members)).1 = .ok response →
          response.get? "jsonrpc" = some (.str "2.0") ∧
          response.get? "id" = some ((Json.get? (.obj members) "id").getD .null) ∧
          ((response.get? "result").isSome ↔ response.get? "error" = none) ∧
          ((response.get? "error").bind (·.get? "code") = some (.int (-32601)) ↔
            ∀ name ∈ ["provideCompletions", "provideCompletionsOnNewline", "architectureAsCode",
              "reloadSchema", "getStats", "ping"],
              Json.get? (.obj members) "method" ≠ some (.str name)) ∧
          ((response.get? "error").isSome →
            Json.get? (.obj members) "method" ≠ some (.str "reloadSchema") →
            (handleRequest files e (.obj members)).2.1 = e)) ∧
      ∀ (e : Engine) (before : List Incoming) (files : Store) (request : Json),
        request.get? "method" = some (.str "getStats") →
          ∃ response stats, (handleRequest files (overRequests e before) request).1 = .ok response ∧
            response.get? "result" = some stats ∧
            stats.get? "requests" =
              some (.int (e.requests + (exchanges e before).countP Exchange.completed : Nat)) := by
  constructor
  · intro files e members response h
    have hserved := served_of_answer files e h
    obtain ⟨hversion, hid, hone⟩ := hserved.envelope
    refine ⟨hversion, hid, hone, ?_, hserved.unchanged_of_error⟩
    rw [hserved.notFound_iff, methodOf?_eq_none]
    exact Iff.rfl
  · intro e before files request h
    refine ⟨_, _, handleRequest_getStats files (overRequests e before) h, rfl, ?_⟩
    rw [← requests_overRequests]
    rfl

/-- Three requests, of which one counts: parameters that are no object, a completion, and a method
that nobody knows. -/
def mixedRequests : List Incoming :=
  [⟨.empty, requestMessage (.str "provideCompletions") (.int 3) (.int 1)⟩,
    ⟨.empty, requestMessage (.str "provideCompletions") (.obj [("content", .str "")]) (.int 2)⟩,
    ⟨.empty, requestMessage (.str "complete") (.obj [("content", .str "")]) (.int 3)⟩]

theorem errors_keep_session_sample :
    (handleRequest .empty (Engine.ofSchema Schema.sampleSchema.root defaultTriggers)
        (requestMessage (.str "provideCompletions") (.int 3) (.int 1))).2.1 =
      Engine.ofSchema Schema.sampleSchema.root defaultTriggers ∧
    ∃ response stats, (handleRequest .empty
        (overRequests (Engine.ofSchema Schema.sampleSchema.root defaultTriggers) mixedRequests)
        (requestMessage (.str "getStats") .null .null)).1 = .ok response ∧
      response.get? "result" = some stats ∧ stats.get? "requests" = some (.int 1) := by
  constructor
  · exact (errors_keep_session.1 .empty _ _ _ rfl).2.2.2.2 rfl (by simp [Json.get?])
  · obtain ⟨response, stats, hanswer, hresult, hrequests⟩ := errors_keep_session.2
      (Engine.ofSchema Schema.sampleSchema.root defaultTriggers) mixedRequests .empty
      (requestMessage (.str "getStats") .null .null) rfl
    exact ⟨response, stats, hanswer, hresult, hrequests⟩

end SchemaAssist.Service
