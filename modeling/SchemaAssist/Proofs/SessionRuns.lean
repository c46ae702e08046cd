/-
  Sessions over time.

  A run is a list of events: an operation on the session, and the files as they are when it happens.
  `perform_engine` says once what an operation does to a session.  From it follows what a run does:
  from a reset on, the first operation that uses the schema loads it and no later one reads the
  files (`after_unloaded`, `perform_files`), so that all completions up to the next reset are those
  of one tree.
-/
import SchemaAssist.Proofs.Offers

namespace SchemaAssist.Completion

open Document Files Schema

/-- What can be asked of a session. -/
inductive Operation where
  | complete (text : String) (p : Position) (trigger : Option String)
  | completeOnNewline (text : String) (p : Position)
  | schema
  | stats
  | acknowledge
  | reset
  deriving DecidableEq, Repr

/-- What a session replies. -/
inductive Reply where
  | items (items : List Suggestion)
  | schema (root : Except Fault (Option Node))
  | stats (stats : Json)
  | acknowledged (text : String)
  | done
  deriving Repr

namespace Operation

/-- The text, cursor and trigger of a completion request. -/
def request? : Operation → Option (String × Position × Option String)
  | complete text p trigger => some (text, p, trigger)
  | completeOnNewline text p => some (text, p, some newline)
  | _ => none

def completes (o : Operation) : Bool := o.request?.isSome

/-- Whether an operation needs the schema.  A completion request does if its trigger is accepted. -/
def usesSchema (triggers : List String) (o : Operation) : Bool :=
  match o.request? with
  | some (_, _, trigger) => accepts triggers trigger
  | none => o = .schema

end Operation

/-- An operation, and the files it finds. -/
structure Event where
  files : Store
  operation : Operation

/-- Whether a record tells of an attempt to load the schema. -/
def tellsLoad (r : Log.Record) : Bool := r.component == "SCHEMA" && r.level != .warning

/-- How many attempts to load the schema are told of. -/
def loads (records : List Log.Record) : Nat := records.countP tellsLoad

/-- The cache after an attempt to load. -/
def Cache.ofLoad : Except LoadFailure Built → Cache
  | .ok built => .loaded built.root
  | .error (.error _) => .failed
  | .error (.fault _) => .unloaded

theorem Cache.ofLoad_ne_unloaded {outcome : Except LoadFailure Built}
    (h : ∀ f, outcome ≠ .error (.fault f)) :
    Cache.ofLoad outcome ≠ .unloaded := by
  cases outcome with
  | ok built => exact Cache.noConfusion
  | error failure =>
    cases failure with
    | error err => exact Cache.noConfusion
    | fault f => exact absurd rfl (h f)

/-- What the schema's user gets from an attempt to load. -/
def rootOfLoad : Except LoadFailure Built → Except Fault (Option Node)
  | .ok built => .ok (some built.root)
  | .error (.error _) => .ok none
  | .error (.fault f) => .error f

/-- What is logged about an attempt to load. -/
def recordsOfLoad (source : Source) : Except LoadFailure Built → List Log.Record
  | .ok built => built.records source
  | .error (.error err) => [Log.schemaFailed source.render err.message]
  | .error (.fault _) => []

theorem rootOfLoad_eq_ok {outcome : Except LoadFailure Built}
    (h : ∀ f, outcome ≠ .error (.fault f)) :
    rootOfLoad outcome = .ok (Cache.ofLoad outcome).root? := by
  cases outcome with
  | ok built => rfl
  | error failure =>
    cases failure with
    | error err => rfl
    | fault f => exact absurd rfl (h f)

theorem toOption_rootOfLoad (outcome : Except LoadFailure Built) :
    (rootOfLoad outcome).toOption.join = (Cache.ofLoad outcome).root? := by
  cases outcome with
  | ok built => rfl
  | error failure =>
    cases failure with
    | error err => rfl
    | fault f => rfl

/-- The first event of a run that uses the schema. -/
def firstUse? (triggers : List String) (events : List Event) : Option Event :=
  events.find? (·.operation.usesSchema triggers)

namespace Engine

/-- Performs an operation. -/
def perform (e : Engine) (files : Store) : Operation → Reply × Engine × List Log.Record
  | .complete text p trigger =>
    let (items, e, records) := e.complete files text p trigger
    (.items items, e, records)
  | .completeOnNewline text p =>
    let (items, e, records) := e.completeOnNewline files text p
    (.items items, e, records)
  | .schema =>
    let (root, e, records) := e.ensureSchema files
    (.schema root, e, records)
  | .stats => (.stats e.stats, e, [])
  | .acknowledge => (.acknowledged acknowledgement, e, acknowledgeRecords)
  | .reset => (.done, e.reset, [])

def step (e : Engine) (ev : Event) : Engine := (e.perform ev.files ev.operation).2.1

/-- The session after a run. -/
def after (e : Engine) (events : List Event) : Engine := events.foldl step e

/-- What is logged in a run. -/
def logged (e : Engine) : List Event → List Log.Record
  | [] => []
  | ev :: rest => (e.perform ev.files ev.operation).2.2 ++ (e.step ev).logged rest

/-- The cache once the schema has been used. -/
def cacheInUse (e : Engine) (files : Store) : Cache :=
  match e.cache with
  | .unloaded => .ofLoad (Schema.load files e.source)
  | settled => settled

/-- The cache after an operation. -/
def cacheAfter (e : Engine) (files : Store) (o : Operation) : Cache :=
  if o = .reset then .unloaded else if o.usesSchema e.triggers then e.cacheInUse files else e.cache

/-! ### Using the schema -/

section Use

variable (e : Engine) (files : Store)

theorem cacheInUse_of_settled {e : Engine} (h : e.cache ≠ .unloaded) :
    e.cacheInUse files = e.cache := by
  unfold cacheInUse
  split
  · contradiction
  · rfl

theorem ensureSchema_of_settled {e : Engine} (h : e.cache ≠ .unloaded) :
    e.ensureSchema files = (.ok e.cache.root?, e, []) := by
  unfold ensureSchema
  cases hcache : e.cache with
  | loaded root => rfl
  | failed => rfl
  | unloaded => exact absurd hcache h

/-- The one place where a session reads the files. -/
theorem ensureSchema_of_unloaded {e : Engine} (h : e.cache = .unloaded) :
    e.ensureSchema files =
      (rootOfLoad (Schema.load files e.source),
        { e with cache := .ofLoad (Schema.load files e.source) },
        recordsOfLoad e.source (Schema.load files e.source)) := by
  unfold ensureSchema
  rw [h]
  cases Schema.load files e.source with
  | ok built => rfl
  | error failure =>
    cases failure with
    | error err => rfl
    | fault f => simp only [rootOfLoad, recordsOfLoad, Cache.ofLoad, ← h]

theorem cacheInUse_of_unloaded {e : Engine} (h : e.cache = .unloaded) :
    e.cacheInUse files = .ofLoad (Schema.load files e.source) := by
  rw [cacheInUse, h]

theorem ensureSchema_engine :
    (e.ensureSchema files).2.1 = { e with cache := e.cacheInUse files } := by
  by_cases h : e.cache = .unloaded
  · rw [ensureSchema_of_unloaded files h, cacheInUse_of_unloaded files h]
  · rw [ensureSchema_of_settled files h, cacheInUse_of_settled files h]

/-- A request more or less changes nothing about the schema. -/
theorem ensureSchema_requests (n : Nat) :
    { e with requests := n }.ensureSchema files =
      ((e.ensureSchema files).1, { (e.ensureSchema files).2.1 with requests := n },
        (e.ensureSchema files).2.2) := by
  by_cases h : e.cache = .unloaded
  · have h' : { e with requests := n }.cache = .unloaded := h
    rw [ensureSchema_of_unloaded files h, ensureSchema_of_unloaded files h']
  · have h' : { e with requests := n }.cache ≠ .unloaded := h
    rw [ensureSchema_of_settled files h, ensureSchema_of_settled files h']

/-- The schema is what the cache then holds, unless the load met a fault. -/
theorem ensureSchema_root
    (h : e.cache = .unloaded → ∀ f, Schema.load files e.source ≠ .error (.fault f)) :
    (e.ensureSchema files).1 = .ok (e.cacheInUse files).root? := by
  by_cases hcache : e.cache = .unloaded
  · rw [ensureSchema_of_unloaded files hcache, cacheInUse_of_unloaded files hcache]
    exact rootOfLoad_eq_ok (h hcache)
  · rw [ensureSchema_of_settled files hcache, cacheInUse_of_settled files hcache]

theorem ensureSchema_toOption :
    (e.ensureSchema files).1.toOption.join = (e.cacheInUse files).root? := by
  by_cases h : e.cache = .unloaded
  · rw [ensureSchema_of_unloaded files h, cacheInUse_of_unloaded files h]
    exact toOption_rootOfLoad _
  · rw [ensureSchema_of_settled files h, cacheInUse_of_settled files h]
    rfl

/-- Files are read by a session that has no schema yet, and by no other. -/
theorem ensureSchema_files {e : Engine} (h : e.cache ≠ .unloaded) (files' : Store) :
    e.ensureSchema files = e.ensureSchema files' := by
  rw [ensureSchema_of_settled files h, ensureSchema_of_settled files' h]

theorem loads_append (a b : List Log.Record) :
    loads (a ++ b) = loads a + loads b := List.countP_append

theorem loads_built (built : Built) (source : Source) : loads (built.records source) = 1 := by
  have hwarnings : loads built.warnings = 0 := by
    refine List.countP_eq_zero.mpr ?_
    intro r hr
    obtain ⟨name, _, rfl⟩ := List.mem_map.mp hr
    simp [tellsLoad, Log.warning]
  rw [Built.records, loads_append, hwarnings]
  rfl

theorem loads_recordsOfLoad (source : Source) {outcome : Except LoadFailure Built}
    (h : ∀ f, outcome ≠ .error (.fault f)) : loads (recordsOfLoad source outcome) = 1 := by
  cases outcome with
  | ok built => exact loads_built built source
  | error failure =>
    cases failure with
    | error err => rfl
    | fault f => exact absurd rfl (h f)

theorem ensureSchema_loads_of_settled {e : Engine} (h : e.cache ≠ .unloaded) :
    loads (e.ensureSchema files).2.2 = 0 := by
  rw [ensureSchema_of_settled files h]
  rfl

theorem ensureSchema_loads {e : Engine} (hcache : e.cache = .unloaded)
    (h : ∀ f, Schema.load files e.source ≠ .error (.fault f)) :
    loads (e.ensureSchema files).2.2 = 1 := by
  rw [ensureSchema_of_unloaded files hcache]
  exact loads_recordsOfLoad e.source h

end Use

/-! ### Completion requests -/

section Request

variable (e : Engine) (files : Store) (text : String) (p : Position) (trigger : Option String)

/-- A request is counted and looks at its trigger before all else. -/
theorem complete_rejected (h : accepts e.triggers trigger = false) :
    e.complete files text p trigger =
      ([], { e with requests := e.requests + 1 },
        [Log.completionRequest p.line p.column trigger]) := by
  unfold complete
  simp only [h]
  rfl

theorem loads_fault (f : Fault) : loads [Log.faultMet "ENGINE" "Completion failed" f] = 0 := by
  have hcomponent : (Log.capitals "ENGINE" == "SCHEMA") = false := by decide +kernel
  simp [loads, tellsLoad, Log.faultMet, Log.error, hcomponent]

theorem loads_targetRecords (doc : Document) (schema : Option Node) :
    loads (targetRecords doc p trigger schema) = 0 := by
  unfold targetRecords newlineRecords
  split
  · split
    · rfl
    · split
      · rfl
      · split
        · rfl
        · rfl
  · rfl

theorem loads_candidates (root : Node) (doc : Document) : loads (candidates root doc p).2 = 0 := by
  unfold candidates
  simp only
  split
  · rfl
  · rfl

theorem loads_completeOn (root : Node) : loads (completeOn root text p trigger).2 = 0 := by
  unfold completeOn
  simp only
  rw [loads_append, loads_targetRecords, loads_candidates]

/-- A request with an accepted trigger uses the schema, and logs no other attempt to load it. -/
theorem complete_accepted (h : accepts e.triggers trigger = true) :
    ∃ records,
      e.complete files text p trigger =
        ((e.cacheInUse files).root?.elim []
            fun root => offers root (ofText text) (dispatched root (ofText text) p trigger),
          { e with cache := e.cacheInUse files, requests := e.requests + 1 }, records) ∧
      loads records = loads (e.ensureSchema files).2.2 := by
  have hroot := ensureSchema_toOption e files
  have hengine := ensureSchema_engine e files
  unfold complete
  simp only [h, if_true]
  rw [ensureSchema_requests]
  generalize e.ensureSchema files = answer at hroot hengine
  obtain ⟨outcome, e', records⟩ := answer
  simp only at hroot hengine
  subst hengine
  cases outcome with
  | error f =>
    rw [← hroot]
    refine ⟨_, rfl, ?_⟩
    rw [loads_append, loads_append, loads_fault]
    exact Nat.zero_add _
  | ok root =>
    cases root with
    | none =>
      rw [← hroot]
      refine ⟨_, rfl, ?_⟩
      rw [loads_append]
      exact Nat.zero_add _
    | some root =>
      have hitems := completeOn_items root text p trigger
      have hmore := loads_completeOn text p trigger root
      simp only
      generalize completeOn root text p trigger = found at hitems hmore
      obtain ⟨items, more⟩ := found
      simp only at hitems hmore
      subst hitems
      rw [← hroot]
      refine ⟨_, rfl, ?_⟩
      rw [loads_append, loads_append, hmore]
      exact Nat.zero_add _

theorem complete_state :
    (e.complete files text p trigger).2.1 =
      { e with
        cache := if accepts e.triggers trigger then e.cacheInUse files else e.cache
        requests := e.requests + 1 } := by
  cases haccepted : accepts e.triggers trigger with
  | false => rw [complete_rejected e files text p trigger haccepted, if_neg Bool.false_ne_true]
  | true =>
    obtain ⟨records, hrun, _⟩ := complete_accepted e files text p trigger haccepted
    rw [hrun, if_pos rfl]

theorem complete_loads :
    loads (e.complete files text p trigger).2.2 =
      if accepts e.triggers trigger then loads (e.ensureSchema files).2.2 else 0 := by
  cases haccepted : accepts e.triggers trigger with
  | false =>
    rw [complete_rejected e files text p trigger haccepted, if_neg Bool.false_ne_true]
    rfl
  | true =>
    obtain ⟨records, hrun, hloads⟩ := complete_accepted e files text p trigger haccepted
    rw [hrun, if_pos rfl, hloads]

/-- The answer is that of a session on the schema in use; a rejected request is one on any schema.
-/
theorem complete_answer {tree : Option Node}
    (h : accepts e.triggers trigger = true → (e.cacheInUse files).root? = tree) :
    (e.complete files text p trigger).1 =
      tree.elim [] fun root => ((ofSchema root e.triggers).complete files text p trigger).1 := by
  have hitems (root : Node) := complete_items
      (e := ofSchema root e.triggers) rfl files text p trigger
  have htriggers (root : Node) : (ofSchema root e.triggers).triggers = e.triggers := rfl
  simp only [hitems, htriggers]
  cases haccepted : accepts e.triggers trigger with
  | false =>
    rw [complete_rejected e files text p trigger haccepted]
    cases tree with
    | none => rfl
    | some root => rfl
  | true =>
    obtain ⟨records, hrun, _⟩ := complete_accepted e files text p trigger haccepted
    rw [hrun, h haccepted]
    rfl

theorem complete_files (h : accepts e.triggers trigger = true → e.cache ≠ .unloaded)
    (files' : Store) :
    e.complete files text p trigger = e.complete files' text p trigger := by
  cases haccepted : accepts e.triggers trigger with
  | false => rw [complete_rejected _ _ _ _ _ haccepted, complete_rejected _ _ _ _ _ haccepted]
  | true =>
    have hsettled : { e with requests := e.requests + 1 }.cache ≠ .unloaded := h haccepted
    unfold complete
    simp only [ensureSchema_files files hsettled files']

end Request

/-! ### Operations -/

section Perform

variable (e : Engine) (files : Store) (o : Operation)

/-- What an operation does to a session. -/
theorem perform_engine :
    (e.perform files o).2.1 =
      { e with
        cache := e.cacheAfter files o
        requests := e.requests + if o.completes then 1 else 0 } := by
  cases o with
  | complete text p trigger => exact complete_state e files text p trigger
  | completeOnNewline text p => exact complete_state e files text p (some newline)
  | schema => exact ensureSchema_engine e files
  | stats => rfl
  | acknowledge => rfl
  | reset => rfl

/-- An operation reads the files only to load the schema. -/
theorem perform_files (h : o.usesSchema e.triggers = true → e.cache ≠ .unloaded) (files' : Store) :
    e.perform files o = e.perform files' o := by
  cases o with
  | complete text p trigger =>
    simp only [perform, complete_files e files text p trigger h files']
  | completeOnNewline text p =>
    simp only [perform, completeOnNewline, complete_files e files text p (some newline) h files']
  | schema =>
    simp only [perform, ensureSchema_files files (h rfl) files']
  | stats => rfl
  | acknowledge => rfl
  | reset => rfl

theorem perform_loads :
    loads (e.perform files o).2.2 =
      if o.usesSchema e.triggers then loads (e.ensureSchema files).2.2 else 0 := by
  cases o with
  | complete text p trigger => exact complete_loads e files text p trigger
  | completeOnNewline text p => exact complete_loads e files text p (some newline)
  | schema => rfl
  | stats => rfl
  | acknowledge => rfl
  | reset => rfl

theorem perform_items {o : Operation} {text : String} {p : Position} {trigger : Option String}
    {tree : Option Node} (hrequest : o.request? = some (text, p, trigger))
    (h : o.usesSchema e.triggers = true → (e.cacheInUse files).root? = tree) :
    (e.perform files o).1 =
      .items (tree.elim [] fun root =>
        ((ofSchema root e.triggers).complete files text p trigger).1) := by
  have hrun : (e.perform files o).1 = .items (e.complete files text p trigger).1 := by
    cases o with
    | complete text p trigger =>
      cases hrequest
      rfl
    | completeOnNewline text p =>
      cases hrequest
      rfl
    | schema => cases hrequest
    | stats => cases hrequest
    | acknowledge => cases hrequest
    | reset => cases hrequest
  have huses : o.usesSchema e.triggers = accepts e.triggers trigger := by
    rw [Operation.usesSchema, hrequest]
  rw [huses] at h
  rw [hrun, complete_answer e files text p trigger h]

end Perform

/-! ### Runs -/

section Runs

variable {e : Engine} {events : List Event}

theorem after_append (e : Engine) (first second : List Event) :
    e.after (first ++ second) = (e.after first).after second := List.foldl_append

theorem logged_append (e : Engine) (first second : List Event) :
    e.logged (first ++ second) = e.logged first ++ (e.after first).logged second := by
  induction first generalizing e with
  | nil => rfl
  | cons ev first ih =>
    rw [List.cons_append, logged, logged, ih, List.append_assoc]
    rfl

theorem step_cache (e : Engine) (ev : Event) :
    (e.step ev).cache = e.cacheAfter ev.files ev.operation := by
  rw [step, perform_engine]

theorem step_source (e : Engine) (ev : Event) : (e.step ev).source = e.source := by
  rw [step, perform_engine]

theorem step_triggers (e : Engine) (ev : Event) : (e.step ev).triggers = e.triggers := by
  rw [step, perform_engine]

theorem step_requests (e : Engine) (ev : Event) :
    (e.step ev).requests = e.requests + if ev.operation.completes then 1 else 0 := by
  rw [step, perform_engine]

theorem after_source (e : Engine) (events : List Event) : (e.after events).source = e.source := by
  induction events generalizing e with
  | nil => rfl
  | cons ev events ih => exact (ih (e.step ev)).trans (step_source e ev)

theorem after_triggers (e : Engine) (events : List Event) :
    (e.after events).triggers = e.triggers := by
  induction events generalizing e with
  | nil => rfl
  | cons ev events ih => exact (ih (e.step ev)).trans (step_triggers e ev)

/-- Requests are counted from the start, through every reset. -/
theorem after_requests (e : Engine) (events : List Event) :
    (e.after events).requests = e.requests + events.countP (·.operation.completes) := by
  induction events generalizing e with
  | nil => rfl
  | cons ev events ih =>
    have hrest := ih (e.step ev)
    rw [step_requests] at hrest
    rw [List.countP_cons]
    exact hrest.trans (by omega)

/-- An event that leaves the schema of a session as it is: no reset, and no first use. -/
def Quiet (e : Engine) (ev : Event) : Prop :=
  ev.operation ≠ .reset ∧ (ev.operation.usesSchema e.triggers = true → e.cache ≠ .unloaded)

theorem Quiet.cache {ev : Event} (h : e.Quiet ev) : (e.step ev).cache = e.cache := by
  rw [step_cache, cacheAfter, if_neg h.1]
  split
  · rename_i huse
    exact cacheInUse_of_settled ev.files (h.2 huse)
  · rfl

theorem Quiet.loads {ev : Event} (h : e.Quiet ev) :
    loads (e.perform ev.files ev.operation).2.2 = 0 := by
  rw [perform_loads]
  split
  · rename_i huse
    exact ensureSchema_loads_of_settled ev.files (h.2 huse)
  · rfl

/-- The state of the schema outlasts quiet events, however many, and none of them loads it. -/
theorem after_quiet (h : ∀ ev ∈ events, e.Quiet ev) :
    (e.after events).cache = e.cache ∧ Completion.loads (e.logged events) = 0 := by
  induction events generalizing e with
  | nil => exact ⟨rfl, rfl⟩
  | cons ev events ih =>
    have hquiet : e.Quiet ev := h ev List.mem_cons_self
    have hrest : ∀ ev' ∈ events, (e.step ev).Quiet ev' := by
      intro ev' hev
      rw [Quiet, step_triggers, hquiet.cache]
      exact h ev' (List.mem_cons_of_mem ev hev)
    obtain ⟨hcache, hloads⟩ := ih hrest
    constructor
    · exact hcache.trans hquiet.cache
    · rw [logged, loads_append, hquiet.loads, hloads]

/-- A use of the schema by a session that has none. -/
theorem step_use {ev : Event} (hcache : e.cache = .unloaded)
    (huse : ev.operation.usesSchema e.triggers = true)
    (hload : ∀ f, Schema.load ev.files e.source ≠ .error (.fault f)) :
    (e.step ev).cache = .ofLoad (Schema.load ev.files e.source) ∧
      loads (e.perform ev.files ev.operation).2.2 = 1 := by
  have hreset : ev.operation ≠ .reset := by
    intro h
    rw [h] at huse
    cases huse
  constructor
  · rw [step_cache, cacheAfter, if_neg hreset, if_pos huse, cacheInUse_of_unloaded ev.files hcache]
  · rw [perform_loads, if_pos huse, ensureSchema_loads ev.files hcache hload]

/-- A run without a reset, on a session that has no schema yet, loads it once if it uses it at all,
and then keeps what the first use found. -/
theorem after_unloaded (hcache : e.cache = .unloaded)
    (hreset : ∀ ev ∈ events, ev.operation ≠ .reset)
    (hload : ∀ ev, firstUse? e.triggers events = some ev →
      ∀ f, Schema.load ev.files e.source ≠ .error (.fault f)) :
    (e.after events).cache =
        ((firstUse? e.triggers events).elim .unloaded
          fun ev => .ofLoad (Schema.load ev.files e.source)) ∧
      loads (e.logged events) = if (firstUse? e.triggers events).isSome then 1 else 0 := by
  cases hfirst : firstUse? e.triggers events with
  | none =>
    have hquiet : ∀ ev ∈ events, e.Quiet ev := by
      intro ev hev
      refine ⟨hreset ev hev, ?_⟩
      intro huse
      exact absurd huse (List.find?_eq_none.mp hfirst ev hev)
    obtain ⟨hafter, hloads⟩ := after_quiet hquiet
    exact ⟨hafter.trans hcache, hloads⟩
  | some ev =>
    obtain ⟨huse, earlier, later, rfl, hearlier⟩ := List.find?_eq_some_iff_append.mp hfirst
    have hquiet : ∀ ev' ∈ earlier, e.Quiet ev' := by
      intro ev' hev
      refine ⟨hreset ev' (List.mem_append_left _ hev), ?_⟩
      intro huse'
      have hunused := hearlier ev' hev
      rw [huse'] at hunused
      cases hunused
    obtain ⟨hbefore, hnone⟩ := after_quiet hquiet
    have huse' : ev.operation.usesSchema (e.after earlier).triggers = true := by
      rwa [after_triggers]
    have hload' : ∀ f, Schema.load ev.files (e.after earlier).source ≠ .error (.fault f) := by
      rw [after_source]
      exact hload ev hfirst
    obtain ⟨hstep, hone⟩ := step_use (hbefore.trans hcache) huse' hload'
    have hsettled : ((e.after earlier).step ev).cache ≠ .unloaded := by
      rw [hstep]
      exact Cache.ofLoad_ne_unloaded hload'
    have hlater : ∀ ev' ∈ later, ((e.after earlier).step ev).Quiet ev' := by
      intro ev' hev
      exact ⟨hreset ev' (List.mem_append_right _ (List.mem_cons_of_mem ev hev)), fun _ => hsettled⟩
    obtain ⟨hafter, hzero⟩ := after_quiet hlater
    constructor
    · rw [after_append]
      rw [after_source] at hstep
      exact hafter.trans hstep
    · rw [logged_append, logged, loads_append, loads_append, hnone, hone, hzero]
      rfl

/-- Wherever a run without a reset has got to, its session has no schema exactly if there was no use
of it yet, and a use finds what the first use of the whole run finds. -/
theorem use_in_run {ev : Event} {done rest : List Event} (hcache : e.cache = .unloaded)
    (hreset : ∀ ev' ∈ done ++ ev :: rest, ev'.operation ≠ .reset)
    (hload : ∀ ev', firstUse? e.triggers (done ++ ev :: rest) = some ev' →
      ∀ f, Schema.load ev'.files e.source ≠ .error (.fault f)) :
    ((e.after done).cache = .unloaded ↔ firstUse? e.triggers done = none) ∧
    (ev.operation.usesSchema e.triggers = true →
      (e.after done).cacheInUse ev.files =
          (firstUse? e.triggers (done ++ ev :: rest)).elim .unloaded
            fun ev' => .ofLoad (Schema.load ev'.files e.source)) ∧
    (ev.operation.usesSchema e.triggers = true → firstUse? e.triggers done = none →
      ∀ f, Schema.load ev.files e.source ≠ .error (.fault f)) := by
  have hdone : ∀ ev' ∈ done, ev'.operation ≠ .reset :=
    fun ev' hev => hreset ev' (List.mem_append_left _ hev)
  have hsplit : firstUse? e.triggers (done ++ ev :: rest) =
      (firstUse? e.triggers done).or (firstUse? e.triggers (ev :: rest)) := List.find?_append
  cases hfirst : firstUse? e.triggers done with
  | some first =>
    rw [hfirst, Option.some_or] at hsplit
    have hsafe := hload first hsplit
    have hloaded : (e.after done).cache = .ofLoad (Schema.load first.files e.source) := by
      have hafter := (after_unloaded hcache hdone (by rw [hfirst]; rintro ev' ⟨⟩; exact hsafe)).1
      rwa [hfirst] at hafter
    have hsettled : (e.after done).cache ≠ .unloaded := by
      rw [hloaded]
      exact Cache.ofLoad_ne_unloaded hsafe
    refine ⟨?_, ?_, ?_⟩
    · simp [hsettled]
    · intro _
      rw [cacheInUse_of_settled ev.files hsettled, hsplit, hloaded]
      rfl
    · intro _ hnone
      cases hnone
  | none =>
    rw [hfirst, Option.none_or] at hsplit
    have hunloaded : (e.after done).cache = .unloaded := by
      have hafter := (after_unloaded hcache hdone (by rw [hfirst]; rintro ev' ⟨⟩)).1
      rwa [hfirst] at hafter
    have hev (huse : ev.operation.usesSchema e.triggers = true) :
        firstUse? e.triggers (done ++ ev :: rest) = some ev := by
      rw [hsplit]
      exact List.find?_cons_of_pos huse
    refine ⟨?_, ?_, ?_⟩
    · simp [hunloaded]
    · intro huse
      rw [cacheInUse_of_unloaded ev.files hunloaded, after_source, hev huse]
      rfl
    · intro huse _
      exact hload ev (hev huse)

end Runs

end Engine

/-! ### From one reset to the next -/

theorem Cache.root?_ofLoad (outcome : Except LoadFailure Built) :
    (Cache.ofLoad outcome).root? = outcome.toOption.map (·.root) := by
  cases outcome with
  | ok built => rfl
  | error failure =>
    cases failure with
    | error err => rfl
    | fault f => rfl

theorem stats_loaded_failed (e : Engine) :
    ¬ (e.stats.get? "schema_loaded" = some (.bool true) ∧
      e.stats.get? "schema_failed" = some (.bool true)) := by
  rintro ⟨hloaded, hfailed⟩
  obtain ⟨source, triggers, cache, requests⟩ := e
  cases cache with
  | unloaded => cases hloaded
  | loaded root => cases hfailed
  | failed => cases hloaded

theorem cache_after_reset {source : Source} {triggers : List String} {before : List Event}
    (hbefore : before = [] ∨ ∃ earlier files, before = earlier ++ [⟨files, .reset⟩]) :
    ((Engine.start source triggers).after before).cache = .unloaded := by
  rcases hbefore with rfl | ⟨earlier, files, rfl⟩
  · rfl
  · rw [Engine.after_append]
    rfl

/-- The life of a session.  At no time does it count its schema as loaded and as failed, and it
counts every request since it was made.  From one reset to the next it tries to load the schema at
most once: at the first schema access or accepted request, and no other operation looks at the
files.  All completions up to the next reset are those of a session on the tree that this load gave;
they are empty if it gave none. -/
theorem completions_of_one_load (source : Source) (triggers : List String)
    {before segment : List Event}
    (hbefore : before = [] ∨ ∃ earlier files, before = earlier ++ [⟨files, .reset⟩])
    (hreset : ∀ ev ∈ segment, ev.operation ≠ .reset)
    (hload : ∀ ev, firstUse? triggers segment = some ev →
      ∀ f, Schema.load ev.files source ≠ .error (.fault f)) :
    let start := Engine.start source triggers
    let e := start.after before
    let tree :=
      (firstUse? triggers segment).bind fun ev =>
        (Schema.load ev.files source).toOption.map (·.root)
    (∀ events,
      ¬ ((start.after events).stats.get? "schema_loaded" = some (.bool true) ∧
        (start.after events).stats.get? "schema_failed" = some (.bool true)) ∧
      (start.after events).stats.get? "requests" =
        some (.int (events.countP (·.operation.completes)))) ∧
    loads (e.logged segment) = (if (firstUse? triggers segment).isSome then 1 else 0) ∧
    ∀ done ev rest, segment = done ++ ev :: rest →
      let s := e.after done
      let answer := s.perform ev.files ev.operation
      loads answer.2.2 =
        (if (firstUse? triggers done).isNone && ev.operation.usesSchema triggers then 1 else 0) ∧
      (loads answer.2.2 = 0 → ∀ files, s.perform files ev.operation = answer) ∧
      (∀ text p trigger, ev.operation.request? = some (text, p, trigger) →
        answer.1 = .items
          (tree.elim [] fun root =>
            ((Engine.ofSchema root triggers).complete ev.files text p trigger).1)) ∧
      (ev.operation = .schema → answer.1 = .schema (.ok tree)) := by
  intro start e tree
  have hcache : e.cache = .unloaded := cache_after_reset hbefore
  have hsource : e.source = source := Engine.after_source start before
  have htriggers : e.triggers = triggers := Engine.after_triggers start before
  rw [← htriggers, ← hsource] at hload
  refine ⟨?_, ?_, ?_⟩
  · intro events
    refine ⟨stats_loaded_failed _, ?_⟩
    have hrequests : (start.after events).requests = events.countP (·.operation.completes) := by
      rw [Engine.after_requests]
      exact Nat.zero_add _
    rw [← hrequests]
    rfl
  · rw [← htriggers]
    exact (Engine.after_unloaded hcache hreset hload).2
  · rintro done ev rest rfl s answer
    obtain ⟨hunused, hfound, hsafe⟩ := Engine.use_in_run hcache hreset hload
    have hstriggers : s.triggers = triggers := (Engine.after_triggers e done).trans htriggers
    have hssource : s.source = e.source := Engine.after_source e done
    rw [htriggers] at hunused hfound hsafe
    have htree (huse : ev.operation.usesSchema triggers = true) :
        (s.cacheInUse ev.files).root? = tree := by
      rw [hfound huse, hsource]
      simp only [tree]
      cases firstUse? triggers (done ++ ev :: rest) with
      | none => rfl
      | some first => exact Cache.root?_ofLoad _
    have hloads : loads answer.2.2 =
        (if (firstUse? triggers done).isNone &&
          ev.operation.usesSchema triggers then 1 else 0) := by
      rw [Engine.perform_loads, hstriggers]
      cases huse : ev.operation.usesSchema triggers with
      | false => simp
      | true =>
        cases hfirst : firstUse? triggers done with
        | none =>
          have hsafe' : ∀ f, Schema.load ev.files s.source ≠ .error (.fault f) :=
            hssource ▸ hsafe huse hfirst
          rw [Engine.ensureSchema_loads (e := s) ev.files (hunused.mpr hfirst) hsafe']
          rfl
        | some first =>
          have hsettled : s.cache ≠ .unloaded := by simp [s, hunused, hfirst]
          rw [Engine.ensureSchema_loads_of_settled ev.files hsettled]
          rfl
    refine ⟨hloads, ?_, ?_, ?_⟩
    · intro hzero files
      apply Engine.perform_files
      intro huse hunloaded
      rw [hstriggers] at huse
      rw [hloads, hunused.mp hunloaded, huse] at hzero
      cases hzero
    · intro text p trigger hrequest
      rw [← hstriggers]
      apply Engine.perform_items s ev.files hrequest
      rwa [hstriggers]
    · intro hschema
      have huse : ev.operation.usesSchema triggers = true := by
        rw [hschema]
        rfl
      have hroot := Engine.ensureSchema_root s ev.files
        (fun hunloaded => hssource ▸ hsafe huse (hunused.mp hunloaded))
      rw [htree huse] at hroot
      simp only [answer, hschema, Engine.perform, hroot]

/-- A file with a schema of one property. -/
def modelFiles : Store :=
  ⟨["home"], [(["home", "m.yaml"],
    .file ("spec:\n properties:\n  Name:\n   type: string".toList.map fun c => c.toNat.toUInt8))]⟩

def modelSource : Source := .file ⟨"", ["m.yaml"]⟩

/-- A load that failed is forgotten by a reset.  Then a rejected request does not load the schema,
and the second accepted one is answered although the file is gone. -/
theorem completions_of_one_load_sample :
    (Schema.load modelFiles modelSource).isOk = true ∧
      let asked := Operation.complete "" ⟨0, 0⟩ none
      let e := (Engine.start modelSource []).after [⟨.empty, asked⟩, ⟨.empty, .reset⟩]
      let done := [⟨.empty, .complete "N" ⟨0, 1⟩ (some "N")⟩, ⟨modelFiles, asked⟩]
      loads (e.logged (done ++ [⟨.empty, asked⟩])) = 1 ∧
      (Schema.load modelFiles modelSource).toOption.map (fun built =>
        ((Engine.ofSchema built.root []).complete .empty "" ⟨0, 0⟩ none).1.map (·.label)) =
          some ["Name"] ∧
      ((e.after done).perform .empty asked).1 = .items
        (((Schema.load modelFiles modelSource).toOption.map (·.root)).elim []
          fun root => ((Engine.ofSchema root []).complete .empty "" ⟨0, 0⟩ none).1) := by
  have hok : (Schema.load modelFiles modelSource).isOk = true := by decide +kernel
  refine ⟨hok, ?_⟩
  intro asked e done
  have hfirst : firstUse? [] (done ++ [⟨.empty, asked⟩]) = some ⟨modelFiles, asked⟩ := by
    have hrejected : (Operation.complete "N" ⟨0, 1⟩ (some "N")).usesSchema [] = false := by decide
    have haccepted : asked.usesSchema [] = true := by decide
    simp [done, firstUse?, hrejected, haccepted]
  have hlife := @completions_of_one_load modelSource [] [⟨.empty, asked⟩, ⟨.empty, .reset⟩]
    (done ++ [⟨.empty, asked⟩])
    (Or.inr ⟨[⟨.empty, asked⟩], .empty, rfl⟩)
    (by simp [done, asked])
    (by
      intro ev hev f hfault
      rw [hfirst] at hev
      cases hev
      rw [hfault] at hok
      cases hok)
  simp only [hfirst, Option.bind_some] at hlife
  refine ⟨hlife.2.1, ?_, ?_⟩
  · decide +kernel
  · exact (hlife.2.2 done ⟨.empty, asked⟩ [] rfl).2.2.1 "" ⟨0, 0⟩ none rfl

end SchemaAssist.Completion
