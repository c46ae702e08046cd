/-
  The service, line by line.

  A line is blank, or it ends the service, or it gets a response (`handleLine_blank`,
  `handleLine_fatal`, `handleLine_response`).  What ends the service is not an invalid request but
  one of two things that are read before any handler runs: an integer with too many digits, and a
  method that cannot be looked up because it is a list or an object (`fatal?`).  `run` answers the
  other lines one by one, in order, until it meets such a line (`service_answers`).
-/
import SchemaAssist.Proofs.JsonLimit
import SchemaAssist.Proofs.JsonText
import SchemaAssist.Proofs.Lines
import SchemaAssist.Service.Handler

namespace SchemaAssist.Service

open Completion Document Files

/-! ### Requests -/

/-- Why the method of a request cannot be looked up. -/
def methodFault? (request : Json) : Option Fault :=
  match (request.get? "method").getD .null with
  | .arr _ => some (.unhashable "list")
  | .obj _ => some (.unhashable "dict")
  | _ => none

/-- A response carries a result or an error. -/
def IsResponse (v : Json) : Prop :=
  (∃ result id, v = resultMessage result id) ∨ ∃ code message id, v = errorAnswer code message id

theorem serve_isResponse (files : Store) (e : Engine) (request : Json) (m : Method) :
    IsResponse (serve files e request m).1 := by
  unfold serve
  split
  · exact Or.inl ⟨_, _, rfl⟩
  · exact Or.inr ⟨_, _, _, rfl⟩
  · exact Or.inr ⟨_, _, _, rfl⟩

theorem handleRequest_of_methodFault {request : Json} {f : Fault}
    (h : methodFault? request = some f) (files : Store) (e : Engine) :
    handleRequest files e request = (.error f, e, []) := by
  unfold methodFault? at h
  cases request with
  | obj members =>
    unfold handleRequest
    split at h
    · rename_i hmethod
      cases h
      simp only [hmethod]
    · rename_i hmethod
      cases h
      simp only [hmethod]
    · cases h
  | null => cases h
  | bool b => cases h
  | int n => cases h
  | float x => cases h
  | str s => cases h
  | arr items => cases h

theorem handleRequest_isResponse {request : Json} (h : methodFault? request = none) (files : Store)
    (e : Engine) :
    ∃ response, (handleRequest files e request).1 = .ok response ∧ IsResponse response := by
  have herror (code : ErrorCode) (message : String) (id : Json) :
      IsResponse (errorAnswer code message id) :=
    Or.inr ⟨code, message, id, rfl⟩
  cases request with
  | obj members =>
    unfold methodFault? at h
    unfold handleRequest
    simp only
    split
    · rename_i hmethod
      rw [hmethod] at h
      cases h
    · rename_i hmethod
      rw [hmethod] at h
      cases h
    · split
      · exact ⟨_, rfl, serve_isResponse files e _ _⟩
      · exact ⟨_, rfl, herror _ _ _⟩
    · exact ⟨_, rfl, herror _ _ _⟩
  | null => exact ⟨_, rfl, herror _ _ _⟩
  | bool b => exact ⟨_, rfl, herror _ _ _⟩
  | int n => exact ⟨_, rfl, herror _ _ _⟩
  | float x => exact ⟨_, rfl, herror _ _ _⟩
  | str s => exact ⟨_, rfl, herror _ _ _⟩
  | arr items => exact ⟨_, rfl, herror _ _ _⟩

/-! ### Lines -/

/-- What a line ends the service with. -/
def fatal? (line : List Char) : Option Fault :=
  match Json.parseChars (Text.trim line) with
  | .ok request => methodFault? request
  | .error (.digitLimit n) => some (.digitLimit n)
  | .error (.flaw _ _) => none

theorem trim_eq_nil_iff {line : List Char} : Text.trim line = [] ↔ blankLine line = true := by
  rw [blankLine, List.all_eq_true]
  constructor
  · intro h
    have hrest : ∀ c ∈ Text.trimStart line, Text.isBlank c = true := by
      have hnil := List.dropWhile_eq_nil_iff.mp (List.reverse_eq_nil_iff.mp h)
      exact fun c hc => hnil c (List.mem_reverse.mpr hc)
    intro c hc
    rw [← List.takeWhile_append_dropWhile (p := Text.isBlank) (l := line)] at hc
    rcases List.mem_append.mp hc with hc | hc
    · exact List.mem_takeWhile_imp hc
    · exact hrest c hc
  · intro h
    exact Text.trim_of_blanks h

theorem handleLine_blank {line : List Char} (h : blankLine line = true) (files : Store)
    (e : Engine) :
    handleLine files e line = (.ok none, e, []) := by
  unfold handleLine
  rw [trim_eq_nil_iff.mpr h]
  rfl

theorem fatal?_blank {line : List Char} (h : blankLine line = true) : fatal? line = none := by
  unfold fatal?
  rw [trim_eq_nil_iff.mpr h]
  rfl

theorem handleLine_fatal {line : List Char} {f : Fault} (h : fatal? line = some f) (files : Store)
    (e : Engine) :
    handleLine files e line = (.error f, e, []) := by
  have hblank : ¬ (Text.trim line).isEmpty = true := by
    intro hempty
    rw [fatal?_blank (trim_eq_nil_iff.mp (List.isEmpty_iff.mp hempty))] at h
    cases h
  unfold fatal? at h
  unfold handleLine
  simp only
  rw [if_neg hblank]
  split at h
  · rename_i request hparse
    rw [hparse]
    simp only [handleRequest_of_methodFault h]
  · rename_i n hparse
    rw [hparse]
    cases h
    rfl
  · cases h

theorem handleLine_response {line : List Char} (hblank : blankLine line = false)
    (h : fatal? line = none) (files : Store) (e : Engine) :
    ∃ response, (handleLine files e line).1 = .ok (some response) ∧ IsResponse response := by
  have hbody : ¬ (Text.trim line).isEmpty = true := by
    intro hempty
    rw [trim_eq_nil_iff.mp (List.isEmpty_iff.mp hempty)] at hblank
    cases hblank
  unfold fatal? at h
  unfold handleLine
  simp only
  rw [if_neg hbody]
  split at h
  · rename_i request hparse
    rw [hparse]
    obtain ⟨response, hanswer, hresponse⟩ := handleRequest_isResponse h files e
    refine ⟨response, ?_, hresponse⟩
    simp only
    split
    · rename_i answer _ _ hrequest
      rw [hrequest] at hanswer
      cases hanswer
      rfl
    · rename_i f _ _ hrequest
      rw [hrequest] at hanswer
      cases hanswer
  · cases h
  · rename_i flaw left hparse
    rw [hparse]
    exact ⟨_, rfl, Or.inr ⟨_, _, _, rfl⟩⟩

/-- A line that ends the service by an integer holds all the digits of that integer. -/
theorem longRun_of_fatal? {line : List Char} {n : Nat} (h : fatal? line = some (.digitLimit n)) :
    Json.LongRun n (Text.trim line) := by
  unfold fatal? at h
  split at h
  · rename_i request _
    unfold methodFault? at h
    split at h
    · cases h
    · cases h
    · cases h
  · rename_i m hparse
    cases h
    exact Json.longRun_of_parseChars hparse
  · cases h

/-! ### The loop -/

/-- The session after some lines. -/
def engineAfter (files : Store) (e : Engine) (lines : List (List Char)) : Engine :=
  lines.foldl (fun e line => (handleLine files e line).2.1) e

/-- Whether a line leaves the service running. -/
def survives (line : List Char) : Bool := (fatal? line).isNone

/-- Whether a line gets a response. -/
def answered (line : List Char) : Bool := !blankLine line

section Loop

variable (files : Store)

theorem answerLines_fatal (e : Engine) {line : List Char} {f : Fault} (h : fatal? line = some f)
    (rest : List (List Char)) : answerLines files e (line :: rest) = ⟨[], e, [], some f⟩ := by
  rw [answerLines, handleLine_fatal h]

theorem answerLines_ok (e : Engine) {line : List Char} {answer : Option Json}
    (h : (handleLine files e line).1 = .ok answer) (rest : List (List Char)) :
    (answerLines files e (line :: rest)).failure =
      (answerLines files (engineAfter files e [line]) rest).failure ∧
      (answerLines files e (line :: rest)).output =
        (answer.map Json.render).toList ++
          (answerLines files (engineAfter files e [line]) rest).output := by
  rw [answerLines, engineAfter, List.foldl_cons, List.foldl_nil]
  rcases hline : handleLine files e line with ⟨outcome, e', records⟩
  rw [hline] at h
  cases h
  exact ⟨rfl, rfl⟩

/-- One turn of the loop on a line that does not end it. -/
theorem answerLines_survives (e : Engine) {line : List Char} (h : survives line = true)
    (rest : List (List Char)) :
    ∃ answer, (handleLine files e line).1 = .ok answer ∧ answer.isSome = answered line ∧
      (∀ response ∈ answer, IsResponse response) ∧
      (answerLines files e (line :: rest)).failure =
        (answerLines files (engineAfter files e [line]) rest).failure ∧
      (answerLines files e (line :: rest)).output =
        (answer.map Json.render).toList ++
          (answerLines files (engineAfter files e [line]) rest).output := by
  cases hblank : blankLine line with
  | true =>
    have hnone : (handleLine files e line).1 = .ok none := by rw [handleLine_blank hblank]
    refine ⟨none, hnone, ?_, ?_, answerLines_ok files e hnone rest⟩
    · simp [answered, hblank]
    · intro response hresponse
      cases hresponse
  | false =>
    obtain ⟨response, hsome, hresponse⟩ :=
      handleLine_response hblank (Option.isNone_iff_eq_none.mp h) files e
    refine ⟨some response, hsome, ?_, ?_, answerLines_ok files e hsome rest⟩
    · simp [answered, hblank]
    · rintro r ⟨⟩
      exact hresponse

/-- The loop ends early exactly on the first line that ends it. -/
theorem answerLines_failure (e : Engine) (lines : List (List Char)) :
    (answerLines files e lines).failure = lines.findSome? fatal? := by
  induction lines generalizing e with
  | nil => rfl
  | cons line rest ih =>
    rw [List.findSome?_cons]
    cases hfatal : fatal? line with
    | some f => rw [answerLines_fatal files e hfatal]
    | none =>
      obtain ⟨_, _, _, _, hfailure, _⟩ :=
        answerLines_survives files e (Option.isNone_iff_eq_none.mpr hfatal) rest
      rw [hfailure, ih]

theorem answerLines_length (e : Engine) (lines : List (List Char)) :
    (answerLines files e lines).output.length =
      ((lines.takeWhile survives).filter answered).length := by
  induction lines generalizing e with
  | nil => rfl
  | cons line rest ih =>
    cases hfatal : fatal? line with
    | some f =>
      rw [answerLines_fatal files e hfatal, List.takeWhile_cons_of_neg (by simp [survives, hfatal])]
      rfl
    | none =>
      have hsurvives : survives line = true := Option.isNone_iff_eq_none.mpr hfatal
      obtain ⟨answer, _, hanswered, _, _, houtput⟩ := answerLines_survives files e hsurvives rest
      rw [houtput, List.takeWhile_cons_of_pos hsurvives, List.length_append, ih,
        List.filter_cons, ← hanswered]
      cases answer with
      | none => simp
      | some response => simp [Nat.add_comm]

/-- Each line gets its response in its turn, from the session that the lines before it left. -/
theorem answerLines_get (e : Engine) (before : List (List Char)) {line : List Char}
    (after : List (List Char)) (hbefore : ∀ l ∈ before, survives l = true)
    (hline : survives line = true) (hanswered : answered line = true) :
    ∃ response, (handleLine files (engineAfter files e before) line).1 = .ok (some response) ∧
      IsResponse response ∧
      (answerLines files e (before ++ line :: after)).output[(before.filter answered).length]? =
        some response.render := by
  induction before generalizing e with
  | nil =>
    obtain ⟨answer, hok, hsome, hresponse, _, houtput⟩ := answerLines_survives files e hline after
    rw [hanswered] at hsome
    obtain ⟨response, rfl⟩ := Option.isSome_iff_exists.mp hsome
    refine ⟨response, hok, hresponse response rfl, ?_⟩
    rw [List.nil_append, houtput]
    rfl
  | cons first before ih =>
    obtain ⟨answer, _, hsome, _, _, houtput⟩ :=
      answerLines_survives files e (hbefore first List.mem_cons_self) (before ++ line :: after)
    obtain ⟨response, hok, hresponse, hget⟩ :=
      ih (engineAfter files e [first]) (fun l hl => hbefore l (List.mem_cons_of_mem first hl))
    refine ⟨response, hok, hresponse, ?_⟩
    rw [List.cons_append, houtput, List.filter_cons, ← hsome]
    cases answer with
    | none => simpa using hget
    | some r => simpa using hget

theorem run_failure (e : Engine) (input : List Char) :
    (run files e input).failure = (inputLines input).findSome? fatal? :=
  answerLines_failure files e (inputLines input)

theorem run_length (e : Engine) (input : List Char) :
    (run files e input).output.length =
      (((inputLines input).takeWhile survives).filter answered).length :=
  answerLines_length files e (inputLines input)

end Loop

/-- The account of the service.  A line has no answer exactly if nothing is left of it when it is
trimmed, and it ends the service exactly if `fatal?` says so, which for an integer means that its
digits stand in the line; every other line gets a response.  A run stops at the first line that ends
it.  Up to there it writes one line for each line of its input that is not blank, in their order,
each answered by the session that the lines before it left. -/
theorem service_answers (files : Store) (e : Engine) :
    (∀ line,
      ((handleLine files e line).1 = .ok none ↔ Text.trim line = []) ∧
      (∀ f, (handleLine files e line).1 = .error f ↔ fatal? line = some f) ∧
      (∀ n, fatal? line = some (.digitLimit n) → Json.LongRun n (Text.trim line)) ∧
      (Text.trim line ≠ [] → fatal? line = none →
        ∃ response, (handleLine files e line).1 = .ok (some response) ∧ IsResponse response)) ∧
    ∀ input,
      let lines := inputLines input
      let served := lines.takeWhile survives
      (run files e input).failure = lines.findSome? fatal? ∧
      (run files e input).output.length = (served.filter answered).length ∧
      ∀ before line after, served = before ++ line :: after → answered line = true →
        ∃ response, (handleLine files (engineAfter files e before) line).1 = .ok (some response) ∧
          IsResponse response ∧ '\n' ∉ response.render.toList ∧
          (run files e input).output[(before.filter answered).length]? = some response.render := by
  constructor
  · intro line
    have hblank : Text.trim line = [] ↔ blankLine line = true := trim_eq_nil_iff
    refine ⟨⟨?_, ?_⟩, fun f => ⟨?_, ?_⟩, fun n => longRun_of_fatal?, ?_⟩
    · intro hnone
      cases hfatal : fatal? line with
      | some f =>
        rw [handleLine_fatal hfatal] at hnone
        cases hnone
      | none =>
        cases hcase : blankLine line with
        | true => exact hblank.mpr hcase
        | false =>
          obtain ⟨response, hsome, _⟩ := handleLine_response hcase hfatal files e
          rw [hnone] at hsome
          cases hsome
    · intro htrim
      rw [handleLine_blank (hblank.mp htrim)]
    · intro herror
      cases hfatal : fatal? line with
      | some g =>
        rw [handleLine_fatal hfatal] at herror
        cases herror
        rfl
      | none =>
        obtain ⟨answer, hok, _⟩ :=
          answerLines_survives files e (Option.isNone_iff_eq_none.mpr hfatal) []
        rw [herror] at hok
        cases hok
    · intro hfatal
      rw [handleLine_fatal hfatal]
    · intro htrim hfatal
      have hfalse : blankLine line = false := by simpa using mt hblank.mpr htrim
      exact handleLine_response hfalse hfatal files e
  · intro input lines served
    refine ⟨run_failure files e input, run_length files e input, ?_⟩
    intro before line after hserved hanswered
    have hsurvives : ∀ l ∈ served, survives l = true := fun l hl => List.mem_takeWhile_imp hl
    have hlines : lines = before ++ line :: (after ++ lines.dropWhile survives) := by
      rw [← List.cons_append, ← List.append_assoc, ← hserved]
      exact List.takeWhile_append_dropWhile.symm
    rw [hserved] at hsurvives
    obtain ⟨response, hok, hresponse, hget⟩ :=
      answerLines_get files e before (after ++ lines.dropWhile survives)
      (fun l hl => hsurvives l (List.mem_append_left _ hl)) (hsurvives line (by simp)) hanswered
    rw [← hlines] at hget
    refine ⟨response, hok, hresponse, ?_, hget⟩
    rw [Json.render, String.toList_ofList]
    exact (Json.oneLine_renderChars response).not_mem (by decide)

/-- Two requests, the first with a list for its method. -/
def listMethodInput : List Char := "\x7b\"method\": []\x7d\n\x7b\"method\": \"ping\"\x7d\n".toList

/-- A method that is a list ends the service, so that the request after it gets no response. -/
theorem run_stops_at_list_method :
    ((inputLines listMethodInput).filter answered).length = 2 ∧
      (run .empty (Engine.start .bundled defaultTriggers) listMethodInput).output.length = 0 ∧
      (run .empty (Engine.start .bundled defaultTriggers) listMethodInput).failure =
        some (.unhashable "list") := by
  rw [run_length, run_failure]
  decide +kernel

end SchemaAssist.Service
