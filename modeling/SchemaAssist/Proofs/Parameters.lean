/-
  The parameters of a completion request, and what is said about bad ones.

  Parameters are taken exactly if they have the right shape and both numbers of the position read as
  integers (`readParams_eq_ok_iff`); `IntegerOf` says which values do, and as which integer.  All
  else is reported as invalid, with one exception: an infinite number is met too late, so that the
  fault it raises is reported as one of the service itself (`params_reported`).
-/
import SchemaAssist.Proofs.IntegerText
import SchemaAssist.Proofs.Responses

namespace SchemaAssist.Service

open Completion Files Number

/-! ### Values that read as integers -/

/-- The integer that a value reads as.  Integers and truth values always do, finite doubles lose
their fraction, and a text must be written as an integer. -/
inductive IntegerOf : Json → Int → Prop where
  | int (n : Int) : IntegerOf (.int n) n
  | bool (b : Bool) : IntegerOf (.bool b) (if b then 1 else 0)
  | float {x : Binary64} {n : Int} (finite : x.truncate? = some n) : IntegerOf (.float x) n
  | text {s : String} {n : Int} (written : IntegerText s.toList n) : IntegerOf (.str s) n

/-- Whether a value reads as an integer. -/
def Convertible (v : Json) : Prop := ∃ n, IntegerOf v n

/-- Whether a value is an infinite double. -/
def IsInfinite (v : Json) : Prop := ∃ negative, v = .float (.infinite negative)

theorem toInteger_eq_ok_iff {v : Json} {n : Int} : toInteger v = .ok n ↔ IntegerOf v n := by
  constructor
  · intro h
    cases v with
    | int m =>
      cases h
      exact .int n
    | bool b =>
      cases h
      exact .bool b
    | str s => exact .text (readInteger_eq_ok_iff.mp h)
    | float x =>
      cases x with
      | finite negative m e =>
        cases h
        exact .float rfl
      | nan => cases h
      | infinite negative => cases h
    | null => cases h
    | arr items => cases h
    | obj members => cases h
  · rintro (_ | _ | finite | written)
    · rfl
    · rfl
    · rename_i x
      cases x with
      | finite negative m e => exact congrArg Except.ok (Option.some.inj finite)
      | nan => cases finite
      | infinite negative => cases finite
    · exact readInteger_eq_ok_iff.mpr written

theorem toInteger_eq_infinity_iff {v : Json} :
    toInteger v = .error .integerOfInfinity ↔ IsInfinite v := by
  constructor
  · intro h
    cases v with
    | float x =>
      cases x with
      | infinite negative => exact ⟨negative, rfl⟩
      | nan => cases h
      | finite negative m e => cases h
    | str s =>
      rcases readInteger_eq_error h with hcause | ⟨count, hcause⟩
      · cases hcause
      · cases hcause
    | int m => cases h
    | bool b => cases h
    | null => cases h
    | arr items => cases h
    | obj members => cases h
  · rintro ⟨negative, rfl⟩
    rfl

/-! ### The numbers of a position -/

/-- The value given for a number of the position; where there is none the number is zero. -/
def coordinateOf (params : Json) (name : String) : Json :=
  ((params.get? "position").bind (·.get? name)).getD (.int 0)

section Coordinate

variable {position : Json} {name : String}

theorem coordinate_eq_ok_iff {n : Int} :
    coordinate position name = .ok n ↔ IntegerOf ((position.get? name).getD (.int 0)) n := by
  rw [← toInteger_eq_ok_iff]
  unfold coordinate
  split
  · rename_i m hm
    rw [hm]
    simp
  · rename_i hm
    rw [hm]
    simp
  · rename_i cause _ hm
    rw [hm]
    simp

theorem coordinate_eq_fault_iff {f : Fault} :
    coordinate position name = .error (.fault f) ↔
      f = .integerOfInfinity ∧ IsInfinite ((position.get? name).getD (.int 0)) := by
  rw [← toInteger_eq_infinity_iff]
  unfold coordinate
  split
  · rename_i m hm
    rw [hm]
    simp
  · rename_i hm
    rw [hm]
    simp [eq_comm]
  · rename_i cause hcause hm
    rw [hm]
    simpa using fun _ => hcause

end Coordinate

/-! ### Parameters -/

/-- Parameters of the right shape, the numbers of the position left aside: an object with a text as
content, an object as position if there is one, and a text as trigger if there is one. -/
structure Shaped (params : Json) : Prop where
  object : ∃ members, params = .obj members
  content : ∃ content, params.get? "content" = some (.str content)
  position : ∀ v ∈ params.get? "position", ∃ members, v = .obj members
  trigger : ∀ v ∈ params.get? "triggerCharacter", v = .null ∨ ∃ trigger, v = .str trigger

/-- What parameters ask for. -/
structure Reads (params : Json) (p : CompletionParams) : Prop where
  shaped : Shaped params
  content : params.get? "content" = some (.str p.content)
  line : IntegerOf (coordinateOf params "line") p.position.line
  column : IntegerOf (coordinateOf params "character") p.position.column
  trigger : (params.get? "triggerCharacter").getD .null = .optional p.trigger

section Params

variable {params : Json}

/-- Parameters of the right shape come down to their two numbers, the line first. -/
theorem readParams_of_shaped (h : Shaped params) :
    ∃ content trigger position,
      params.get? "content" = some (.str content) ∧
      (params.get? "triggerCharacter").getD .null = .optional trigger ∧
      (∀ name, (position.get? name).getD (.int 0) = coordinateOf params name) ∧
      readParams params = (do
        let line ← coordinate position "line"
        let column ← coordinate position "character"
        pure ⟨content, ⟨line, column⟩, trigger⟩) := by
  obtain ⟨⟨members, rfl⟩, ⟨content, hcontent⟩, hposition, htrigger⟩ := h
  -- A position that is not given reads as an empty one, where both numbers are absent.
  obtain ⟨fields, hfields⟩ : ∃ fields, ((Json.obj members).get? "position").getD (.obj []) =
      .obj fields := by
    cases hget : (Json.obj members).get? "position" with
    | none => exact ⟨[], rfl⟩
    | some v => exact hposition v hget
  have hcoordinate : ∀ name, ((Json.obj fields).get? name).getD (.int 0) =
      coordinateOf (.obj members) name := by
    intro name
    rw [← hfields, coordinateOf]
    cases (Json.obj members).get? "position" with
    | none => rfl
    | some v => rfl
  cases hget : (Json.obj members).get? "triggerCharacter" with
  | none =>
    refine ⟨content, none, .obj fields, hcontent, rfl, hcoordinate, ?_⟩
    simp only [readParams, hcontent, hfields, hget, Option.getD_none]
  | some v =>
    rcases htrigger v hget with rfl | ⟨trigger, rfl⟩
    · refine ⟨content, none, .obj fields, hcontent, rfl, hcoordinate, ?_⟩
      simp only [readParams, hcontent, hfields, hget, Option.getD_some]
    · refine ⟨content, some trigger, .obj fields, hcontent, rfl, hcoordinate, ?_⟩
      simp only [readParams, hcontent, hfields, hget, Option.getD_some]

/-- Parameters of any other shape are invalid. -/
theorem readParams_of_not_shaped (h : ¬ Shaped params) :
    ∃ reason, readParams params = .error (.invalid reason) := by
  cases params with
  | obj members =>
    simp only [readParams]
    split
    · rename_i content hcontent
      split
      · rename_i fields hfields
        have hposition : ∀ v ∈ (Json.obj members).get? "position", ∃ members, v = .obj members := by
          intro v hv
          rw [Option.mem_def.mp hv] at hfields
          exact ⟨fields, hfields⟩
        split
        · rename_i htrigger
          refine absurd ⟨⟨members, rfl⟩, ⟨content, hcontent⟩, hposition, ?_⟩ h
          intro v hv
          rw [Option.mem_def.mp hv] at htrigger
          exact Or.inl htrigger
        · rename_i trigger htrigger
          refine absurd ⟨⟨members, rfl⟩, ⟨content, hcontent⟩, hposition, ?_⟩ h
          intro v hv
          rw [Option.mem_def.mp hv] at htrigger
          exact Or.inr ⟨trigger, htrigger⟩
        · exact ⟨_, rfl⟩
      · exact ⟨_, rfl⟩
    · exact ⟨_, rfl⟩
  | _ => exact ⟨_, rfl⟩

theorem optional_injective : Function.Injective Json.optional := by
  intro a b h
  cases a with
  | none =>
    cases b with
    | none => rfl
    | some t => cases h
  | some s =>
    cases b with
    | none => cases h
    | some t =>
      cases h
      rfl

/-- Parameters are taken exactly if they are an object that asks for something. -/
theorem readParams_eq_ok_iff {p : CompletionParams} :
    readParams params = .ok p ↔ Reads params p := by
  by_cases hshaped : Shaped params
  · obtain ⟨content, trigger, position, hcontent, htrigger, hcoordinate, hread⟩ :=
      readParams_of_shaped hshaped
    rw [hread]
    constructor
    · intro h
      cases hline : coordinate position "line" with
      | error failure =>
        rw [hline] at h
        cases h
      | ok line =>
        cases hcolumn : coordinate position "character" with
        | error failure =>
          rw [hline, hcolumn] at h
          cases h
        | ok column =>
          rw [hline, hcolumn] at h
          cases h
          rw [coordinate_eq_ok_iff, hcoordinate] at hline hcolumn
          exact ⟨hshaped, hcontent, hline, hcolumn, htrigger⟩
    · rintro ⟨_, hcontent', hline, hcolumn, htrigger'⟩
      rw [← hcoordinate, ← coordinate_eq_ok_iff] at hline hcolumn
      obtain rfl : content = p.content :=
        Json.str.inj (Option.some.inj (hcontent.symm.trans hcontent'))
      obtain rfl : trigger = p.trigger := optional_injective (htrigger.symm.trans htrigger')
      rw [hline, hcolumn]
      rfl
  · obtain ⟨reason, hinvalid⟩ := readParams_of_not_shaped hshaped
    rw [hinvalid]
    constructor
    · intro h
      cases h
    · intro h
      exact (hshaped h.shaped).elim

/-- Parameters of the right shape whose numbers can be read are taken. -/
theorem exists_readParams_iff :
    (∃ p, readParams params = .ok p) ↔
      Shaped params ∧ Convertible (coordinateOf params "line") ∧
        Convertible (coordinateOf params "character") := by
  simp only [readParams_eq_ok_iff]
  constructor
  · rintro ⟨p, h⟩
    exact ⟨h.shaped, ⟨_, h.line⟩, ⟨_, h.column⟩⟩
  · rintro ⟨hshaped, ⟨line, hline⟩, ⟨column, hcolumn⟩⟩
    obtain ⟨content, trigger, _, hcontent, htrigger, _, _⟩ := readParams_of_shaped hshaped
    exact ⟨⟨content, ⟨line, column⟩, trigger⟩, hshaped, hcontent, hline, hcolumn, htrigger⟩

/-- Parameters meet a fault exactly if the first number that cannot be read is infinite. -/
theorem readParams_eq_fault_iff {f : Fault} :
    readParams params = .error (.fault f) ↔
      f = .integerOfInfinity ∧ Shaped params ∧
        (IsInfinite (coordinateOf params "line") ∨
          Convertible (coordinateOf params "line") ∧
            IsInfinite (coordinateOf params "character")) := by
  by_cases hshaped : Shaped params
  · obtain ⟨content, trigger, position, _, _, hcoordinate, hread⟩ := readParams_of_shaped hshaped
    -- The line is read first: its own fault or refusal hides whatever the column would meet.
    have hfirst : readParams params = .error (.fault f) ↔
        coordinate position "line" = .error (.fault f) ∨
          (∃ line, coordinate position "line" = .ok line) ∧
            coordinate position "character" = .error (.fault f) := by
      rw [hread]
      cases coordinate position "line" with
      | error failure => simp [bind, Except.bind]
      | ok line =>
        cases coordinate position "character" with
        | error failure => simp [bind, Except.bind]
        | ok column => simp [bind, Except.bind, pure, Except.pure]
    rw [hfirst]
    simp only [coordinate_eq_fault_iff, coordinate_eq_ok_iff, hcoordinate]
    constructor
    · rintro (⟨hf, hline⟩ | ⟨hline, hf, hcolumn⟩)
      · exact ⟨hf, hshaped, Or.inl hline⟩
      · exact ⟨hf, hshaped, Or.inr ⟨hline, hcolumn⟩⟩
    · rintro ⟨hf, _, hline | ⟨hline, hcolumn⟩⟩
      · exact Or.inl ⟨hf, hline⟩
      · exact Or.inr ⟨hline, hf, hcolumn⟩
  · obtain ⟨reason, hinvalid⟩ := readParams_of_not_shaped hshaped
    rw [hinvalid]
    constructor
    · intro h
      cases h
    · intro h
      exact (hshaped h.2.1).elim

end Params

/-! ### The answer to a request -/

/-- The methods that complete differ in the trigger only. -/
theorem exists_trigger {m : Method} (hm : m.completes = true) :
    ∃ trigger, ∀ (files : Store) (e : Engine) (params : Json),
      call files e params m = serveCompletions files e params trigger := by
  cases m with
  | provideCompletions => exact ⟨(·.trigger), fun _ _ _ => rfl⟩
  | provideCompletionsOnNewline => exact ⟨fun _ => some newline, fun _ _ _ => rfl⟩
  | _ => cases hm

/-- What reading the parameters comes to is what the answer says, whatever the session. -/
theorem serve_completes (files : Store) (e : Engine) (request : Json) {m : Method}
    (hm : m.completes = true) :
    (∃ p result, readParams (paramsOf request) = .ok p ∧
        (serve files e request m).1 = resultMessage result (idOf request)) ∨
      (∃ reason, readParams (paramsOf request) = .error (.invalid reason) ∧
        (serve files e request m).1 = errorAnswer .invalidParams reason.message (idOf request)) ∨
      ∃ f, readParams (paramsOf request) = .error (.fault f) ∧
        (serve files e request m).1 = errorAnswer .internal f.message (idOf request) := by
  obtain ⟨trigger, hcall⟩ := exists_trigger hm
  unfold serve
  rw [hcall]
  cases hread : readParams (paramsOf request) with
  | ok p =>
    refine Or.inl
      ⟨p, .obj [("items", itemsJson (e.complete files p.content p.position (trigger p)).1)], rfl,
        ?_⟩
    simp only [serveCompletions, hread]
    rfl
  | error failure =>
    cases failure with
    | invalid reason =>
      refine Or.inr (Or.inl ⟨reason, rfl, ?_⟩)
      simp only [serveCompletions, hread]
      rfl
    | fault f =>
      refine Or.inr (Or.inr ⟨f, rfl, ?_⟩)
      simp only [serveCompletions, hread]
      rfl

/-- A request for completions is served by a method that completes. -/
theorem handleRequest_asks (files : Store) (e : Engine) {request : Json}
    (h : asksCompletions request = true) :
    ∃ m : Method, m.completes = true ∧
      (handleRequest files e request).1 = .ok (serve files e request m).1 := by
  rw [asksCompletions_eq, Option.any_eq_true] at h
  obtain ⟨m, hmethod, hm⟩ := h
  cases request with
  | obj members => exact ⟨m, hm, by rw [handleRequest_of_method files e hmethod]⟩
  | _ => cases hmethod

/-- What becomes of parameters.  They are taken, with the integers that their numbers read as,
exactly if they are an object with a text as content, a position that is absent or an object, both
numbers of it absent or readable, and a trigger that is absent, null or a text.  They meet a fault
exactly if the shape is right and the first number that cannot be read is infinite.  All others are
invalid.  Every session answers a request for completions by this: a result if the parameters are
taken, the code of invalid parameters if they are invalid, and the code of an internal error if they
meet the fault. -/
theorem params_reported (params : Json) :
    (∀ p, readParams params = .ok p ↔ Reads params p) ∧
    ((∃ p, readParams params = .ok p) ↔
      Shaped params ∧ Convertible (coordinateOf params "line") ∧
        Convertible (coordinateOf params "character")) ∧
    (∀ f, readParams params = .error (.fault f) ↔
      f = .integerOfInfinity ∧ Shaped params ∧
        (IsInfinite (coordinateOf params "line") ∨
          Convertible (coordinateOf params "line") ∧
            IsInfinite (coordinateOf params "character"))) ∧
    ∀ (files : Store) (e : Engine) (request : Json), asksCompletions request = true →
      paramsOf request = params →
      ∃ response, (handleRequest files e request).1 = .ok response ∧
        ((response.get? "result").isSome ↔ ∃ p, readParams params = .ok p) ∧
        ((response.get? "error").bind (·.get? "code") = some (.int (-32602)) ↔
          ∃ reason, readParams params = .error (.invalid reason)) ∧
        ((response.get? "error").bind (·.get? "code") = some (.int (-32603)) ↔
          ∃ f, readParams params = .error (.fault f)) := by
  refine ⟨fun p => readParams_eq_ok_iff, exists_readParams_iff, fun f => readParams_eq_fault_iff,
    ?_⟩
  rintro files e request hasks rfl
  obtain ⟨m, hm, hanswer⟩ := handleRequest_asks files e hasks
  refine ⟨_, hanswer, ?_⟩
  rcases serve_completes files e request hm with
    ⟨p, result, hread, hserve⟩ | ⟨reason, hread, hserve⟩ | ⟨f, hread, hserve⟩
  · rw [hserve, hread]
    simp [resultMessage, Json.get?]
  · rw [hserve, hread]
    simp [errorAnswer, errorMessage, Json.get?, ErrorCode.number]
  · rw [hserve, hread]
    simp [errorAnswer, errorMessage, Json.get?, ErrorCode.number]

/-- Parameters with a text and a truth value for numbers. -/
def oddParams : Json :=
  .obj [("content", .str "Pu"),
    ("position", .obj [("line", .str " +1_0 "), ("character", .bool true)])]

theorem params_reported_odd :
    readParams oddParams = .ok ⟨"Pu", ⟨10, 1⟩, none⟩ ∧
      ∃ response, (handleRequest .empty (Engine.ofSchema Schema.sampleSchema.root defaultTriggers)
          (requestMessage (.str "provideCompletionsOnNewline") oddParams (.int 1))).1 =
            .ok response ∧
        (response.get? "result").isSome := by
  have hread : readParams oddParams = .ok ⟨"Pu", ⟨10, 1⟩, none⟩ := by decide
  obtain ⟨_, _, _, hanswers⟩ := params_reported oddParams
  obtain ⟨response, hanswer, hresult, _⟩ := hanswers .empty
    (Engine.ofSchema Schema.sampleSchema.root defaultTriggers)
    (requestMessage (.str "provideCompletionsOnNewline") oddParams (.int 1)) rfl rfl
  exact ⟨hread, response, hanswer, hresult.mpr ⟨_, hread⟩⟩

/-- Parameters with a line beyond all doubles. -/
def infiniteParams : Json :=
  .obj [("content", .str ""), ("position", .obj [("line", .float (.infinite false))])]

/-- An infinite line is not reported as an invalid parameter. -/
theorem infinite_line_internal :
    readParams infiniteParams = .error (.fault .integerOfInfinity) ∧
      ((handleRequest .empty (Engine.ofSchema Schema.sampleSchema.root defaultTriggers)
          (requestMessage (.str "provideCompletions") infiniteParams (.int 1))).1.toOption.bind
            (·.get? "error")).bind
        (·.get? "code") = some (.int (-32603)) :=
  ⟨rfl, rfl⟩

end SchemaAssist.Service
