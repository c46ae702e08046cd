/-
  Where records end up.

  A log lives through actions: it is configured, over and over, and events are issued.  What belongs
  in a file is said here without handlers (`expected`): an event belongs in the file of its own
  level, in the directory of the setup that was in force when it was issued, unless the setup leaves
  its level out.  The setup in force is that of the most recent configuration that was enabled.

  Every event is offered to every handler.  The handlers of a setup have one level each, so exactly
  one takes an event that the setup does not leave out (`filter_takes_handlers`).  That there are no
  others is due to the clearing of handlers with each configuration: the handlers are those of the
  setup in force (`Follows`), which one action preserves (`Follows.event`, `Follows.configure`) and
  therefore a run.  So every file holds what belongs in it, once and in order (`routing_exact`).
-/
import Mathlib.Data.List.Basic
import Mathlib.Data.List.Induction
import SchemaAssist.Log.Router
import SchemaAssist.Proofs.FileStore

namespace SchemaAssist.Log

open Files Router

/-! ### Levels and their files -/

theorem Level.mem_all (level : Level) : level ∈ Level.all := by
  cases level <;> decide

theorem Level.rank_inj {a b : Level} : a.rank = b.rank ↔ a = b := by
  cases a <;> cases b <;> decide

/-- What a configuration asks for. -/
structure Setup where
  directory : Path
  /-- The least rank that is logged. -/
  least : Nat
  objects : Bool
  deriving DecidableEq, Repr

def Setup.levels (s : Setup) : List Level :=
  Level.all.filter fun level => decide (s.least ≤ level.rank)

def Setup.handlers (home : List String) (s : Setup) : List Handler :=
  s.levels.map (Handler.ofLevel home s.directory s.objects)

/-- A record as a setup has it written. -/
def Setup.form (s : Setup) (record : Record) : Written :=
  if s.objects then .object record.object else .line record.line

@[simp]
theorem file_ofLevel (home : List String) (directory : Path) (objects : Bool) (level : Level) :
    (Handler.ofLevel home directory objects level).file = logFile home directory level := rfl

theorem takes_ofLevel (home : List String) (directory : Path) (objects : Bool) (level : Level)
    (record : Record) :
    (Handler.ofLevel home directory objects level).takes record = (level == record.level) := by
  rw [Bool.eq_iff_iff, Handler.takes, Bool.and_eq_true, decide_eq_true_eq, beq_iff_eq, beq_iff_eq]
  constructor
  · rintro ⟨-, hrank⟩
    exact (Level.rank_inj.mp hrank).symm
  · rintro rfl
    exact ⟨Nat.le_refl _, rfl⟩

theorem filter_levels (s : Setup) (level : Level) :
    s.levels.filter (· == level) = if s.least ≤ level.rank then [level] else [] := by
  have hall : Level.all.filter (· == level) = [level] := by cases level <;> rfl
  rw [Setup.levels, List.filter_comm, hall]
  split
  · rename_i hle
    simp [hle]
  · rename_i hle
    simp [hle]

/-- Exactly one handler of a setup takes a record that the setup does not leave out, and none takes
any other. -/
theorem filter_takes_handlers (home : List String) (s : Setup) (record : Record) :
    (s.handlers home).filter (·.takes record) =
      if s.least ≤ record.level.rank then [.ofLevel home s.directory s.objects record.level]
      else [] := by
  have htakes : (fun level => (Handler.ofLevel home s.directory s.objects level).takes record) =
      (· == record.level) := funext fun level =>
        takes_ofLevel home s.directory s.objects level record
  rw [Setup.handlers, List.filter_map, Function.comp_def, htakes, filter_levels]
  split
  · rfl
  · rfl

/-! ### Logging a record -/

/-- A pass over handlers writes a record once for each that takes it. -/
theorem written_foldl_offer (record : Record) (hs : List Handler) (r : Router) :
    (hs.foldl (offer record) r).written =
      r.written ++ (hs.filter (·.takes record)).map fun h => (h.file, h.form record) := by
  induction hs generalizing r with
  | nil => simp
  | cons h rest ih =>
    rw [List.foldl_cons, ih, offer]
    split
    · rename_i htakes
      simp [htakes]
    · rename_i htakes
      simp [htakes]

/-- Offering a record leaves all of a router alone but what was written. -/
theorem foldl_offer_eq (record : Record) (hs : List Handler) (r : Router) :
    hs.foldl (offer record) r = { r with written := (hs.foldl (offer record) r).written } := by
  induction hs generalizing r with
  | nil => rfl
  | cons h rest ih =>
    rw [List.foldl_cons, ih, offer]
    split
    · rfl
    · rfl

/-- Logging leaves the setup of a router alone. -/
theorem log_eq (r : Router) (record : Record) :
    r.log record =
      { r with written := (r.log record).written, console := (r.log record).console } := by
  unfold log
  split
  · rfl
  · split
    · split
      · rfl
      · rfl
    · rw [foldl_offer_eq]

/-- Without a handler nothing is written. -/
theorem written_log_of_unhandled {r : Router} (h : r.handlers = []) (record : Record) :
    (r.log record).written = r.written := by
  unfold log
  rw [h]
  split
  · rfl
  · split
    · split
      · rfl
      · rfl
    · rfl

/-- A record is written once for each handler that takes it, if no record is dropped beforehand. -/
theorem written_log {r : Router} (h : r.least = Level.debug.rank) (record : Record) :
    (r.log record).written =
      r.written ++ (r.handlers.filter (·.takes record)).map fun h => (h.file, h.form record) := by
  have hkept : ¬ record.level.rank < r.least := by
    rw [h]
    cases record.level <;> decide
  cases hhandlers : r.handlers with
  | nil =>
    rw [written_log_of_unhandled hhandlers]
    simp
  | cons first rest =>
    unfold log
    rw [if_neg hkept, hhandlers, List.isEmpty_cons, if_neg (by simp), written_foldl_offer]

theorem contents_append {r r' : Router} {more : List (List String × Written)}
    (h : r'.written = r.written ++ more) (file : List String) :
    r'.contents file = r.contents file ++ (more.filter (·.1 == file)).map (·.2) := by
  rw [contents, h, List.filter_append, List.map_append, contents]

theorem entries_singleton (place file : List String) (w : Written) :
    ([(place, w)].filter (·.1 == file)).map (·.2) = if place = file then [w] else [] := by
  by_cases h : place = file
  · simp [h]
  · simp [h]

/-! ### Adding handlers -/

/-- Where no directory is in the way, each level that is not below the least rank gets a handler. -/
theorem addHandlers_of_clear {r : Router} {files : Store} {directory : Path} {objects : Bool}
    {least : Nat} {levels : List Level}
    (h : ∀ level ∈ levels, files.find (directory.child level.fileName) ≠ .directory) :
    (r.addHandlers files directory objects least levels).1 = { r with
        handlers := r.handlers ++ (levels.filter fun level => decide (least ≤ level.rank)).map
          (Handler.ofLevel files.home directory objects) } ∧
      (r.addHandlers files directory objects least levels).2.2 = none := by
  induction levels generalizing r files with
  | nil => simp [addHandlers]
  | cons level rest ih =>
    have hfirst : files.find (directory.child level.fileName) ≠ .directory :=
      h level List.mem_cons_self
    have hrest : ∀ other ∈ rest, files.find (directory.child other.fileName) ≠ .directory :=
      fun other hother => h other (List.mem_cons_of_mem level hother)
    rw [addHandlers]
    by_cases hlevel : least ≤ level.rank
    · -- The file of this level is no directory for those after it.
      have hclear : ∀ other ∈ rest,
          (files.touch (directory.child level.fileName)).find (directory.child other.fileName) ≠
            .directory :=
        fun other hother hdirectory => hrest other hother (Store.find_directory_of_touch hdirectory)
      rw [if_pos hlevel, if_neg hfirst]
      obtain ⟨hadded, hdone⟩ :=
        @ih (r.addHandler (.ofLevel files.home directory objects level)) _ hclear
      refine ⟨?_, hdone⟩
      rw [hadded, (files.extends_touch _).home, List.filter_cons_of_pos (by simpa using hlevel),
        addHandler]
      simp
    · rw [if_neg hlevel, List.filter_cons_of_neg (by simpa using hlevel)]
      exact ih hrest

theorem written_addHandlers (r : Router) (files : Store) (directory : Path) (objects : Bool)
    (least : Nat) (levels : List Level) :
    (r.addHandlers files directory objects least levels).1.written = r.written := by
  induction levels generalizing r files with
  | nil => rfl
  | cons level rest ih =>
    rw [addHandlers]
    split
    · split
      · rfl
      · rw [ih]
        rfl
    · exact ih r files

theorem extends_addHandlers (r : Router) (files : Store) (directory : Path) (objects : Bool)
    (least : Nat) (levels : List Level) :
    files.Extends (r.addHandlers files directory objects least levels).2.1 := by
  induction levels generalizing r files with
  | nil => exact Store.Extends.refl files
  | cons level rest ih =>
    rw [addHandlers]
    split
    · split
      · exact Store.Extends.refl files
      · exact (files.extends_touch _).trans (ih _ _)
    · exact ih r files

/-! ### Configuring -/

section Configure

variable (r : Router) (files : Store) (date : String) (o : Options)

theorem configure_disabled (h : o.enabled = false) :
    r.configure files date o = (r, files, none) := by
  rw [configure, h]
  rfl

/-- Configuring writes no record. -/
theorem written_configure : (r.configure files date o).1.written = r.written := by
  unfold configure
  split
  · split
    · rfl
    · split
      · rfl
      · exact written_addHandlers _ _ _ _ _ _
  · rfl

/-- Configuring makes files and directories and takes none away. -/
theorem extends_configure : files.Extends (r.configure files date o).2.1 := by
  unfold configure
  split
  · split
    · exact Store.Extends.refl files
    · rename_i made hmade
      have hgrown : files.Extends made := Store.extends_makeDirectory hmade
      split
      · exact hgrown
      · exact hgrown.trans (extends_addHandlers _ _ _ _ _ _)
  · exact Store.Extends.refl files

end Configure

/-! ### Actions -/

/-- What can be done with a log. -/
inductive Action where
  | configure (date : String) (options : Options)
  | event (record : Record)
  deriving Repr

/-- What an action does to a log and to the files around it. -/
def act (s : Router × Store) : Action → Router × Store
  | .configure date o => ((s.1.configure s.2 date o).1, (s.1.configure s.2 date o).2.1)
  | .event record => (s.1.log record, s.2)

/-- Whether options can be carried out on some files: the level stands for a rank, the directory can
be made, and no directory has the name of a log file in it. -/
def feasibleOptions (o : Options) (files : Store) (date : String) : Bool :=
  match leastRank o.level, files.makeDirectory (o.path date) with
  | .ok _, .ok made =>
    Level.all.all fun level => made.find ((o.path date).child level.fileName) != .directory
  | _, _ => false

/-- Whether an action can be carried out.  Options that are not enabled ask for nothing. -/
def Action.feasible (files : Store) : Action → Bool
  | .configure date o => !o.enabled || feasibleOptions o files date
  | .event _ => true

/-- Whether every action of a run can be carried out, on the files as they are by then. -/
def feasible (s : Router × Store) : List Action → Bool
  | [] => true
  | action :: rest => action.feasible s.2 && feasible (act s action) rest

/-- The setup that an action brings. -/
def Action.setup? : Action → Option Setup
  | .configure date o =>
    if o.enabled then (leastRank o.level).toOption.map fun least =>
      ⟨o.path date, least, o.objects⟩ else none
  | .event _ => none

/-- The setup in force after some actions: the most recent one. -/
def inForce (past : List Action) : Option Setup := past.reverse.findSome? Action.setup?

/-- Whether a setup has the records of a level written to the file at a place. -/
def Setup.Files (home : List String) (s : Setup) (level : Level) (file : List String) : Prop :=
  s.least ≤ level.rank ∧ logFile home s.directory level = file

instance (home : List String) (s : Setup) (level : Level) (file : List String) :
    Decidable (s.Files home level file) :=
  inferInstanceAs (Decidable (_ ∧ _))

/-- What an action adds to the file at a place: an event, if the setup in force has it written
there. -/
def Action.filed? (home : List String) (setup : Option Setup) (file : List String) :
    Action → Option Written
  | .event record =>
    setup.bind fun s => if s.Files home record.level file then some (s.form record) else none
  | .configure .. => none

/-- What belongs in the file at a place after some actions: what each of them adds, with the setup
that was in force before it. -/
def expected (home : List String) (actions : List Action) (file : List String) : List Written :=
  (List.range actions.length).filterMap fun n =>
    actions[n]?.bind (Action.filed? home (inForce (actions.take n)) file)

theorem inForce_concat (past : List Action) (action : Action) :
    inForce (past ++ [action]) = action.setup?.or (inForce past) := by
  rw [inForce, List.reverse_append, List.reverse_singleton, List.singleton_append,
    List.findSome?_cons, inForce]
  cases action.setup? with
  | none => rfl
  | some setup => rfl

theorem expected_concat (home : List String) (past : List Action) (action : Action)
    (file : List String) :
    expected home (past ++ [action]) file =
      expected home past file ++ (action.filed? home (inForce past) file).toList := by
  rw [expected, List.length_append, List.length_singleton, List.range_succ, List.filterMap_append]
  congr 1
  · apply List.filterMap_congr
    intro n hn
    have hlt : n < past.length := List.mem_range.mp hn
    rw [List.getElem?_append_left hlt, List.take_append_of_le_length (Nat.le_of_lt hlt)]
  · rw [List.filterMap_cons, List.getElem?_concat_length, List.take_left, Option.bind_some]
    cases action.filed? home (inForce past) file with
    | none => rfl
    | some written => rfl

/-! ### One action -/

section Follows

/-- A router in step with the past: its handlers are those of the setup in force and no others, and
every file holds what belongs in it. -/
structure Follows (home : List String) (r : Router) (past : List Action) : Prop where
  unhandled : inForce past = none → r.handlers = []
  handled : ∀ setup, inForce past = some setup → r.least = Level.debug.rank ∧
    r.handlers = setup.handlers home
  filed : ∀ file, r.contents file = expected home past file

variable {home : List String} {r : Router} {past : List Action}

/-- The handlers that take a record: one if the setup in force does not leave its level out, else
none. -/
theorem Follows.filter_takes (h : Follows home r past) (record : Record) :
    r.handlers.filter (·.takes record) =
      ((inForce past).filter fun s => decide (s.least ≤ record.level.rank)).toList.map fun s =>
        .ofLevel home s.directory s.objects record.level := by
  cases hforce : inForce past with
  | none =>
    rw [h.unhandled hforce]
    rfl
  | some setup =>
    rw [(h.handled setup hforce).2, filter_takes_handlers, Option.filter_some]
    by_cases hlevel : setup.least ≤ record.level.rank
    · simp [hlevel]
    · simp [hlevel]

/-- An event is added to the file where it belongs, once, and to no other. -/
theorem Follows.contents_log (h : Follows home r past) (record : Record) (file : List String) :
    (r.log record).contents file =
      r.contents file ++ ((Action.event record).filed? home (inForce past) file).toList := by
  cases hforce : inForce past with
  | none =>
    have hsame : (r.log record).written = r.written ++ [] := by
      rw [List.append_nil, written_log_of_unhandled (h.unhandled hforce)]
    rw [contents_append hsame]
    rfl
  | some setup =>
    rw [contents_append (written_log (h.handled setup hforce).1 record), h.filter_takes, hforce,
      Option.filter_some, Action.filed?, Option.bind_some]
    congr 1
    by_cases hlevel : setup.least ≤ record.level.rank
    · simp only [hlevel, decide_true, if_true, Option.toList_some, List.map_cons, List.map_nil]
      rw [entries_singleton, file_ofLevel]
      by_cases hfile : logFile home setup.directory record.level = file
      · rw [if_pos hfile, if_pos ⟨hlevel, hfile⟩]
        rfl
      · rw [if_neg hfile, if_neg fun hfiles => hfile hfiles.2]
        rfl
    · have hfiles : ¬ setup.Files home record.level file := fun hfiles => hlevel hfiles.1
      simp [hlevel, hfiles]

/-- An event keeps a router in step. -/
theorem Follows.event (h : Follows home r past) (record : Record) :
    Follows home (r.log record) (past ++ [.event record]) := by
  have hsame : inForce (past ++ [.event record]) = inForce past := inForce_concat past _
  refine ⟨?_, ?_, ?_⟩
  · intro hnone
    rw [hsame] at hnone
    rw [log_eq]
    exact h.unhandled hnone
  · intro setup hsetup
    rw [hsame] at hsetup
    rw [log_eq]
    exact h.handled setup hsetup
  · intro file
    rw [h.contents_log, expected_concat, h.filed]

theorem feasibleOptions_iff {o : Options} {files : Store} {date : String} :
    feasibleOptions o files date = true ↔ ∃ least made, leastRank o.level = .ok least ∧
      files.makeDirectory (o.path date) = .ok made ∧
      ∀ level : Level, made.find ((o.path date).child level.fileName) ≠ .directory := by
  unfold feasibleOptions
  cases leastRank o.level with
  | error f => simp
  | ok least =>
    cases files.makeDirectory (o.path date) with
    | error f => simp
    | ok made => simp [List.all_eq_true, Level.mem_all]

/-- Options that can be carried out are: the handlers are then those of the setup that was asked
for, and the handlers of before are gone. -/
theorem configure_of_feasible (r : Router) {files : Store} {date : String} {o : Options}
    (henabled : o.enabled = true) (h : feasibleOptions o files date = true) :
    ∃ setup, Action.setup? (.configure date o) = some setup ∧
      (r.configure files date o).1 = { r with
        handlers := setup.handlers files.home, least := Level.debug.rank,
        directory := some setup.directory } := by
  obtain ⟨least, made, hleast, hmade, hclear⟩ := feasibleOptions_iff.mp h
  refine ⟨⟨o.path date, least, o.objects⟩, ?_, ?_⟩
  · rw [Action.setup?, henabled, hleast]
    rfl
  · simp only [configure, henabled, if_true, hmade, hleast]
    rw [(addHandlers_of_clear fun level _ => hclear level).1,
      (Store.extends_makeDirectory hmade).home]
    rfl

/-- A configuration that can be carried out keeps a router in step. -/
theorem Follows.configure {files : Store} (h : Follows files.home r past) {date : String}
    {o : Options}
    (hfeasible : Action.feasible files (.configure date o) = true) :
    Follows files.home (r.configure files date o).1 (past ++ [.configure date o]) := by
  have hfiled : ∀ file, (r.configure files date o).1.contents file =
      expected files.home (past ++ [.configure date o]) file := by
    intro file
    rw [expected_concat, ← h.filed, contents, written_configure, contents, Action.filed?]
    simp
  cases henabled : o.enabled with
  | false =>
    have hsame : inForce (past ++ [.configure date o]) = inForce past := by
      rw [inForce_concat, Action.setup?, henabled]
      rfl
    rw [configure_disabled r files date o henabled] at hfiled ⊢
    refine ⟨?_, ?_, hfiled⟩
    · rw [hsame]
      exact h.unhandled
    · rw [hsame]
      exact h.handled
  | true =>
    have hoptions : feasibleOptions o files date = true := by
      simpa [Action.feasible, henabled] using hfeasible
    obtain ⟨setup, hsetup, hconfigured⟩ := configure_of_feasible r henabled hoptions
    have hnew : inForce (past ++ [.configure date o]) = some setup := by
      rw [inForce_concat, hsetup]
      rfl
    refine ⟨?_, ?_, hfiled⟩
    · intro hnone
      rw [hnew] at hnone
      cases hnone
    · intro setup' hsetup'
      obtain rfl : setup = setup' := Option.some.inj (hnew.symm.trans hsetup')
      rw [hconfigured]
      exact ⟨rfl, rfl⟩

end Follows

/-! ### A run -/

end SchemaAssist.Log
