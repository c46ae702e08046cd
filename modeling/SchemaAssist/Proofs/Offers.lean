/-
  What a session offers, in closed form.

  Once a schema is loaded a request cannot fail, and its answer is a function of the schema, the
  document and the place where completion runs (`complete_items`).  That function, `offers`, has
  three branches and no others: values after a colon, the element marker at the start of a sequence,
  and the properties of the scope that are still free.  `complete_shape` is the whole account for a
  schema that was built: which branch is taken, what is in it, and that each offered property leads
  back to its node.
-/
import SchemaAssist.Completion.Engine
import SchemaAssist.Proofs.Placement
import SchemaAssist.Proofs.SchemaTree

namespace SchemaAssist.Completion

open Document Schema Text

/-! ### The place and its scope -/

/-- Where completion runs: the cursor is moved into the document, as the trigger says, and into the
document again. -/
def dispatched (root : Node) (doc : Document) (p : Position) (trigger : Option String) : Position :=
  doc.clamp (targetPosition doc (doc.clamp p) trigger (some root))

/-- The nearest column inside a line. -/
def columnIn (line : Line) (column : Int) : Int := min (max column 0) line.length

theorem columnIn_columnIn (line : Line) (column : Int) :
    columnIn line (columnIn line column) = columnIn line column := by
  unfold columnIn
  omega

theorem clamp_eq (doc : Document) {n : Int} (hpos : 0 ≤ n) (hlt : n < doc.lines.length)
    (column : Int) :
    doc.clamp ⟨n, column⟩ = ⟨n, columnIn (doc.lineAt n) column⟩ := by
  have hline : min (max n 0) ((doc.lines.length : Int) - 1) = n := by omega
  simp only [clamp, hline, columnIn]

theorem clamp_clamp (doc : Document) (p : Position) : doc.clamp (doc.clamp p) = doc.clamp p := by
  have hline : min (max (doc.clamp p).line 0) ((doc.lines.length : Int) - 1) =
      (doc.clamp p).line := by
    simp only [clamp]
    omega
  have hcolumn : min (max (doc.clamp p).column 0) ((doc.lineAt (doc.clamp p).line).length : Int) =
      (doc.clamp p).column := columnIn_columnIn _ p.column
  rw [clamp, hline]
  exact congrArg (Position.mk _) hcolumn

/-- Only a new line moves the cursor further than into the document. -/
theorem dispatched_eq_clamp (root : Node) (doc : Document) (p : Position) {trigger : Option String}
    (htrigger : trigger ≠ some newline) : dispatched root doc p trigger = doc.clamp p := by
  rw [dispatched, targetPosition, if_neg htrigger, clamp_clamp]

/-- On a line of the document completion stays on that line; the column moves into the line, or to
the level of a leaf property above after a new line. -/
theorem dispatched_eq (root : Node) (doc : Document) {n : Int} (hpos : 0 ≤ n)
    (hlt : n < doc.lines.length) (column : Int) (trigger : Option String) :
    dispatched root doc ⟨n, column⟩ trigger =
      ⟨n, columnIn (doc.lineAt n)
        (if trigger = some newline ∧ leafAbove doc n (some root) =
          true then indent (doc.lineAt (n - 1))
          else column)⟩ := by
  unfold dispatched targetPosition newlinePosition
  rw [clamp_eq doc hpos hlt]
  by_cases htrigger : trigger = some newline
  · rw [if_pos htrigger]
    by_cases hleaf : leafAbove doc n (some root) = true
    · rw [if_pos hleaf, if_pos ⟨htrigger, hleaf⟩, clamp_eq doc hpos hlt]
    · rw [if_neg hleaf, if_neg (fun h => hleaf h.2), clamp_eq doc hpos hlt, columnIn_columnIn]
  · rw [if_neg htrigger, if_neg (fun h => htrigger h.1), clamp_eq doc hpos hlt, columnIn_columnIn]

/-- The node whose properties belong at a place: the root, or what the enclosing keys lead to. -/
def Placement.scope? (place : Placement) (root : Node) : Option Node :=
  match place.path with
  | none => some root
  | some path => lookup? (some root) path

theorem Placement.scope?_eq_lookup? (place : Placement) (root : Node) :
    place.scope? root = lookup? (some root) (place.path.getD []) := by
  unfold Placement.scope?
  cases place.path with
  | none => simp
  | some path => rfl

/-- Whether the text before a cursor ends with a colon, blanks aside. -/
def AfterColon (doc : Document) (p : Position) :
    Prop := (trimEnd (doc.textBefore p)).getLast? = some ':'

instance (doc : Document) (p : Position) :
    Decidable (AfterColon doc p) := inferInstanceAs (Decidable (_ = _))

/-- Whether a cursor stands right below the key of a sequence, on a line that opens no element. -/
def AtSequenceStart (root : Node) (doc : Document) (p : Position) (place : Placement) : Prop :=
  place.path ≠ none ∧ (∃ info ps, place.scope? root = some (.sequence info ps)) ∧
    opensSequence doc p place = true

/-- Whether a property of the scope is still free at a place and starts with what was typed.  At the
root a declaration anywhere in the document takes it. -/
def offerable (doc : Document) (place : Placement) (typed : List Char) (name : String) : Bool :=
  !place.usedKeys.contains name && !(place.path.isNone && declaredAnywhere doc name) &&
    (lower typed).isPrefixOf (lower name.toList)

/-- The properties that are offered at a place, in declaration order. -/
def freeProperties (root : Node) (doc : Document) (place : Placement) (typed : List Char) :
    List Node :=
  ((place.scope? root).elim [] (·.children)).filter fun n => offerable doc place typed n.name

/-! ### Synthesis cannot fail on a schema -/

theorem matchesTyped_eq (name : String) (typed : List Char) :
    matchesTyped name typed = (lower typed).isPrefixOf (lower name.toList) := by
  cases typed with
  | nil => simp [matchesTyped, lower, lowerFrom]
  | cons c rest => simp [matchesTyped]

theorem rootSuggestions_eq {root : Node} {doc : Document} {place : Placement}
    (hpath : place.path = none) (typed : List Char) :
    rootSuggestions root place (declaredNames doc (root.children.map (·.name))) typed =
      (freeProperties root doc place typed).map .ofNode := by
  unfold rootSuggestions propertySuggestions freeProperties Placement.scope?
  rw [hpath]
  congr 1
  apply List.filter_congr
  intro n hn
  have hname : n.name ∈ root.children.map (·.name) := List.mem_map.mpr ⟨n, hn, rfl⟩
  have hdeclared : (declaredNames doc (root.children.map (·.name))).contains n.name =
      declaredAnywhere doc n.name := by
    rw [Bool.eq_iff_iff, List.contains_iff_mem, declaredNames, List.mem_filter]
    exact ⟨fun h => h.2, fun h => ⟨hname, h⟩⟩
  rw [matchesTyped_eq, List.contains_append, hdeclared, offerable, hpath]
  cases declaredAnywhere doc n.name <;> cases place.usedKeys.contains n.name <;> rfl

theorem propertySuggestions_eq {root scope : Node} {place : Placement} (hpath : place.path ≠ none)
    (hscope : place.scope? root = some scope) (doc : Document) (typed : List Char) :
    propertySuggestions scope place.usedKeys typed =
      (freeProperties root doc place typed).map .ofNode := by
  have hnested : place.path.isNone = false := by simpa [Option.isSome_iff_ne_none] using hpath
  unfold propertySuggestions freeProperties
  rw [hscope]
  congr 1
  apply List.filter_congr
  intro n _
  rw [matchesTyped_eq, offerable, hnested]
  simp

theorem synthesize_values {doc : Document} {p : Position} {property : String}
    (h : Request.ofTyped (doc.textBefore p) = .values property) (root : Node) (place : Placement)
    (identifiers declared : List String) :
    synthesize doc p (some root) place identifiers declared =
      .ok (valueSuggestions (some root) place property identifiers) := by
  rw [synthesize, h]

theorem synthesize_marker {doc : Document} {p : Position} (h : ¬ AfterColon doc p) {root : Node}
    {place : Placement} (hstart : AtSequenceStart root doc p place)
    (identifiers declared : List String) :
    synthesize doc p (some root) place identifiers declared = .ok [.marker] := by
  obtain ⟨hpath, ⟨info, ps, hscope⟩, hopens⟩ := hstart
  rw [synthesize, Request.ofTyped_of_not_colon h]
  unfold Placement.scope? at hscope
  cases hp : place.path with
  | none => exact (hpath hp).elim
  | some path =>
    rw [hp] at hscope
    simp only [hscope, hopens, if_true]

theorem synthesize_fields {doc : Document} {p : Position} (h : ¬ AfterColon doc p) {root : Node}
    {place : Placement} (hstart : ¬ AtSequenceStart root doc p place) (identifiers : List String) :
    synthesize doc p (some root) place identifiers
      (declaredNames doc (root.children.map (·.name))) =
      .ok ((freeProperties root doc place (trim (doc.textBefore p))).map .ofNode) := by
  rw [synthesize, Request.ofTyped_of_not_colon h]
  cases hp : place.path with
  | none => simp only [rootSuggestions_eq hp]
  | some path =>
    have hpath : place.path ≠ none := by simp [hp]
    have hscope : place.scope? root = lookup? (some root) path := by rw [Placement.scope?, hp]
    -- One case for each shape of the scope; a scope without properties offers none.
    cases hnode : lookup? (some root) path with
    | none => simp [freeProperties, hscope, hnode]
    | some scope =>
      rw [hnode] at hscope
      cases scope with
      | scalar info => simp [freeProperties, hscope, hnode, Node.children]
      | choice info values => simp [freeProperties, hscope, hnode, Node.children]
      | object info ps => simp only [hnode, propertySuggestions_eq hpath hscope doc]
      | sequence info ps =>
        have hopens : ¬ opensSequence doc p place = true := fun hopens =>
          hstart ⟨hpath, ⟨info, ps, hscope⟩, hopens⟩
        simp only [hnode, if_neg hopens, propertySuggestions_eq hpath hscope doc]

/-! ### The answer of a session -/

/-- What is offered at a place of a document. -/
def offers (root : Node) (doc : Document) (p : Position) : List Suggestion :=
  match synthesize doc p (some root) (placement doc p.line (some root)) (nodeIdentifiers doc)
    (declaredNames doc (root.children.map (·.name))) with
  | .ok items => items
  | .error _ => []

theorem offers_values {doc : Document} {p : Position} {property : String}
    (h : Request.ofTyped (doc.textBefore p) = .values property) (root : Node) :
    offers root doc p =
      valueSuggestions (some root) (placement doc p.line (some root)) property
        (nodeIdentifiers doc) := by
  rw [offers, synthesize_values h]

theorem offers_marker {doc : Document} {p : Position} (h : ¬ AfterColon doc p) {root : Node}
    (hstart : AtSequenceStart root doc p (placement doc p.line (some root))) :
    offers root doc p = [.marker] := by
  rw [offers, synthesize_marker h hstart]

theorem offers_fields {doc : Document} {p : Position} (h : ¬ AfterColon doc p) {root : Node}
    (hstart : ¬ AtSequenceStart root doc p (placement doc p.line (some root))) :
    offers root doc p =
      (freeProperties root doc (placement doc p.line (some root)) (trim (doc.textBefore p))).map
        .ofNode := by
  rw [offers, synthesize_fields h hstart]

theorem candidates_items (root : Node) (doc : Document) (p : Position) :
    (Engine.candidates root doc p).1 = .ok (offers root doc p) := by
  by_cases hcolon : AfterColon doc p
  · obtain ⟨property, hproperty⟩ := Request.ofTyped_of_colon hcolon
    rw [offers_values hproperty]
    simp only [Engine.candidates, synthesize_values hproperty]
  · by_cases hstart : AtSequenceStart root doc p (placement doc p.line (some root))
    · rw [offers_marker hcolon hstart]
      simp only [Engine.candidates, synthesize_marker hcolon hstart]
    · rw [offers_fields hcolon hstart]
      simp only [Engine.candidates, synthesize_fields hcolon hstart]

theorem completeOn_items (root : Node) (text : String) (p : Position) (trigger : Option String) :
    (Engine.completeOn root text p trigger).1 =
      .ok (offers root (ofText text) (dispatched root (ofText text) p trigger)) :=
  candidates_items root (ofText text) _

section Loaded

variable {e : Engine} {root : Node} (hcache : e.cache = .loaded root) (files : Files.Store)
    (text : String)
  (p : Position) (trigger : Option String)
include hcache

theorem complete_of_loaded :
    ∃ records, e.complete files text p trigger =
      (if accepts e.triggers trigger then offers root (ofText text)
        (dispatched root (ofText text) p trigger)
        else [], { e with requests := e.requests + 1 }, records) := by
  unfold Engine.complete Engine.ensureSchema
  by_cases haccepted : accepts e.triggers trigger = true
  · have hitems := completeOn_items root text p trigger
    simp only [haccepted, if_true, hcache]
    rcases hrun : Engine.completeOn root text p trigger with ⟨items, records⟩
    rw [hrun] at hitems
    simp only at hitems
    subst hitems
    exact ⟨_, rfl⟩
  · simp only [haccepted]
    exact ⟨_, rfl⟩

/-- A session with a schema answers an accepted trigger with what is offered where completion runs,
and any other with nothing. -/
theorem complete_items :
    (e.complete files text p trigger).1 =
      if accepts e.triggers trigger then offers root (ofText text)
        (dispatched root (ofText text) p trigger)
      else [] := by
  obtain ⟨records, hrun⟩ := complete_of_loaded hcache files text p trigger
  rw [hrun]

theorem mem_offers_of_mem_complete {s : Suggestion} (hs : s ∈ (e.complete files text p trigger).1) :
    s ∈ offers root (ofText text) (dispatched root (ofText text) p trigger) := by
  rw [complete_items hcache] at hs
  split at hs
  · exact hs
  · cases hs

theorem complete_engine :
    (e.complete files text p trigger).2.1 = { e with requests := e.requests + 1 } := by
  obtain ⟨records, hrun⟩ := complete_of_loaded hcache files text p trigger
  rw [hrun]

end Loaded

/-! ### The three shapes of an answer -/

theorem mem_valueSuggestions {root : Option Node} {place : Placement} {property : String}
    {identifiers : List String} {s : Suggestion}
    (h : s ∈ valueSuggestions root place property identifiers) : ∃ text, s = .value text := by
  unfold valueSuggestions at h
  split at h
  · rcases List.mem_map.mp h with ⟨text, _, rfl⟩
    exact ⟨text, rfl⟩
  · split at h
    · rcases List.mem_map.mp h with ⟨text, _, rfl⟩
      exact ⟨text, rfl⟩
    · cases h

theorem map_label_freeProperties (root : Node) (doc : Document) (place : Placement)
    (typed : List Char) :
    ((freeProperties root doc place typed).map Suggestion.ofNode).map Suggestion.label =
      (((place.scope? root).elim [] (·.children)).map (·.name)).filter
        (offerable doc place typed) := by
  rw [List.filter_map, List.map_map]
  rfl

theorem mem_freeProperties {root : Node} {doc : Document} {place : Placement} {typed : List Char}
    {n : Node} (h : n ∈ freeProperties root doc place typed) :
    ∃ scope, place.scope? root = some scope ∧ n ∈ scope.children := by
  have hmem := (List.mem_filter.mp h).1
  cases hscope : place.scope? root with
  | none => simp [hscope] at hmem
  | some scope => exact ⟨scope, rfl, by simpa [hscope] using hmem⟩

/-- Whatever is offered as a property is a free one. -/
theorem exists_free_of_field {root : Node} {doc : Document} {p : Position} {s : Suggestion}
    (hs : s ∈ offers root doc p) (hfield : s.isField = true) :
    ∃ n ∈ freeProperties root doc (placement doc p.line (some root)) (trim (doc.textBefore p)),
      s = .ofNode n := by
  by_cases hcolon : AfterColon doc p
  · obtain ⟨property, hproperty⟩ := Request.ofTyped_of_colon hcolon
    rw [offers_values hproperty] at hs
    obtain ⟨text, rfl⟩ := mem_valueSuggestions hs
    cases hfield
  · by_cases hstart : AtSequenceStart root doc p (placement doc p.line (some root))
    · rw [offers_marker hcolon hstart] at hs
      obtain rfl : s = .marker := by simpa using hs
      cases hfield
    · rw [offers_fields hcolon hstart] at hs
      rcases List.mem_map.mp hs with ⟨n, hn, rfl⟩
      exact ⟨n, hn, rfl⟩

theorem offerable_of_field {root : Node} {doc : Document} {p : Position} {s : Suggestion}
    (hs : s ∈ offers root doc p) (hfield : s.isField = true) :
    offerable doc (placement doc p.line (some root)) (trim (doc.textBefore p)) s.label = true := by
  obtain ⟨n, hn, rfl⟩ := exists_free_of_field hs hfield
  exact (List.mem_filter.mp hn).2

theorem not_mem_usedKeys_of_field {root : Node} {doc : Document} {p : Position} {s : Suggestion}
    (hs : s ∈ offers root doc p) (hfield : s.isField = true) :
    s.label ∉ (placement doc p.line (some root)).usedKeys := by
  have hfree := offerable_of_field hs hfield
  simp only [offerable, Bool.and_eq_true, Bool.not_eq_true'] at hfree
  simpa using hfree.1.1

/-- On a line of the document, no request is answered with a property that is used beside the line.
-/
theorem not_mem_usedKeys_of_complete {e : Engine} {root : Node} (hcache : e.cache = .loaded root)
    (files : Files.Store) {text : String} {n : Int} (hpos : 0 ≤ n)
    (hlt : n < (Document.ofText text).lines.length) (column : Int) (trigger : Option String)
    {s : Suggestion} (hs : s ∈ (e.complete files text ⟨n, column⟩ trigger).1)
    (hfield : s.isField = true) :
    s.label ∉ (placement (ofText text) n (some root)).usedKeys := by
  have hfree :=
    not_mem_usedKeys_of_field (mem_offers_of_mem_complete hcache files text _ trigger hs) hfield
  rwa [dispatched_eq root _ hpos hlt] at hfree

/-- In a tidy schema an offered property is found again under its name. -/
theorem lookup?_freeProperties {root : Node} (htidy : root.Tidy) {doc : Document}
    {place : Placement} {typed : List Char} {n : Node}
    (h : n ∈ freeProperties root doc place typed) :
    lookup? (some root) (place.path.getD [] ++ [n.name]) = some n := by
  obtain ⟨scope, hscope, hn⟩ := mem_freeProperties h
  rw [Placement.scope?_eq_lookup?] at hscope
  exact lookup?_child htidy hscope hn

theorem nodup_scope_names {root : Node} (htidy : root.Tidy) (place : Placement) :
    (((place.scope? root).elim [] (·.children)).map (·.name)).Nodup := by
  cases hscope : place.scope? root with
  | none => exact List.nodup_nil
  | some scope =>
    rw [Placement.scope?_eq_lookup?] at hscope
    have hscopeTidy : scope.Tidy := htidy.lookup? hscope
    exact hscopeTidy.children.1

/-- What a session with a built schema answers to an accepted trigger.  After a colon there are only
values; at the start of a sequence there is the marker alone; everywhere else there are only
properties, namely those of the scope that are free and start with what was typed, in declaration
order and each once, and each carries the type, the description and the follow-up of the node that
its name leads to. -/
theorem complete_shape {data : Yaml.Value} {built : Built} (hbuilt : build data = .ok built)
    {e : Engine} (hcache : e.cache = .loaded built.root) (files : Files.Store) (text : String)
    (p : Position) (trigger : Option String) (haccepted : accepts e.triggers trigger = true) :
    let doc := Document.ofText text
    let target := dispatched built.root doc p trigger
    let place := placement doc target.line (some built.root)
    let items := (e.complete files text p trigger).1
    (AfterColon doc target → ∀ s ∈ items, ∃ value, s = .value value) ∧
      (¬ AfterColon doc target → AtSequenceStart built.root doc target place → items = [.marker]) ∧
      (¬ AfterColon doc target → ¬ AtSequenceStart built.root doc target place →
        (∀ s ∈ items, s.isField = true) ∧
        (items.map Suggestion.label).Nodup ∧
        items.map Suggestion.label =
          (((place.scope? built.root).elim [] (·.children)).map (·.name)).filter
            (offerable doc place (trim (doc.textBefore target))) ∧
        ∀ s ∈ items, ∃ node,
          lookup? (some built.root) (place.path.getD [] ++ [s.label]) = some node ∧
            s.detail? = some node.info.typeName ∧ s.documentation? = some node.info.description ∧
            s.followUp = node.isChoice) := by
  intro doc target place items
  have htidy : built.root.Tidy := build_tidy hbuilt
  have hitems : items = offers built.root doc target := by
    simp only [items, complete_items hcache, haccepted, if_true, doc, target]
  refine ⟨?_, ?_, ?_⟩
  · intro hcolon s hs
    obtain ⟨property, hproperty⟩ := Request.ofTyped_of_colon hcolon
    rw [hitems, offers_values hproperty] at hs
    exact mem_valueSuggestions hs
  · intro hcolon hstart
    rw [hitems, offers_marker hcolon hstart]
  · intro hcolon hstart
    rw [hitems, offers_fields hcolon hstart]
    refine ⟨?_, ?_, map_label_freeProperties _ _ _ _, ?_⟩
    · intro s hs
      rcases List.mem_map.mp hs with ⟨n, _, rfl⟩
      rfl
    · rw [map_label_freeProperties]
      exact (nodup_scope_names htidy place).filter _
    · intro s hs
      rcases List.mem_map.mp hs with ⟨n, hn, rfl⟩
      exact ⟨n, lookup?_freeProperties htidy hn, rfl, rfl, rfl⟩

/-- Inside an element that declares one of two properties, with one letter typed. -/
theorem complete_shape_sample :
    ((Engine.ofSchema sampleSchema.root defaultTriggers).complete .empty
      "Nodes:\n  - Name: x\n    k" ⟨2, 5⟩
      none).1.map Suggestion.label = ["Kind"] := by
  have hshape :=
    complete_shape build_sampleData (e := Engine.ofSchema sampleSchema.root defaultTriggers) rfl
    .empty "Nodes:\n  - Name: x\n    k" ⟨2, 5⟩ none rfl
  have hfields := hshape.2.2 (by decide) (fun hstart => absurd hstart.2.2 (by decide))
  exact hfields.2.2.1.trans (by decide)

end SchemaAssist.Completion
