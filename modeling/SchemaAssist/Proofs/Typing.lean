/-
  One line while it is typed on.

  The place of a line does not depend on the column, so on one line of a document all that can
  change is what the text before the cursor asks for (`offers_of_asked`).  Three laws follow:

  * where only blanks were typed, neither the column nor the trigger matters —
  `complete_blank_line`; * what is offered further right is among what is offered further left —
  `complete_narrows`; * a property stays while its own name is typed, unless a sigma is split —
  `offered_while_typed`.

  The last two rest on the laws of lowercase, since names are compared without regard to case.
-/
import SchemaAssist.Proofs.BlankLines
import SchemaAssist.Proofs.Lowercase

namespace SchemaAssist

namespace Text

/-! ### Trimming a beginning -/

/-- The end of a text is no further left than the end of a beginning of it. -/
theorem isPrefix_trimEnd_append (s more : List Char) : trimEnd s <+: trimEnd (s ++ more) := by
  by_cases hblank : (more.reverse.dropWhile isBlank).isEmpty = true
  · have hall : ∀ c ∈ more, isBlank c = true := fun c hc =>
      List.dropWhile_eq_nil_iff.mp (List.isEmpty_iff.mp hblank) c (List.mem_reverse.mpr hc)
    exact ⟨[], (List.append_nil _).trans (trimEnd_append_blanks hall s).symm⟩
  · have hlonger : trimEnd (s ++ more) = s ++ trimEnd more := by
      rw [trimEnd, List.reverse_append, List.dropWhile_append, if_neg hblank, List.reverse_append,
        List.reverse_reverse, trimEnd]
    rw [hlonger]
    exact (isPrefix_trimEnd s).trans (List.prefix_append s _)

theorem isPrefix_trim {s t : List Char} (h : s <+: t) : trim s <+: trim t := by
  obtain ⟨more, rfl⟩ := h
  by_cases hblank : trimStart s = []
  · have hnil : trim s = [] := by
      rw [trim, hblank]
      rfl
    rw [hnil]
    exact List.nil_prefix
  · rw [trim, trim, trimStart_append_of_ne_nil hblank]
    exact isPrefix_trimEnd_append _ more

end Text

namespace Completion

open Document Schema Text

/-! ### A cursor on its line -/

/-- The line on which a cursor stands once it is moved into the document. -/
def cursorLine (doc : Document) (n : Int) : Int := (doc.clamp ⟨n, 0⟩).line

theorem cursorLine_of_inside {doc : Document} {line : Int} (hpos : 0 ≤ line)
    (hlt : line < doc.lines.length) :
    cursorLine doc line = line := by
  rw [cursorLine, clamp_eq doc hpos hlt]

/-- Whatever the trigger, completion runs on the line of the cursor. -/
theorem dispatched_line (root : Node) (doc : Document) (n column : Int) (trigger : Option String) :
    (dispatched root doc ⟨n, column⟩ trigger).line = cursorLine doc n := by
  have htarget : (targetPosition doc (doc.clamp ⟨n, column⟩) trigger (some root)).line =
      cursorLine doc n := by
    unfold targetPosition newlinePosition
    split
    · split
      · rfl
      · rfl
    · rfl
  have hinside : min (max (cursorLine doc n) 0) ((doc.lines.length : Int) - 1) =
      cursorLine doc n := by
    simp only [cursorLine, clamp]
    omega
  rw [← htarget] at hinside
  exact hinside.trans htarget

theorem dispatched_manual (root : Node) (doc : Document) (n column : Int) :
    dispatched root doc ⟨n, column⟩ none =
      ⟨cursorLine doc n, columnIn (doc.lineAt (cursorLine doc n)) column⟩ :=
  dispatched_eq_clamp root doc ⟨n, column⟩ (by simp)

/-- On one line the same is offered wherever the text before the cursor asks for the same. -/
theorem offers_of_asked {root : Node} {doc : Document} {p q : Position} (hline : p.line = q.line)
    (hasked : Request.ofTyped (doc.textBefore p) = Request.ofTyped (doc.textBefore q)) :
    offers root doc p = offers root doc q := by
  unfold offers synthesize opensSequence
  rw [hline, hasked]

/-- A session answers a trigger that it accepts with what the schema in use offers. -/
theorem complete_offers (e : Engine) (files : Files.Store) (text : String) (p : Position)
    {trigger : Option String} (haccepted : accepts e.triggers trigger = true) :
    (e.complete files text p trigger).1 = (e.cacheInUse files).root?.elim []
      fun root => offers root (Document.ofText text)
        (dispatched root (Document.ofText text) p trigger) := by
  obtain ⟨_, hrun, _⟩ := Engine.complete_accepted e files text p trigger haccepted
  rw [hrun]

/-- A request by hand is answered with what is offered at its own column. -/
theorem complete_manual (e : Engine) (files : Files.Store) (text : String) (n column : Int) :
    (e.complete files text ⟨n, column⟩ none).1 = (e.cacheInUse files).root?.elim []
      fun root => offers root (Document.ofText text)
        ⟨cursorLine (Document.ofText text) n, column⟩ := by
  rw [complete_offers e files text ⟨n, column⟩ rfl]
  congr 1
  funext root
  rw [dispatched_manual]
  apply offers_of_asked
  · rfl
  · rw [textBefore_columnIn]

/-! ### Nothing typed -/

section BlankCursor

variable {doc : Document} {p : Position} (h : blankLine (doc.lineAt p.line) = true)
include h

theorem blanks_textBefore : ∀ c ∈ doc.textBefore p, isBlank c = true := fun c hc =>
  isBlank_of_mem_blankLine h c (List.mem_of_mem_take hc)

theorem not_afterColon_of_blankLine : ¬ AfterColon doc p := by
  rw [AfterColon, trimEnd_of_blanks (blanks_textBefore h)]
  simp

/-- On a blank line nothing was typed, so every column asks for the same. -/
theorem offers_blankLine (root : Node) : offers root doc p = offers root doc ⟨p.line, 0⟩ := by
  have hstart : blankLine (doc.lineAt (Position.mk p.line 0).line) = true := h
  apply offers_of_asked
  · rfl
  · rw [Request.ofTyped_of_not_colon (not_afterColon_of_blankLine h),
      Request.ofTyped_of_not_colon (not_afterColon_of_blankLine hstart),
        trim_of_blanks (blanks_textBefore h),
      trim_of_blanks (blanks_textBefore hstart)]

end BlankCursor

theorem complete_blank_offers (e : Engine) (files : Files.Store) {text : String} {n : Int}
    (hblank : blankLine ((Document.ofText text).lineAt (cursorLine (Document.ofText text) n)) =
      true) (column : Int)
    {trigger : Option String} (haccepted : accepts e.triggers trigger = true) :
    (e.complete files text ⟨n, column⟩ trigger).1 = (e.cacheInUse files).root?.elim []
      fun root => offers root (Document.ofText text) ⟨cursorLine (Document.ofText text) n, 0⟩ := by
  rw [complete_offers e files text ⟨n, column⟩ haccepted]
  congr 1
  funext root
  have hline := dispatched_line root (Document.ofText text) n column trigger
  rw [offers_blankLine (by rwa [hline]), hline]

theorem accepts_newline (triggers : List String) : accepts triggers (some newline) = true := by
  simp [accepts]

/-- On a blank line all ways to ask agree.  A session has one answer for every column, inside the
line or not, and every trigger that it accepts, also when the request is made after a new line.
With a schema at hand the answer is the element marker at the start of a sequence, and elsewhere
every property of the scope that is still free. -/
theorem complete_blank_line (e : Engine) (files : Files.Store) (text : String) (n : Int)
    (hblank : blankLine ((Document.ofText text).lineAt (cursorLine (Document.ofText text) n)) =
      true) :
    ∃ items,
      (∀ column trigger, accepts e.triggers trigger = true →
        (e.complete files text ⟨n, column⟩ trigger).1 = items) ∧
      (∀ column, (e.completeOnNewline files text ⟨n, column⟩).1 = items) ∧
      ∀ root, e.cache = .loaded root →
        let doc := Document.ofText text
        let cursor : Position := ⟨cursorLine doc n, 0⟩
        let place := placement doc cursor.line (some root)
        (AtSequenceStart root doc cursor place → items = [.marker]) ∧
          (¬ AtSequenceStart root doc cursor place →
            items = (freeProperties root doc place []).map .ofNode) := by
  refine ⟨_, fun column trigger haccepted => complete_blank_offers e files hblank column haccepted,
    fun column => complete_blank_offers e files hblank column (accepts_newline e.triggers), ?_⟩
  intro root hcache doc cursor place
  have hroot : (e.cacheInUse files).root? = some root := by
    rw [Engine.cacheInUse_of_settled files (by simp [hcache]), hcache]
    rfl
  have hcolon : ¬ AfterColon doc cursor := not_afterColon_of_blankLine hblank
  rw [hroot]
  constructor
  · intro hstart
    exact offers_marker hcolon hstart
  · intro hstart
    exact offers_fields hcolon hstart

/-- Below a leaf, on blanks that reach further than the leaf: by hand at a column past the end, and
after a new line, where the cursor moves back to the level of the leaf. -/
theorem complete_blank_line_sample :
    let e := Engine.ofSchema sampleSchema.root defaultTriggers
    let text := "Nodes:\n  - Name: x\n    Kind: Api\n      "
    (e.complete .empty text ⟨3, 99⟩ none).1 = (e.completeOnNewline .empty text ⟨3, 6⟩).1 ∧
      (e.completeOnNewline .empty text ⟨3, 6⟩).1.map Suggestion.label = ["Name"] := by
  intro e text
  obtain ⟨items, hplain, hnewline, _⟩ := complete_blank_line e .empty text 3 (by decide)
  exact ⟨(hplain 99 none rfl).trans (hnewline 6).symm, by decide⟩

/-! ### Typing on -/

theorem isPrefix_textBefore (doc : Document) (line : Int) {a b : Int} (hab : a ≤ b) :
    doc.textBefore ⟨line, a⟩ <+: doc.textBefore ⟨line, b⟩ :=
  List.take_prefix_take_left (Int.toNat_le_toNat hab)

/-- Whether a candidate stays when more is typed: a property by its name, anything else in any case.
-/
def Suggestion.stays (typed : List Char) (s : Suggestion) :
    Bool := !s.isField || matchesTyped s.label typed

/-- Where more is typed, fewer properties are free: those that match what was typed before and match
now. -/
theorem freeProperties_of_isPrefix {typed typed' : List Char} (h : lower typed <+: lower typed')
    (root : Node) (doc : Document) (place : Placement) :
    freeProperties root doc place typed' =
      (freeProperties root doc place typed).filter fun n => matchesTyped n.name typed' := by
  unfold freeProperties
  rw [List.filter_filter]
  apply List.filter_congr
  intro n _
  rw [matchesTyped_eq, Bool.eq_iff_iff]
  simp only [offerable, Bool.and_eq_true, List.isPrefixOf_iff_prefix]
  constructor
  · rintro ⟨hfree, hmatch⟩
    exact ⟨hmatch, hfree, h.trans hmatch⟩
  · rintro ⟨hmatch, hfree, _⟩
    exact ⟨hfree, hmatch⟩

theorem filter_stays_ofNode (typed : List Char) (nodes : List Node) :
    (nodes.map Suggestion.ofNode).filter (Suggestion.stays typed) =
      (nodes.filter fun n => matchesTyped n.name typed).map Suggestion.ofNode := by
  rw [List.filter_map]
  rfl

/-- Further right on a line the candidates are those from further left that stay. -/
theorem offers_of_le {doc : Document} {line a b : Int} (hab : a ≤ b)
    (hsigma : 'Σ' ∉ doc.lineAt line) (ha : ¬ AfterColon doc ⟨line, a⟩)
    (hb : ¬ AfterColon doc ⟨line, b⟩) (root : Node) :
    offers root doc ⟨line, b⟩ =
      (offers root doc ⟨line, a⟩).filter (Suggestion.stays (trim (doc.textBefore ⟨line, b⟩))) := by
  have htyped : trim (doc.textBefore ⟨line, a⟩) <+: trim (doc.textBefore ⟨line, b⟩) :=
    isPrefix_trim (isPrefix_textBefore doc line hab)
  have hplain : 'Σ' ∉ trim (doc.textBefore ⟨line, a⟩) := by
    intro hmem
    have hbefore : 'Σ' ∈ doc.textBefore ⟨line, a⟩ :=
      (List.dropWhile_suffix isBlank).mem ((isPrefix_trimEnd _).mem hmem)
    exact hsigma (List.mem_of_mem_take hbefore)
  -- Whether the line opens a sequence does not depend on the column.
  by_cases hstart : AtSequenceStart root doc ⟨line, a⟩ (placement doc line (some root))
  · rw [offers_marker hb hstart, offers_marker ha hstart]
    rfl
  · rw [offers_fields hb hstart, offers_fields ha hstart, filter_stays_ofNode,
      freeProperties_of_isPrefix (lower_prefix_of_not_mem hplain htyped)]

/-- Typing narrows.  On a line without capital sigma, at two columns where no value is asked for, a
request by hand gives at the second exactly those candidates of the first, in their order, that
still match what was typed; so it gives a subsequence of them. -/
theorem complete_narrows (e : Engine) (files : Files.Store) (text : String) (n : Int) {a b : Int}
    (hab : a ≤ b)
    (hsigma : 'Σ' ∉ (Document.ofText text).lineAt (cursorLine (Document.ofText text) n))
    (ha : ¬ AfterColon (Document.ofText text) ⟨cursorLine (Document.ofText text) n, a⟩)
    (hb : ¬ AfterColon (Document.ofText text) ⟨cursorLine (Document.ofText text) n, b⟩) :
    let typed := trim ((Document.ofText text).textBefore ⟨cursorLine (Document.ofText text) n, b⟩)
    (e.complete files text ⟨n, b⟩ none).1 =
      (e.complete files text ⟨n, a⟩ none).1.filter (Suggestion.stays typed) ∧
      (e.complete files text ⟨n, b⟩ none).1.Sublist (e.complete files text ⟨n, a⟩ none).1 := by
  intro typed
  have hitems : (e.complete files text ⟨n, b⟩ none).1 =
      (e.complete files text ⟨n, a⟩ none).1.filter (Suggestion.stays typed) := by
    rw [complete_manual, complete_manual]
    cases (e.cacheInUse files).root? with
    | none => rfl
    | some root => exact offers_of_le hab hsigma ha hb root
  refine ⟨hitems, ?_⟩
  rw [hitems]
  exact List.filter_sublist

/-- A document with names whose lowercase is not that of their letters one by one. -/
def caseData : Yaml.Value :=
  .map [(.str "spec", .map [(.str "properties", .map [
    (.str "ΒΑΣΗ", .map [(.str "type", .str "string")]),
      (.str "İd", .map [(.str "type", .str "string")]),
    (.str "Id", .map [(.str "type", .str "string")])])])]

/-- The schema of that document. -/
def caseSchema : Built where
  root := .object ⟨"spec", "object", ""⟩
    [.scalar ⟨"ΒΑΣΗ", "string", ""⟩, .scalar ⟨"İd", "string", ""⟩, .scalar ⟨"Id", "string", ""⟩]
  skipped := []

theorem build_caseData : build caseData = .ok caseSchema := by
  simp [caseData, caseSchema, build, rootName, Yaml.Value.get?, Yaml.Value.text, textOf, isKey,
    collapse,
    place, assemble, definedNodes, propertiesIn, elementIn, skippedIn, skippedProperties,
      skippedElement, Node.name,
    Node.info]

/-- A dotted capital `İ`, which lowers to two characters, and a blank after it. -/
theorem complete_narrows_dotted :
    let e := Engine.ofSchema caseSchema.root defaultTriggers
    (e.complete .empty "İ d" ⟨0, 2⟩ none).1.Sublist (e.complete .empty "İ d" ⟨0, 0⟩ none).1 ∧
      (e.complete .empty "İ d" ⟨0, 2⟩ none).1.map Suggestion.label = ["İd"] ∧
      (e.complete .empty "İ d" ⟨0, 0⟩ none).1.map Suggestion.label = ["ΒΑΣΗ", "İd", "Id"] := by
  intro e
  exact ⟨(complete_narrows e .empty "İ d" 0 (a := 0) (b :=
    2) (by decide) (by decide) (by decide) (by decide)).2,
    by decide, by decide⟩

/-! ### A name typed out -/

/-- A name starts with each of its beginnings, ignoring case, except where a sigma is split. -/
theorem matchesTyped_take_iff (name : String) (k : Nat) :
    matchesTyped name (name.toList.take k) = true ↔
      ¬ SplitsSigma [] (name.toList.take k) (name.toList.drop k) := by
  have hbegins := lower_prefix_iff (name.toList.take k) (name.toList.drop k)
  rw [List.take_append_drop] at hbegins
  rw [matchesTyped_eq, List.isPrefixOf_iff_prefix, hbegins]

/-- A document in which something was typed at the end of a line. -/
def typeAt (doc : Document) (c : Nat) (typed : List Char) : Document :=
  ⟨doc.lines.set c (doc.lineAt c ++ typed)⟩

/-- The cursor right after what was typed. -/
def afterTyping (doc : Document) (c : Nat) (typed : List Char) : Position :=
  ⟨c, (doc.lineAt c ++ typed).length⟩

section Typed

variable {doc : Document} {c : Nat} (hc : c < doc.lines.length) (hblank : blankLine (doc.lineAt c) =
    true)
  {typed : List Char} (htyped : IsKey typed)

include hc in
theorem textBefore_typeAt (typed : List Char) :
    (typeAt doc c typed).textBefore (afterTyping doc c typed) = doc.lineAt c ++ typed := by
  have hline : (typeAt doc c typed).lineAt c = doc.lineAt c ++ typed := lineAt_set hc _
  rw [textBefore, afterTyping, hline, Int.toNat_natCast, List.take_length]

include hc in
theorem dispatched_typeAt (typed : List Char) (root : Node) {trigger : Option String}
    (htrigger : trigger ≠ some newline) :
    dispatched root (typeAt doc c typed) (afterTyping doc c typed) trigger =
      afterTyping doc c typed := by
  have hlt : (c : Int) < (typeAt doc c typed).lines.length := by
    rw [typeAt, List.length_set]
    omega
  have hline : (typeAt doc c typed).lineAt c = doc.lineAt c ++ typed := lineAt_set hc _
  rw [afterTyping, dispatched_of_ne_newline root _ (by omega) hlt _ htrigger, hline, columnIn]
  congr 1
  omega

include hc hblank htyped in
/-- The line keeps its place when something is typed after its indentation. -/
theorem placement_typeAt (root : Node) :
    placement (typeAt doc c typed) c (some root) = placement doc c (some root) := by
  have hws : ∀ x ∈ doc.lineAt c, isBlank x = true := isBlank_of_mem_blankLine hblank
  have hindent : indent ((typeAt doc c typed).lineAt c) = indent (doc.lineAt c) := by
    have hhead : ∀ x ∈ typed.head?, isBlank x = false :=
      fun x hx => (htyped.2 x (List.mem_of_mem_head? hx)).1
    have hplain := @indent_append _ [] hws (by simp)
    rw [List.append_nil] at hplain
    rw [typeAt, lineAt_set hc, indent_append hws hhead, hplain]
  rw [placement_eq_view, placement_eq_view]
  exact View.placement_congr (above_set doc c _) hindent (below_set doc c _) root

include hc hblank htyped in
theorem declaredAnywhere_typeAt (name : String) :
    declaredAnywhere (typeAt doc c typed) name = declaredAnywhere doc name := by
  have hcolon : ':' ∉ doc.lineAt c ++ typed := by
    intro hmem
    rcases List.mem_append.mp hmem with hmem | hmem
    · exact colon_not_mem_blankLine hblank hmem
    · exact (htyped.2 ':' hmem).2 rfl
  calc declaredAnywhere (typeAt doc c typed) name
      = (doc.lines.take c ++ (doc.lineAt c ++ typed) :: doc.lines.drop (c + 1)).any
        (declares name.toList) := by
        rw [declaredAnywhere, typeAt, List.set_eq_take_append_cons_drop, if_pos hc]
    _ = (doc.lines.take c ++ doc.lineAt c :: doc.lines.drop (c + 1)).any
      (declares name.toList) := by
        rw [List.any_append, List.any_append, List.any_cons, List.any_cons,
          declares_of_not_mem hcolon,
          declares_of_blankLine hblank]
    _ = declaredAnywhere doc name := by
        rw [← drop_eq_lineAt_cons hc, List.take_append_drop, declaredAnywhere]

include hc hblank htyped in
theorem freeProperties_typeAt (root : Node) (place : Placement) (t : List Char) :
    freeProperties root (typeAt doc c typed) place t = freeProperties root doc place t := by
  simp only [freeProperties, offerable, declaredAnywhere_typeAt hc hblank htyped]

include hc htyped in
theorem not_afterColon_typeAt : ¬ AfterColon (typeAt doc c typed) (afterTyping doc c typed) := by
  have hchar : ∀ x ∈ typed.getLast?, isBlank x = false ∧ x ≠ ':' := fun x hx =>
    htyped.2 x (List.mem_of_getLast? hx)
  have hlast : (doc.lineAt c ++ typed).getLast? = typed.getLast? :=
    List.getLast?_append_of_ne_nil _ htyped.1
  have hend : trimEnd (doc.lineAt c ++ typed) = doc.lineAt c ++ typed := by
    apply trimEnd_eq_self
    rw [hlast]
    exact fun x hx => (hchar x hx).1
  rw [AfterColon, textBefore_typeAt hc, hend, hlast]
  exact fun h => (hchar ':' h).2 rfl

include hc hblank htyped in
theorem trim_textBefore_typeAt :
    trim ((typeAt doc c typed).textBefore (afterTyping doc c typed)) = typed := by
  rw [textBefore_typeAt hc, trim_append (isBlank_of_mem_blankLine hblank), trim_eq_self]
  · exact fun x hx => (htyped.2 x (List.mem_of_mem_head? hx)).1
  · exact fun x hx => (htyped.2 x (List.mem_of_getLast? hx)).1

include hc hblank htyped in
/-- Typing does not bring a line to the start of a sequence. -/
theorem atSequenceStart_of_typeAt {root : Node} {column column' : Int}
    (h : AtSequenceStart root (typeAt doc c typed) ⟨c, column'⟩
      (placement (typeAt doc c typed) c (some root))) :
    AtSequenceStart root doc ⟨c, column⟩ (placement doc c (some root)) := by
  have hle : (Position.mk c column).line ≤ doc.lines.length := by
    change (c : Int) ≤ doc.lines.length
    omega
  have hle' : (Position.mk c column').line ≤ (typeAt doc c typed).lines.length := by
    rw [typeAt, List.length_set]
    exact hle
  have habove : keyAbove? (typeAt doc c typed) c = keyAbove? doc c := by
    rw [keyAbove?, keyAbove?, typeAt, above_set]
  obtain ⟨hpath, hscope, hopens⟩ := h
  rw [placement_typeAt hc hblank htyped] at hpath hscope hopens
  refine ⟨hpath, hscope, ?_⟩
  rw [opensSequence_eq _ hle', Bool.and_eq_true, habove] at hopens
  rw [opensSequence_eq _ hle, Bool.and_eq_true, trim_of_blanks (isBlank_of_mem_blankLine hblank)]
  exact ⟨rfl, hopens.2⟩

include hc hblank htyped in
/-- What is typed after the indentation leaves the properties on offer that start with it. -/
theorem offers_typeAt {root : Node} {column : Int}
    (hfields : ¬ AtSequenceStart root doc ⟨c, column⟩ (placement doc c (some root))) :
    offers root (typeAt doc c typed) (afterTyping doc c typed) =
      (offers root doc ⟨c, column⟩).filter (Suggestion.stays typed) := by
  have hold : blankLine (doc.lineAt (Position.mk c column).line) = true := hblank
  have hplace : placement (typeAt doc c typed) (afterTyping doc c typed).line (some root) =
      placement doc c (some root) := placement_typeAt hc hblank htyped root
  have hfields' : ¬ AtSequenceStart root (typeAt doc c typed) (afterTyping doc c typed)
      (placement (typeAt doc c typed) (afterTyping doc c typed).line (some root)) := fun hstart =>
    hfields (atSequenceStart_of_typeAt hc hblank htyped hstart)
  have hnothing : lower [] <+: lower typed := List.nil_prefix
  rw [offers_fields (not_afterColon_typeAt hc htyped) hfields', hplace,
    trim_textBefore_typeAt hc hblank htyped,
    freeProperties_typeAt hc hblank htyped, freeProperties_of_isPrefix hnothing,
    offers_fields (not_afterColon_of_blankLine hold) hfields,
      trim_of_blanks (blanks_textBefore hold),
    filter_stays_ofNode]

include hc hblank htyped in
/-- A property that is offered after the indentation is offered after more was typed exactly if its
name starts with that, ignoring case. -/
theorem mem_offers_typeAt_iff {root : Node} {column : Int} {s : Suggestion}
    (hs : s ∈ offers root doc ⟨c, column⟩) (hfield : s.isField = true) :
    s ∈ offers root (typeAt doc c typed) (afterTyping doc c typed) ↔
      matchesTyped s.label typed = true := by
  have hold : blankLine (doc.lineAt (Position.mk c column).line) = true := hblank
  have hfields : ¬ AtSequenceStart root doc ⟨c, column⟩ (placement doc c (some root)) := by
    intro hstart
    rw [offers_marker (not_afterColon_of_blankLine hold) hstart] at hs
    obtain rfl : s = .marker := by simpa using hs
    cases hfield
  rw [offers_typeAt hc hblank htyped hfields, List.mem_filter, Suggestion.stays, hfield]
  simp [hs]

end Typed

/-- A property while its own name is typed.  A name starts with a beginning of itself, ignoring
case, unless the beginning splits a sigma.  So take a property that any session offers on a line of
which only the indentation was typed, by whatever trigger at whatever column, and type a beginning
of its name there: it is still offered, by hand and after every character that triggers completion,
exactly if the beginning splits no sigma. -/
theorem offered_while_typed (name : String) (k : Nat) :
    (matchesTyped name (name.toList.take k) = true ↔
      ¬ SplitsSigma [] (name.toList.take k) (name.toList.drop k)) ∧
    ∀ (e : Engine) (files : Files.Store) (text : String) (c : Nat) (column : Int)
      (trigger : Option String) (s : Suggestion),
      let doc := Document.ofText text
      let typed := name.toList.take k
      c < doc.lines.length → blankLine (doc.lineAt c) = true →
      s ∈ (e.complete files text ⟨c, column⟩ trigger).1 → s.isField = true → s.label = name →
      IsKey name.toList → 0 < k →
        (∃ edited, Document.ofText edited = typeAt doc c typed) ∧
        ∀ edited, Document.ofText edited = typeAt doc c typed →
          ∀ again, accepts e.triggers again = true → again ≠ some newline →
            (s ∈ (e.complete files edited (afterTyping doc c typed) again).1 ↔
              ¬ SplitsSigma [] typed (name.toList.drop k)) := by
  refine ⟨matchesTyped_take_iff name k, ?_⟩
  rintro e files text c column trigger s doc typed hc hblank hs hfield rfl hname hk
  have htyped : IsKey typed := hname.take hk
  constructor
  · apply exists_ofText_set
    intro hmem
    rcases List.mem_append.mp hmem with hmem | hmem
    · exact newline_not_mem_lineAt text c hmem
    · exact absurd (htyped.2 '\n' hmem).1 (by decide)
  · intro edited hedited again hagain hcharacter
    have haccepted : accepts e.triggers trigger = true := by
      by_contra hrejected
      rw [Engine.complete_rejected e files text _ trigger (eq_false_of_ne_true hrejected)] at hs
      cases hs
    rw [complete_offers e files edited _ hagain, hedited]
    rw [complete_offers e files text _ haccepted] at hs
    cases hroot : (e.cacheInUse files).root? with
    | none =>
      rw [hroot] at hs
      cases hs
    | some root =>
      rw [hroot, Option.elim_some, dispatched_eq root doc (by omega) (by exact_mod_cast hc)] at hs
      rw [Option.elim_some, dispatched_typeAt hc typed root hcharacter,
        mem_offers_typeAt_iff hc hblank htyped hs hfield]
      exact matchesTyped_take_iff s.label k

/-- Two letters of `ΒΑΣΗ` keep it on offer.  Three do not: the sigma, now at the end, lowers to its
final form. -/
theorem offered_while_typed_sample :
    let e := Engine.ofSchema caseSchema.root defaultTriggers
    let s := Suggestion.field "ΒΑΣΗ" "string" "" false
    s ∈ (e.complete .empty "\n  " ⟨1, 2⟩ none).1 ∧ s ∈ (e.complete .empty "\n  ΒΑ" ⟨1, 4⟩ none).1 ∧
      s ∉ (e.complete .empty "\n  ΒΑΣ" ⟨1, 5⟩ none).1 := by
  intro e s
  have hs : s ∈ (e.complete .empty "\n  " ⟨1, 2⟩ none).1 := by decide
  have htwo :=
    (offered_while_typed "ΒΑΣΗ" 2).2 e .empty "\n  " 1 2 none s (by decide) (by decide) hs rfl rfl
    (by decide) (by decide)
  have hthree :=
    (offered_while_typed "ΒΑΣΗ" 3).2 e .empty "\n  " 1 2 none s (by decide) (by decide) hs rfl rfl
    (by decide) (by decide)
  have hkeeps : ¬ SplitsSigma [] ("ΒΑΣΗ".toList.take 2) ("ΒΑΣΗ".toList.drop 2) :=
    fun h => absurd h.mem (by decide)
  have hsplits : SplitsSigma [] ("ΒΑΣΗ".toList.take 3) ("ΒΑΣΗ".toList.drop 3) :=
    ⟨['Β', 'Α'], [], by decide, by simp, by decide +kernel, by decide +kernel⟩
  have hafterTwo : afterTyping (Document.ofText "\n  ") 1 ("ΒΑΣΗ".toList.take 2) = ⟨1, 4⟩ := by
    decide
  have hafterThree : afterTyping (Document.ofText "\n  ") 1 ("ΒΑΣΗ".toList.take 3) = ⟨1, 5⟩ := by
    decide
  have hoffered := (htwo.2 "\n  ΒΑ" (by decide) none rfl (by simp)).mpr hkeeps
  have hgone := mt (hthree.2 "\n  ΒΑΣ" (by decide) none rfl (by simp)).mp (not_not_intro hsplits)
  rw [hafterTwo] at hoffered
  rw [hafterThree] at hgone
  exact ⟨hs, hoffered, hgone⟩

/-- A name that does not start with its own first three letters, and is gone once they are typed. -/
theorem not_offered_at_sigma :
    matchesTyped "ΒΑΣΗ" ("ΒΑΣΗ".toList.take 3) = false ∧ build caseData = .ok caseSchema ∧
      ((Engine.ofSchema caseSchema.root defaultTriggers).complete .empty "" ⟨0, 0⟩ none).1.map
        Suggestion.label =
        ["ΒΑΣΗ", "İd", "Id"] ∧
      ((Engine.ofSchema caseSchema.root defaultTriggers).complete .empty "ΒΑΣ" ⟨0, 3⟩ none).1 =
        [] :=
  ⟨by decide +kernel, build_caseData, by decide +kernel, by decide +kernel⟩

end Completion

end SchemaAssist
