/-
  What a document declares elsewhere, by conditions on its lines.

  The search for node identifiers goes from line to line with a flag.  The flag says no more than
  that the nearest line above that starts with a letter is the heading of a block of nodes
  (`UnderNodes`), so the identifiers found are those of the elements below such a heading
  (`nodeIdentifiers_eq`).  They are what is offered for either end of a relationship
  (`complete_relationship_end`).

  A root property counts as in use where its name is declared on any line.  For a name that can be a
  key this is the same as being the key of a line, so a declared root property is not offered again,
  and the siblings of a line take nothing away that is not taken already (`root_offered_once`).
-/
import SchemaAssist.Proofs.Hierarchy
import SchemaAssist.Proofs.Reindenting

namespace SchemaAssist.Completion

open Document Schema Text

/-! ### Headings -/

/-- A line that starts with an ASCII letter. -/
def LetterLine (line : Line) : Prop :=
  ∃ c rest, line = c :: rest ∧ (('A' ≤ c ∧ c ≤ 'Z') ∨ ('a' ≤ c ∧ c ≤ 'z'))

/-- The heading of a block of nodes: the word, blanks, a colon, and anything. -/
def NodesHeading (line : Line) :
    Prop := ∃ v rest, Blanks v ∧ line = "Nodes".toList ++ (v ++ ':' :: rest)

theorem opensNodes_iff {line : Line} : opensNodes line = true ↔ NodesHeading line := by
  rw [opensNodes, startsWithKey_iff]
  constructor
  · rintro ⟨tail, ⟨v, rest, hv, rfl⟩, hline⟩
    exact ⟨v, rest, hv, hline⟩
  · rintro ⟨v, rest, hv, hline⟩
    exact ⟨_, ⟨v, rest, hv, rfl⟩, hline⟩

instance (line : Line) : Decidable (LetterLine line) := decidable_of_iff _ startsWithLetter_iff

instance (line : Line) : Decidable (NodesHeading line) := decidable_of_iff _ opensNodes_iff

theorem NodesHeading.letterLine {line : Line} (h : NodesHeading line) : LetterLine line := by
  obtain ⟨v, rest, _, rfl⟩ := h
  exact ⟨'N', _, rfl, Or.inl (by decide)⟩

/-- A line that starts with a letter opens no element. -/
theorem LetterLine.element?_eq_none {line : Line} (h : LetterLine line) : element? line = none := by
  cases hid : element? line with
  | none => rfl
  | some id =>
    obtain ⟨_, u, v, w, rest, hu, _, _, rfl⟩ := element?_eq_some_iff.mp hid
    exfalso
    cases u with
    | nil =>
      obtain ⟨c, tail, heq, hletter⟩ := h
      obtain rfl : '-' = c := (List.cons.inj heq).1
      revert hletter
      decide
    | cons b u =>
      have hblank : startsWithLetter (b :: u ++ '-' :: (v ++ (id.toList ++ (w ++ ':' :: rest)))) =
          false := by
        apply startsWithLetter_of_blank
        rintro c ⟨⟩
        exact hu b List.mem_cons_self
      rw [startsWithLetter_iff.mpr h] at hblank
      cases hblank

/-! ### The nearest heading above a line -/

/-- The nearest line above line `i` that starts with a letter exists, and is the heading of a block
of nodes. -/
def UnderNodes (doc : Document) (i : Nat) : Prop :=
  ∃ h < i, LetterLine (doc.lineAt h) ∧ (∀ j < i, h < j → ¬ LetterLine (doc.lineAt j)) ∧
    NodesHeading (doc.lineAt h)

instance (doc : Document) (i : Nat) : Decidable (UnderNodes doc i) :=
  inferInstanceAs (Decidable (∃ h, h < i ∧ _))

theorem not_underNodes_zero (doc : Document) : ¬ UnderNodes doc 0 := by
  rintro ⟨h, hlt, _⟩
  exact Nat.not_lt_zero h hlt

theorem underNodes_succ_of_letter {doc : Document} {n : Nat} (hletter : LetterLine (doc.lineAt n)) :
    UnderNodes doc (n + 1) ↔ NodesHeading (doc.lineAt n) := by
  constructor
  · rintro ⟨h, hlt, _, hnearest, hheading⟩
    rcases Nat.lt_succ_iff_lt_or_eq.mp hlt with hbefore | rfl
    · exact (hnearest n (Nat.lt_succ_self n) hbefore hletter).elim
    · exact hheading
  · intro hheading
    exact ⟨n, Nat.lt_succ_self n, hletter, fun j hj hlater => by omega, hheading⟩

theorem underNodes_succ_of_not_letter {doc : Document} {n : Nat}
    (hletter : ¬ LetterLine (doc.lineAt n)) :
    UnderNodes doc (n + 1) ↔ UnderNodes doc n := by
  constructor
  · rintro ⟨h, hlt, hstart, hnearest, hheading⟩
    rcases Nat.lt_succ_iff_lt_or_eq.mp hlt with hbefore | rfl
    · exact ⟨h, hbefore, hstart, fun j hj => hnearest j (Nat.lt_succ_of_lt hj), hheading⟩
    · exact (hletter hstart).elim
  · rintro ⟨h, hlt, hstart, hnearest, hheading⟩
    refine ⟨h, Nat.lt_succ_of_lt hlt, hstart, fun j hj hlater => ?_, hheading⟩
    rcases Nat.lt_succ_iff_lt_or_eq.mp hj with hj | rfl
    · exact hnearest j hj hlater
    · exact hletter

/-! ### The identifiers below headings -/

/-- The identifier that line `i` declares for a node, if any. -/
def identifierAt? (doc : Document) (i : Nat) : Option String :=
  if UnderNodes doc i then element? (doc.lineAt i) else none

theorem identifierAt?_eq_some_iff {doc : Document} {i : Nat} {id : String} :
    identifierAt? doc i = some id ↔
      UnderNodes doc i ∧ IsKey id.toList ∧ ElementLine id.toList (doc.lineAt i) := by
  unfold identifierAt?
  by_cases hunder : UnderNodes doc i
  · rw [if_pos hunder, element?_eq_some_iff]
    exact ⟨fun h => ⟨hunder, h⟩, fun h => h.2⟩
  · rw [if_neg hunder]
    constructor
    · intro h
      cases h
    · rintro ⟨habove, _⟩
      exact (hunder habove).elim

/-- What the scan does at one line: it adds what the line declares, and its flag goes on to say
whether the next line is under a heading. -/
theorem identifiersFrom_step {doc : Document} {n : Nat} {inside : Bool}
    (hinside : inside = true ↔ UnderNodes doc n) (rest : List Line) :
    ∃ next : Bool, (next = true ↔ UnderNodes doc (n + 1)) ∧
      identifiersFrom inside (doc.lineAt n :: rest) =
        (identifierAt? doc n).toList ++ identifiersFrom next rest := by
  by_cases hletter : LetterLine (doc.lineAt n)
  · have hnone : identifierAt? doc n = none := by
      unfold identifierAt?
      rw [hletter.element?_eq_none]
      split <;> rfl
    refine ⟨opensNodes (doc.lineAt n), by rw [opensNodes_iff, underNodes_succ_of_letter hletter],
      ?_⟩
    rw [hnone, identifiersFrom, startsWithLetter_iff.mpr hletter]
    cases opensNodes (doc.lineAt n) <;> simp
  · have hopens : opensNodes (doc.lineAt n) = false :=
      eq_false_of_ne_true fun h => hletter (opensNodes_iff.mp h).letterLine
    have hstart : startsWithLetter (doc.lineAt n) = false :=
      eq_false_of_ne_true fun h => hletter (startsWithLetter_iff.mp h)
    refine ⟨inside, by rw [hinside, underNodes_succ_of_not_letter hletter], ?_⟩
    rw [identifiersFrom, hopens, hstart, identifierAt?]
    cases inside with
    | true => rw [if_pos (hinside.mp rfl)]; simp
    | false => rw [if_neg (fun hunder => Bool.false_ne_true (hinside.mpr hunder))]; simp

theorem identifiersFrom_drop {doc : Document} {left n : Nat} (hleft : n + left = doc.lines.length)
    {inside : Bool} (hinside : inside = true ↔ UnderNodes doc n) :
    identifiersFrom inside (doc.lines.drop n) =
      (List.range' n left).filterMap (identifierAt? doc) := by
  -- The scan goes down, so the induction is on the lines that are left.
  induction left generalizing n inside with
  | zero =>
    rw [List.drop_of_length_le (by omega)]
    rfl
  | succ left ih =>
    have hn : n < doc.lines.length := by omega
    obtain ⟨next, hnext, hstep⟩ := identifiersFrom_step hinside (doc.lines.drop (n + 1))
    rw [drop_eq_lineAt_cons hn, hstep, ih (by omega) hnext, List.range'_succ, List.filterMap_cons]
    cases identifierAt? doc n with
    | none => rfl
    | some id => rfl

/-- The scan finds what each line declares by itself, in document order. -/
theorem nodeIdentifiers_eq (doc : Document) :
    nodeIdentifiers doc = (List.range doc.lines.length).filterMap (identifierAt? doc) := by
  have hstart : false = true ↔ UnderNodes doc 0 := by
    simpa using not_underNodes_zero doc
  have hrun := identifiersFrom_drop (Nat.zero_add doc.lines.length) hstart
  rwa [List.drop_zero, ← List.range_eq_range'] at hrun

/-! ### The ends of a relationship -/

/-- A typed text that ends in a colon, blanks aside, asks for the values of what stands before it.
-/
theorem Request.ofTyped_of_trim {before s : List Char} (h : trim before = s ++ [':']) :
    Request.ofTyped before = .values (String.ofList (stripMarker (trim s))) := by
  have hstart : Request.ofTyped before = Request.ofTyped (trimStart before) := by
    have happend := Request.ofTyped_append (blanks_takeWhile before) (trimStart before)
    rwa [takeWhile_append_trimStart] at happend
  have hend : (trimEnd (trimStart before)).reverse = ':' :: s.reverse := by
    rw [← trim, h, List.reverse_append]
    rfl
  rw [hstart, Request.ofTyped, hend]
  simp only [List.reverse_reverse]

/-- A marker in front of a name, with any blanks after it, is not part of the name. -/
theorem stripMarker_trim {marker name : List Char}
    (hmarker : marker = [] ∨ ∃ v, Blanks v ∧ marker = '-' :: v)
    (hstart : ∀ c ∈ name.head?, isBlank c = false ∧ c ≠ '-')
    (hend : ∀ c ∈ name.getLast?, isBlank c = false) (hne : name ≠ []) :
    stripMarker (trim (marker ++ name)) = name := by
  rcases hmarker with rfl | ⟨v, hv, rfl⟩
  · rw [List.nil_append, trim_eq_self (fun c hc => (hstart c hc).1) hend]
    cases name with
    | nil => rfl
    | cons a name =>
      have ha : a ≠ '-' := (hstart a rfl).2
      unfold stripMarker
      split
      · rename_i rest heq
        exact (ha (List.cons.inj heq).1).elim
      · rfl
  · have hkeep : trim ('-' :: v ++ name) = '-' :: v ++ name := by
      apply trim_eq_self
      · rintro c ⟨⟩
        decide
      · intro c hc
        rw [List.getLast?_append_of_ne_nil _ hne] at hc
        exact hend c hc
    rw [hkeep]
    change trimStart (v ++ name) = name
    rw [Document.trimStart_append hv]
    exact trimStart_eq_self fun c hc => (hstart c hc).1

/-- The node identifiers of a document are those of the lines `- id:` for which the nearest line
above that starts with a letter is the heading `Nodes:`, in document order.  Wherever the text typed
on a line below `Relationships` is `Start:` or `End:`, perhaps after a marker, a request by hand
offers exactly these, each as a value to be inserted after a space. -/
theorem complete_relationship_end :
    (∀ doc : Document,
      nodeIdentifiers doc = (List.range doc.lines.length).filterMap (identifierAt? doc) ∧
        ∀ i id, identifierAt? doc i = some id ↔
          UnderNodes doc i ∧ IsKey id.toList ∧ ElementLine id.toList (doc.lineAt i)) ∧
    ∀ (root : Node) (e : Engine), e.cache = .loaded root →
      ∀ (files : Files.Store) (text : String) (p : Position),
      let doc := Document.ofText text
      let target := doc.clamp p
      let items := (e.complete files text p none).1
      ∀ field ∈ referenceFields, ∀ marker : List Char,
        (marker = [] ∨ ∃ v, Blanks v ∧ marker = '-' :: v) →
        trim (doc.textBefore target) = marker ++ (field.toList ++ [':']) →
        (placement doc target.line (some root)).block? = some relationshipsKey →
        items = (nodeIdentifiers doc).map .value ∧
          items.map Suggestion.insertText = (nodeIdentifiers doc).map fun id => " " ++ id := by
  refine ⟨fun doc => ⟨nodeIdentifiers_eq doc, fun i id => identifierAt?_eq_some_iff⟩, ?_⟩
  intro root e hcache files text p doc target items field hfield marker hmarker htyped hblock
  have hname : stripMarker (trim (marker ++ field.toList)) = field.toList := by
    rcases List.mem_cons.mp hfield with rfl | hfield
    · exact stripMarker_trim hmarker (by rintro c ⟨⟩; decide) (by rintro c ⟨⟩; decide) (by decide)
    · obtain rfl : field = "End" := by simpa using hfield
      exact stripMarker_trim hmarker (by rintro c ⟨⟩; decide) (by rintro c ⟨⟩; decide) (by decide)
  have hasked : Request.ofTyped (doc.textBefore target) = .values field := by
    rw [← List.append_assoc] at htyped
    rw [Request.ofTyped_of_trim htyped, hname, String.ofList_toList]
  have htarget : dispatched root doc p none = target := dispatched_eq_clamp root doc p (by simp)
  have hitems : items = (nodeIdentifiers doc).map .value := by
    simp only [items]
    rw [complete_items hcache, if_pos (by rfl)]
    change offers root doc (dispatched root doc p none) = _
    rw [htarget, offers_values hasked, valueSuggestions, if_pos ⟨hblock, hfield⟩]
  refine ⟨hitems, ?_⟩
  rw [hitems, List.map_map]
  rfl

/-- Two blocks of nodes with another section between them; a marker stands before `Start:`. -/
theorem complete_relationship_end_sample :
    ((Engine.ofSchema sampleSchema.root defaultTriggers).complete .empty
      "Nodes:\n  - A:\nName: x\n  - X:\nNodes :\n- B: y\nRelationships:\n  - R:\n    - Start: "
        ⟨8, 13⟩ none).1 =
        [.value "A", .value "B"] := by
  have hitems :=
    complete_relationship_end.2 sampleSchema.root
      (Engine.ofSchema sampleSchema.root defaultTriggers) rfl
    .empty "Nodes:\n  - A:\nName: x\n  - X:\nNodes :\n- B: y\nRelationships:\n  - R:\n    - Start: "
      ⟨8, 13⟩
    "Start" (by decide) ['-', ' '] (Or.inr ⟨[' '], by decide, rfl⟩) (by decide) (by decide)
  exact hitems.1.trans (by decide)

/-! ### Root properties that are declared -/

theorem declaredAnywhere_iff {doc : Document} {name : String} (hname : IsKey name.toList) :
    declaredAnywhere doc name = true ↔ ∃ line ∈ doc.lines, key? line = some name := by
  simp only [declaredAnywhere, List.any_eq_true, declares_iff_key? hname]

/-- A key that is used beside a line is declared, also as the name of a root property. -/
theorem declaredAnywhere_of_mem_usedKeys {doc : Document} {line level : Int} {k : String}
    (h : k ∈ usedKeys doc line level) : declaredAnywhere doc k = true := by
  obtain ⟨m, hm, _, _, hkey, _⟩ := mem_usedKeys_iff.mp h
  have hline : doc.lineAt m ∈ doc.lines := by
    rw [lineAt_natCast, List.getElem?_eq_getElem hm]
    exact List.getElem_mem hm
  exact (declaredAnywhere_iff (key?_eq_some_iff.mp hkey).1).mpr ⟨_, hline, hkey⟩

theorem mem_declaredNames {doc : Document} {names : List String} {name : String} :
    name ∈ declaredNames doc names ↔ name ∈ names ∧ declaredAnywhere doc name = true :=
  List.mem_filter

/-- At the root the siblings of a line take nothing away that is not declared already. -/
theorem rootSuggestions_eq_of_declared {root : Node} {place : Placement} {declared : List String}
    (h : ∀ n ∈ root.children, n.name ∈ place.usedKeys → n.name ∈ declared) (typed : List Char) :
    rootSuggestions root place declared typed = propertySuggestions root declared typed := by
  unfold rootSuggestions propertySuggestions
  congr 1
  apply List.filter_congr
  intro n hn
  have hsame : (declared ++ place.usedKeys).contains n.name = declared.contains n.name := by
    rw [Bool.eq_iff_iff, List.contains_iff_mem, List.contains_iff_mem, List.mem_append]
    constructor
    · rintro (hdeclared | hused)
      · exact hdeclared
      · exact h n hn hused
    · exact Or.inl
  rw [hsame]

/-- A name that can be a key counts as declared exactly if it is the key of some line, however deep
the line is indented.  So where a request is placed at the root, no such name that is declared
anywhere is offered as a property.  The keys used beside the cursor are all declared, so that the
test for siblings leaves the offered properties as they are. -/
theorem root_offered_once (doc : Document) :
    (∀ names : List String, ∀ name ∈ names, IsKey name.toList →
      (name ∈ declaredNames doc names ↔ ∃ line ∈ doc.lines, key? line = some name)) ∧
    ∀ text, Document.ofText text = doc → ∀ (root : Node) (e : Engine), e.cache = .loaded root →
      ∀ (files : Files.Store) (p : Position) (trigger : Option String),
        let place := placement doc (dispatched root doc p trigger).line (some root)
        let declared := declaredNames doc (root.children.map (·.name))
        place.path = none →
          (∀ name, IsKey name.toList → (∃ line ∈ doc.lines, key? line = some name) →
            ∀ s ∈ (e.complete files text p trigger).1, s.isField = true → s.label ≠ name) ∧
          (∀ n ∈ root.children, n.name ∈ place.usedKeys → n.name ∈ declared) ∧
          ∀ typed, rootSuggestions root place declared typed =
            propertySuggestions root declared typed := by
  constructor
  · intro names name hmem hname
    rw [mem_declaredNames, declaredAnywhere_iff hname]
    exact ⟨fun h => h.2, fun h => ⟨hmem, h⟩⟩
  · rintro text rfl root e hcache files p trigger place declared hroot
    have hused : ∀ n ∈ root.children, n.name ∈ place.usedKeys → n.name ∈ declared := by
      intro n hn hmem
      apply mem_declaredNames.mpr
      exact ⟨List.mem_map.mpr ⟨n, hn, rfl⟩, declaredAnywhere_of_mem_usedKeys hmem⟩
    refine ⟨?_, hused, rootSuggestions_eq_of_declared hused⟩
    rintro name hname hline s hs hfield rfl
    have hfree :=
      offerable_of_field (mem_offers_of_mem_complete hcache files text p trigger hs) hfield
    have hdeclared := (declaredAnywhere_iff hname).mpr hline
    simp [offerable, place, hroot, hdeclared] at hfree

/-- `Nodes` stands on an indented line with a no-break space before the colon, and a name is full of
signs. -/
theorem root_offered_once_sample :
    let doc := Document.ofText "\tNodes\u00a0: x\n(a.b)*: 1\n"
    "(a.b)*" ∈ declaredNames doc ["a.b", "(a.b)*"] ∧ "a.b" ∉ declaredNames doc ["a.b", "(a.b)*"] ∧
      ∀ s ∈ ((Engine.ofSchema sampleSchema.root defaultTriggers).complete .empty
          "\tNodes\u00a0: x\n(a.b)*: 1\n" ⟨2, 0⟩ none).1,
        s.isField = true → s.label ≠ "Nodes" := by
  intro doc
  obtain ⟨hkeys, hoffered⟩ := root_offered_once doc
  have hroot :=
    (hoffered _ rfl sampleSchema.root (Engine.ofSchema sampleSchema.root defaultTriggers) rfl .empty
      ⟨2, 0⟩
    none (by decide)).1
  refine ⟨?_, by decide, ?_⟩
  · exact (hkeys ["a.b", "(a.b)*"] "(a.b)*" (by decide) (by decide)).mpr
      ⟨"(a.b)*: 1".toList, by decide, by decide⟩
  · exact hroot "Nodes" (by decide) ⟨"\tNodes\u00a0: x".toList, by decide, by decide⟩

end SchemaAssist.Completion
