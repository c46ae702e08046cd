/-
  A property whose values are offered next.

  A property with choices asks the host to complete again right after it was inserted.  The second
  request starts from the edited text alone.  It reaches the node that the property came from
  because the edit changes neither what stands around the line nor its indentation, so that the line
  keeps its place (`placement_accept`), and because the name read back from the line is the name
  that was inserted (`textBefore_accept`, `Request.ofTyped_field`).
-/
import SchemaAssist.Proofs.Offers

namespace SchemaAssist.Completion

open Document Schema Text

/-! ### Accepting a candidate -/

/-- A line on which a candidate was accepted: its leading blanks, what is inserted, and what stood
behind the cursor. -/
def acceptedLine (line : Line) (column : Nat) (s : Suggestion) : Line :=
  line.takeWhile isBlank ++ (s.insertText.toList ++ line.drop column)

/-- A document in which a candidate was accepted. -/
def accept (doc : Document) (c column : Nat) (s : Suggestion) : Document :=
  ⟨doc.lines.set c (acceptedLine (doc.lineAt c) column s)⟩

/-- The cursor right after what was inserted. -/
def afterAccept (doc : Document) (c : Nat) (s : Suggestion) : Position :=
  ⟨c, (indent (doc.lineAt c) + s.insertText.length : Nat)⟩

theorem indent_acceptedLine (line : Line) (column : Nat) {n : Node}
    (hstart : ∀ x ∈ n.name.toList.head?, isBlank x = false) :
    indent (acceptedLine line column (.ofNode n)) = indent line := by
  have hblank : ∀ x ∈ line.takeWhile isBlank, isBlank x = true :=
    fun x hx => List.mem_takeWhile_imp hx
  rw [acceptedLine, indent_append hblank, indent]
  intro x hx
  simp only [Suggestion.ofNode, Suggestion.insertText, String.toList_append,
    List.append_assoc] at hx
  cases hname : n.name.toList with
  | nil =>
    rw [hname] at hx
    obtain rfl : x = ':' := by simpa using hx.symm
    decide
  | cons first rest =>
    rw [hname] at hx
    obtain rfl : x = first := by simpa using hx.symm
    exact hstart x (by simp [hname])

section Accepted

variable {doc : Document} {c : Nat} (hc : c < doc.lines.length) (column : Nat)
include hc

theorem lineAt_accept (s : Suggestion) :
    (accept doc c column s).lineAt c = acceptedLine (doc.lineAt c) column s :=
  lineAt_set hc _

/-- The line on which a property was inserted keeps its place. -/
theorem placement_accept {n : Node} (hstart : ∀ x ∈ n.name.toList.head?, isBlank x = false)
    (root : Node) :
    placement (accept doc c column (.ofNode n)) c (some root) = placement doc c (some root) := by
  have hindent : indent ((accept doc c column (.ofNode n)).lineAt c) = indent (doc.lineAt c) := by
    rw [lineAt_accept hc, indent_acceptedLine _ _ hstart]
  rw [placement_eq_view, placement_eq_view]
  exact View.placement_congr (above_set doc c _) hindent (below_set doc c _) root

theorem textBefore_accept (n : Node) :
    (accept doc c column (.ofNode n)).textBefore (afterAccept doc c (.ofNode n)) =
      (doc.lineAt c).takeWhile isBlank ++ n.name.toList ++ [':'] := by
  have hlength : indent (doc.lineAt c) + (Suggestion.ofNode n).insertText.length =
      ((doc.lineAt c).takeWhile isBlank ++ (Suggestion.ofNode n).insertText.toList).length := by
    rw [List.length_append, indent, String.length_toList]
  rw [textBefore, afterAccept, lineAt_accept hc, Int.toNat_natCast, hlength, acceptedLine,
    ← List.append_assoc, List.take_left]
  simp only [Suggestion.ofNode, Suggestion.insertText, String.toList_append, List.append_assoc]
  rfl

theorem dispatched_accept (s : Suggestion) (root : Node) {trigger : Option String}
    (htrigger : trigger ≠ some newline) :
    dispatched root (accept doc c column s) (afterAccept doc c s) trigger =
      afterAccept doc c s := by
  have hlt : (c : Int) < (accept doc c column s).lines.length := by
    rw [accept, List.length_set]
    omega
  have hlength : indent (doc.lineAt c) + s.insertText.length ≤
      (acceptedLine (doc.lineAt c) column s).length := by
    rw [acceptedLine, List.length_append, List.length_append, String.length_toList, indent]
    omega
  rw [afterAccept, dispatched_eq root _ (by omega) hlt, if_neg (fun h => htrigger h.1),
    lineAt_accept hc, columnIn]
  congr 1
  omega

/-- A document stays one when a name without line feeds is inserted. -/
theorem exists_ofText_accept {text : String} (htext : doc = Document.ofText text) {s : Suggestion}
    (hs : '\n' ∉ s.insertText.toList) :
    ∃ edited, Document.ofText edited = accept doc c column s := by
  subst htext
  apply exists_ofText_set
  intro hmem
  rcases List.mem_append.mp hmem with hmem | hmem
  · exact newline_not_mem_lineAt text c ((List.takeWhile_sublist isBlank).mem hmem)
  · rcases List.mem_append.mp hmem with hmem | hmem
    · exact hs hmem
    · exact newline_not_mem_lineAt text c (List.mem_of_mem_drop hmem)

end Accepted

/-! ### Asking again -/

/-- What asks for a second request is a property with choices, and its name leads back to it. -/
theorem exists_choice_of_followUp {root : Node} (htidy : root.Tidy) {doc : Document} {p : Position}
    {s : Suggestion} (hs : s ∈ offers root doc p) (hfollow : s.followUp = true) :
    ∃ info values, s = .ofNode (.choice info values) ∧
      lookup? (some root) ((placement doc p.line (some root)).path.getD [] ++ [s.label]) =
        some (.choice info values) := by
  have hfield : s.isField = true := by
    cases s with
    | field => rfl
    | value => cases hfollow
    | marker => cases hfollow
  obtain ⟨n, hn, rfl⟩ := exists_free_of_field hs hfield
  have hfound := lookup?_freeProperties htidy hn
  cases n with
  | choice info values => exact ⟨info, values, rfl, hfound⟩
  | scalar info => cases hfollow
  | object info ps => cases hfollow
  | sequence info ps => cases hfollow

/-- Right after a property with choices was inserted, its choices are offered; or the declared
nodes, if it is an end of a relationship. -/
theorem offers_accept {root : Node} {doc : Document} {c : Nat} (hc : c < doc.lines.length)
    (column : Nat)
    {info : Info} {values : List String} (hstart : ∀ x ∈ info.name.toList.head?, isBlank x = false)
    (hend : ∀ x ∈ info.name.toList.getLast?, isBlank x = false) (hmarker : info.name.toList.head? ≠
      some '-')
    (hfound : lookup? (some root) ((placement doc c (some root)).path.getD [] ++ [info.name]) =
      some (.choice info values)) :
    let s := Suggestion.ofNode (.choice info values)
    offers root (accept doc c column s) (afterAccept doc c s) =
      if (placement doc c (some root)).block? = some relationshipsKey ∧
        info.name ∈ referenceFields then
        (nodeIdentifiers (accept doc c column s)).map .value
      else values.map .value := by
  intro s
  have hblank : ∀ x ∈ (doc.lineAt c).takeWhile isBlank, isBlank x = true := fun x hx =>
    List.mem_takeWhile_imp hx
  have htyped : Request.ofTyped ((accept doc c column s).textBefore (afterAccept doc c s)) =
      .values info.name := by
    rw [textBefore_accept hc column (.choice info values)]
    simpa [Node.name, Node.info] using Request.ofTyped_field hblank hstart hend hmarker
  have hplace : placement (accept doc c column s) (afterAccept doc c s).line (some root) =
      placement doc c (some root) :=
        placement_accept hc column (n := .choice info values) hstart root
  rw [offers_values htyped, hplace, valueSuggestions, hfound]

/-- Follow-ups chain.  Take a session with a built schema and a request by hand, at any column of a
line of the document.  If a property is offered there that asks for a second request, and its name
can be read back from a line, then its name leads to a node with choices; it can be accepted; and
the request right after it, by hand or with a colon, offers exactly the choices of that node, in
order.  Only for the ends of a relationship it offers the nodes that the new document declares. -/
theorem complete_after_followUp {data : Yaml.Value} {built : Built}
    (hbuilt : build data = .ok built) {e : Engine} (hcache : e.cache = .loaded built.root)
    (htriggers : e.triggers = defaultTriggers) (files : Files.Store) (text : String) {c : Nat}
    (hc : c < (Document.ofText text).lines.length) (column : Nat) {s : Suggestion}
    (hs : s ∈ (e.complete files text ⟨c, column⟩ none).1) (hfollow : s.followUp = true)
    (hnewline : '\n' ∉ s.label.toList) (hstart : ∀ x ∈ s.label.toList.head?, isBlank x = false)
    (hend : ∀ x ∈ s.label.toList.getLast?, isBlank x = false)
    (hmarker : s.label.toList.head? ≠ some '-') :
    let doc := Document.ofText text
    let place := placement doc c (some built.root)
    ∃ info values, s = .ofNode (.choice info values) ∧
      lookup? (some built.root) (place.path.getD [] ++ [s.label]) = some (.choice info values) ∧
      (∃ edited, Document.ofText edited = accept doc c column s) ∧
      ∀ edited, Document.ofText edited = accept doc c column s →
        ∀ again, again = none ∨ again = some ":" → ∀ files',
          ((e.complete files text ⟨c, column⟩ none).2.1.complete files' edited
            (afterAccept doc c s) again).1 =
            if place.block? = some relationshipsKey ∧ s.label ∈ referenceFields then
              (nodeIdentifiers (Document.ofText edited)).map .value
            else values.map .value := by
  intro doc place
  -- The first request runs on line `c`.
  rw [complete_items hcache, if_pos (by rfl)] at hs
  have hline : (dispatched built.root doc ⟨c, column⟩ none).line = c := by
    rw [dispatched_eq built.root doc (by omega) (by exact_mod_cast hc)]
  obtain ⟨info, values, rfl, hfound⟩ := exists_choice_of_followUp (build_tidy hbuilt) hs hfollow
  rw [hline] at hfound
  refine ⟨info, values, rfl, hfound, ?_, ?_⟩
  · apply exists_ofText_accept hc column rfl
    simpa [Suggestion.ofNode, Suggestion.insertText, Suggestion.label] using hnewline
  · intro edited hedited again hagain files'
    have hnext : (e.complete files text ⟨c, column⟩ none).2.1.cache = .loaded built.root := by
      rw [complete_engine hcache]
      exact hcache
    have haccepted : accepts (e.complete files text ⟨c, column⟩ none).2.1.triggers again =
        true := by
      rw [complete_engine hcache, htriggers]
      rcases hagain with rfl | rfl
      · rfl
      · decide
    have hcharacter : again ≠ some newline := by
      rcases hagain with rfl | rfl
      · simp
      · decide
    rw [complete_items hnext, if_pos haccepted, hedited, dispatched_accept hc column _ _ hcharacter]
    exact offers_accept hc column hstart hend hmarker hfound

/-- With one letter of `Kind` typed inside an element, `Kind` is accepted and its choices follow. -/
theorem complete_after_followUp_sample :
    (((Engine.ofSchema sampleSchema.root defaultTriggers).complete .empty
      "Nodes:\n  - Name: x\n    k" ⟨2, 5⟩
      none).2.1.complete .empty "Nodes:\n  - Name: x\n    Kind:" ⟨2, 9⟩ (some ":")).1 =
        [.value "Api", .value "Job"] := by
  have hstart : ∀ x ∈ "Kind".toList.head?, isBlank x = false := by
    rintro x ⟨⟩
    rfl
  have hend : ∀ x ∈ "Kind".toList.getLast?, isBlank x = false := by
    rintro x ⟨⟩
    rfl
  obtain ⟨info, values, _, hfound, _, hagain⟩ := complete_after_followUp build_sampleData
    (e := Engine.ofSchema sampleSchema.root defaultTriggers) rfl rfl .empty
      "Nodes:\n  - Name: x\n    k" (c := 2)
    (by decide) 5 (s := .field "Kind" "" "" true) (by decide) rfl (by decide) hstart hend
      (by decide)
  have hnode : some (Node.choice ⟨"Kind", "", ""⟩ ["Api", "Job"]) = some (.choice info values) :=
    hfound
  obtain rfl : ["Api", "Job"] = values := by injection hnode with hchoice; injection hchoice
  exact (hagain "Nodes:\n  - Name: x\n    Kind:" (by decide) (some ":") (Or.inr rfl) .empty).trans
    (by decide)

end SchemaAssist.Completion
