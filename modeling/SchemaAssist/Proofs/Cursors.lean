/-
  What completion reads of a cursor.

  A cursor stands in a document, but completion reads little of it: what the typed text asks for,
  the place of the line, whether the line opens an element, the key right above it, and what the
  document declares elsewhere.  Two cursors that agree on all this are `Alike`, and are offered the
  same (`Alike.offers_eq`), whatever else their documents differ in.
-/
import SchemaAssist.Proofs.SessionRuns

namespace SchemaAssist.Completion

open Document Schema Text

/-! ### How a line starts -/

theorem startsWithLetter_iff {line : Line} :
    startsWithLetter line = true ↔
      ∃ c rest, line = c :: rest ∧ (('A' ≤ c ∧ c ≤ 'Z') ∨ ('a' ≤ c ∧ c ≤ 'z')) := by
  cases line with
  | nil => simp [startsWithLetter]
  | cons c rest =>
    have hclass : startsWithLetter (c :: rest) =
        (decide ('A' ≤ c ∧ c ≤ 'Z') || (decide ('a' ≤ c) && decide (c ≤ 'z'))) := rfl
    rw [hclass, Bool.or_eq_true, Bool.and_eq_true, decide_eq_true_eq, decide_eq_true_eq,
      decide_eq_true_eq]
    constructor
    · intro h
      exact ⟨c, rest, rfl, h⟩
    · rintro ⟨d, tail, heq, h⟩
      obtain ⟨rfl, rfl⟩ := List.cons.inj heq
      exact h

theorem startsWithLetter_of_blank {line : Line} (h : ∀ c ∈ line.head?, isBlank c = true) :
    startsWithLetter line = false := by
  by_contra hletter
  obtain ⟨c, rest, rfl, hclass⟩ := startsWithLetter_iff.mp (eq_true_of_ne_false hletter)
  have hblank : isBlank c = true := h c rfl
  change (65 ≤ c.toNat ∧ c.toNat ≤ 90) ∨ (97 ≤ c.toNat ∧ c.toNat ≤ 122) at hclass
  simp only [isBlank, Bool.or_eq_true, Bool.and_eq_true, decide_eq_true_eq, beq_iff_eq] at hblank
  omega

theorem opensNodes_of_blank {line : Line} (h : ∀ c ∈ line.head?, isBlank c = true) :
    opensNodes line = false := by
  cases line with
  | nil => rfl
  | cons c rest =>
    have hne : 'N' ≠ c := by
      rintro rfl
      exact absurd (h 'N' rfl) (by decide)
    simp [opensNodes, nodesKey, startsWithKey, dropFront?, hne]

/-! ### A cursor seen from its line -/

theorem dispatched_eq_view (root : Node) (doc : Document) {n : Int} (hpos : 0 ≤ n)
    (hlt : n < doc.lines.length) (column : Int) (trigger : Option String) :
    dispatched root doc ⟨n, column⟩ trigger =
      ⟨n, columnIn (doc.lineAt n)
        (if trigger = some newline ∧ leafNearest root (doc.above n) =
          true then (View.of doc n).previous
          else column)⟩ := by
  rw [dispatched_eq root doc hpos hlt, leafAbove_eq doc (Int.le_of_lt hlt)]
  by_cases h : trigger = some newline ∧ leafNearest root (doc.above n) = true
  · have hline : 0 < n := by
      by_contra hfirst
      rw [above_of_nonpos doc (Int.not_lt.mp hfirst)] at h
      cases h.2
    rw [if_pos h, if_pos h, previous_of doc hline (Int.le_of_lt hlt)]
  · rw [if_neg h, if_neg h]

theorem dispatched_of_ne_newline (root : Node) (doc : Document) {n : Int} (hpos : 0 ≤ n)
    (hlt : n < doc.lines.length) (column : Int) {trigger : Option String}
    (htrigger : trigger ≠ some newline) :
    dispatched root doc ⟨n, column⟩ trigger = ⟨n, columnIn (doc.lineAt n) column⟩ := by
  rw [dispatched_eq_clamp root doc _ htrigger, clamp_eq doc hpos hlt]

/-- Moving a column into its line does not change what stands before it. -/
theorem textBefore_columnIn (doc : Document) (n column : Int) :
    doc.textBefore ⟨n, columnIn (doc.lineAt n) column⟩ = doc.textBefore ⟨n, column⟩ := by
  have hcolumn : (columnIn (doc.lineAt n) column).toNat =
      min column.toNat (doc.lineAt n).length := by
    unfold columnIn
    omega
  simp only [textBefore, hcolumn]
  exact List.take_eq_take_min.symm

/-- The key of the line right above. -/
def keyAbove? (doc : Document) (n : Int) : Option String := (doc.above n).head?.bind key?

theorem opensSequence_eq (doc : Document) {p : Position} (hle : p.line ≤ doc.lines.length)
    (place : Placement) :
    opensSequence doc p place =
      ((trim (doc.lineAt p.line)).head? != some '-' && keyAbove? doc p.line == place.block?) := by
  have habove : (if 0 < p.line then key? (doc.lineAt (p.line - 1)) else none) =
      keyAbove? doc p.line := by
    unfold keyAbove?
    by_cases hpos : 0 < p.line
    · rw [if_pos hpos, above_eq_cons doc hpos hle]
      rfl
    · rw [if_neg hpos, above_of_nonpos doc (Int.not_lt.mp hpos)]
      rfl
  rw [opensSequence, habove]

/-! ### Cursors that are offered the same -/

/-- Whether a cursor asks for a property at the root. -/
def AsksRoot (root : Node) (doc : Document) (p : Position) : Prop :=
  ¬ AfterColon doc p ∧ (placement doc p.line (some root)).path = none

instance (root : Node) (doc : Document) (p : Position) : Decidable (AsksRoot root doc p) :=
  inferInstanceAs (Decidable (_ ∧ _))

theorem asksRoot_columnIn (root : Node) (doc : Document) (n column : Int) :
    AsksRoot root doc ⟨n, columnIn (doc.lineAt n) column⟩ ↔ AsksRoot root doc ⟨n, column⟩ := by
  simp only [AsksRoot, AfterColon, textBefore_columnIn]

/-- Two cursors that completion cannot tell apart, root properties declared elsewhere left aside. -/
structure Alike (root : Node) (doc : Document) (p : Position) (doc' : Document) (p' : Position) :
    Prop where
  inside : p.line ≤ doc.lines.length
  inside' : p'.line ≤ doc'.lines.length
  asked : Request.ofTyped (doc'.textBefore p') = Request.ofTyped (doc.textBefore p)
  path : (placement doc' p'.line (some root)).path = (placement doc p.line (some root)).path
  usedKeys : (placement doc' p'.line (some root)).usedKeys =
    (placement doc p.line (some root)).usedKeys
  start : (trim (doc'.lineAt p'.line)).head? = (trim (doc.lineAt p.line)).head?
  keyAbove : keyAbove? doc' p'.line = keyAbove? doc p.line
  identifiers : nodeIdentifiers doc' = nodeIdentifiers doc

/-- What is offered at a cursor, if the given root properties count as declared. -/
def offersWith (root : Node) (doc : Document) (p : Position) (declared : List String) :
    List Suggestion :=
  match synthesize doc p (some root) (placement doc p.line (some root))
    (nodeIdentifiers doc) declared with
  | .ok items => items
  | .error _ => []

theorem offers_eq_offersWith (root : Node) (doc : Document) (p : Position) :
    offers root doc p = offersWith root doc p (declaredNames doc (root.children.map (·.name))) :=
      rfl

section Alike

variable {root : Node} {doc doc' : Document} {p p' : Position}

theorem Alike.offersWith_eq (h : Alike root doc p doc' p') (declared : List String) :
    offersWith root doc' p' declared = offersWith root doc p declared := by
  have hblock : (placement doc' p'.line (some root)).block? =
      (placement doc p.line (some root)).block? := by
    rw [Placement.block?, Placement.block?, h.path]
  have hopens : opensSequence doc' p' (placement doc' p'.line (some root)) =
      opensSequence doc p (placement doc p.line (some root)) := by
    rw [opensSequence_eq doc' h.inside', opensSequence_eq doc h.inside, h.start, h.keyAbove, hblock]
  simp only [offersWith, synthesize, valueSuggestions, rootSuggestions, h.asked, h.path, h.usedKeys,
    h.identifiers, hblock, hopens]

/-- What is declared elsewhere matters only where a root property is asked for. -/
theorem offersWith_of_not_asksRoot (h : ¬ AsksRoot root doc p) (declared declared' : List String) :
    offersWith root doc p declared = offersWith root doc p declared' := by
  unfold offersWith synthesize
  by_cases hcolon : AfterColon doc p
  · obtain ⟨property, hproperty⟩ := Request.ofTyped_of_colon hcolon
    rw [hproperty]
  · rw [Request.ofTyped_of_not_colon hcolon]
    cases hpath : (placement doc p.line (some root)).path with
    | none => exact absurd ⟨hcolon, hpath⟩ h
    | some path => rfl

theorem offersWith_of_asksRoot (h : AsksRoot root doc p) (declared : List String) :
    offersWith root doc p declared =
      rootSuggestions root (placement doc p.line (some root)) declared
        (trim (doc.textBefore p)) := by
  unfold offersWith synthesize
  rw [Request.ofTyped_of_not_colon h.1, h.2]

/-- Where the documents of two such cursors declare the same of some names, the same of these is
offered. -/
theorem Alike.filter_offers (h : Alike root doc p doc' p') {keep : String → Bool}
    (hdeclared : AsksRoot root doc p → ∀ n ∈ root.children, keep n.name = true →
      declaredAnywhere doc' n.name = declaredAnywhere doc n.name) :
    (offers root doc' p').filter (fun s => keep s.label) =
      (offers root doc p).filter (fun s => keep s.label) := by
  rw [offers_eq_offersWith, offers_eq_offersWith, h.offersWith_eq]
  by_cases hroot : AsksRoot root doc p
  · rw [offersWith_of_asksRoot hroot, offersWith_of_asksRoot hroot, rootSuggestions_eq hroot.2,
      rootSuggestions_eq hroot.2]
    simp only [freeProperties, Placement.scope?, hroot.2, Option.elim_some, List.filter_map,
      List.filter_filter]
    congr 1
    apply List.filter_congr
    intro n hn
    change (keep n.name && _) = (keep n.name && _)
    cases hkeep : keep n.name with
    | false => rfl
    | true => simp only [offerable, hdeclared hroot n hn hkeep]
  · rw [offersWith_of_not_asksRoot hroot]

theorem Alike.offers_eq (h : Alike root doc p doc' p')
    (hdeclared : AsksRoot root doc p → ∀ n ∈ root.children,
      declaredAnywhere doc' n.name = declaredAnywhere doc n.name) :
    offers root doc' p' = offers root doc p := by
  have hall :=
    @Alike.filter_offers root doc doc' p p' h (fun _ => true)
      (fun hroot n hn _ => hdeclared hroot n hn)
  rwa [List.filter_true, List.filter_true] at hall

end Alike

/-- Any two requests of a session with one trigger have the same answer, if on every schema the same
is offered where they run. -/
theorem Engine.complete_congr (e : Engine) (files : Files.Store) {text text' : String}
    {p p' : Position}
    {trigger : Option String}
    (h : ∀ root, offers root (ofText text') (dispatched root (ofText text') p' trigger) =
      offers root (ofText text) (dispatched root (ofText text) p trigger)) :
    (e.complete files text' p' trigger).1 = (e.complete files text p trigger).1 := by
  cases haccepted : accepts e.triggers trigger with
  | false =>
    rw [complete_rejected e files text' p' trigger haccepted,
      complete_rejected e files text p trigger haccepted]
  | true =>
    obtain ⟨_, hrun', _⟩ := complete_accepted e files text' p' trigger haccepted
    obtain ⟨_, hrun, _⟩ := complete_accepted e files text p trigger haccepted
    rw [hrun', hrun]
    simp only [h]

end SchemaAssist.Completion
