/-
  Completion inside a section.

  A section is what stands from one root line up to the next.  A line nested in it is placed by the
  section alone: the check of the line above, the walk to the enclosing keys and the two scans for
  siblings all stop at a root line.  What is offered there follows, except for the ends of a
  relationship, which name nodes of the whole document.  `complete_in_section` compares a request in
  a document with the same request in the section cut out of it.
-/
import SchemaAssist.Proofs.Offers

namespace SchemaAssist.Completion

open Document Schema Text

/-! ### A section in its document -/

section Surrounded

variable (P S : List Line) {B : List Line} {i : Nat}

theorem lineAt_surrounded (hi : i < B.length) :
    lineAt ⟨P ++ B ++ S⟩ (P.length + i) = lineAt ⟨B⟩ i := by
  rw [← Int.natCast_add, lineAt_natCast, lineAt_natCast]
  dsimp only
  rw [List.append_assoc, List.getElem?_append_right (Nat.le_add_right _ _), Nat.add_sub_cancel_left,
    List.getElem?_append_left hi]

theorem lineAt_previous_surrounded (hc : 1 ≤ i) (hi : i < B.length) :
    lineAt ⟨P ++ B ++ S⟩ (P.length + i - 1) = lineAt ⟨B⟩ (i - 1) := by
  obtain ⟨j, rfl⟩ : ∃ j, i = j + 1 := ⟨i - 1, by omega⟩
  have hdoc : ((P.length : Int) + (j + 1 : Nat) - 1) = P.length + j := by omega
  have hpart : (((j + 1 : Nat) : Int) - 1) = j := by omega
  rw [hdoc, hpart, lineAt_surrounded P S (by omega)]

theorem above_surrounded (hi : i ≤ B.length) :
    above ⟨P ++ B ++ S⟩ (P.length + i) = above ⟨B⟩ i ++ P.reverse := by
  rw [← Int.natCast_add, above_natCast, above_natCast, List.append_assoc,
    List.take_length_add_append,
    List.take_append_of_le_length hi, List.reverse_append]

theorem below_surrounded (hi : i < B.length) :
    below ⟨P ++ B ++ S⟩ (P.length + i) = below ⟨B⟩ i ++ S := by
  rw [← Int.natCast_add, below_natCast, below_natCast, List.append_assoc, Nat.add_assoc,
    List.drop_length_add_append, List.drop_append_of_le_length hi]

theorem view_surrounded (hi : i < B.length) :
    View.of ⟨P ++ B ++ S⟩ (P.length + i) =
      ⟨above ⟨B⟩ i ++ P.reverse, lineAt ⟨B⟩ i, below ⟨B⟩ i ++ S⟩ := by
  rw [View.of, lineAt_surrounded P S hi, above_surrounded P S (Nat.le_of_lt hi),
    below_surrounded P S hi]

theorem exists_rootLine_above (hB : ∀ line ∈ B.head?, RootLine line) (hc : 1 ≤ i)
    (hi : i < B.length) :
    ∃ line ∈ above ⟨B⟩ i, RootLine line := by
  cases B with
  | nil => simp at hi
  | cons first rest =>
    refine ⟨first, ?_, hB first rfl⟩
    obtain ⟨j, rfl⟩ : ∃ j, i = j + 1 := ⟨i - 1, by omega⟩
    rw [above_natCast]
    simp

theorem leafAbove_surrounded (hB : ∀ line ∈ B.head?, RootLine line) (hc : 1 ≤ i) (hi : i < B.length)
    (root : Node) :
    leafAbove ⟨P ++ B ++ S⟩ (P.length + i) (some root) = leafAbove ⟨B⟩ i (some root) := by
  have hdoc : (P.length + i : Int) ≤ (Document.mk (P ++ B ++ S)).lines.length := by
    simp only [List.length_append]
    omega
  have hpart : (i : Int) ≤ (Document.mk B).lines.length := by
    simp only
    omega
  rw [leafAbove_eq _ hdoc, leafAbove_eq _ hpart, above_surrounded P S (Nat.le_of_lt hi),
    leafNearest_append (exists_rootLine_above hB hc hi)]

/-- A line nested in a section has the same place in the document. -/
theorem placement_surrounded (hB : ∀ line ∈ B.head?, RootLine line)
    (hS : ∀ line ∈ S.head?, RootLine line) (hc : 1 ≤ i) (hi : i < B.length) {root : Node}
    (hnested : 0 < (placement ⟨B⟩ i (some root)).indent) :
    placement ⟨P ++ B ++ S⟩ (P.length + i) (some root) = placement ⟨B⟩ i (some root) := by
  rw [placement_eq_view] at hnested
  rw [placement_eq_view, placement_eq_view, view_surrounded P S hi]
  exact View.placement_append hnested (exists_rootLine_above hB hc hi) P.reverse hS

theorem dispatched_surrounded (hB : ∀ line ∈ B.head?, RootLine line) (hc : 1 ≤ i)
    (hi : i < B.length) (root : Node) (column : Int) (trigger : Option String) :
    ∃ target, dispatched root ⟨B⟩ ⟨i, column⟩ trigger = ⟨i, target⟩ ∧
      dispatched root ⟨P ++ B ++ S⟩ ⟨P.length + i, column⟩ trigger = ⟨P.length + i, target⟩ := by
  have hlt : (P.length + i : Int) < (Document.mk (P ++ B ++ S)).lines.length := by
    simp only [List.length_append]
    omega
  refine ⟨_, dispatched_eq root ⟨B⟩ (by omega) (by simpa using hi) column trigger, ?_⟩
  rw [dispatched_eq root _ (by omega) hlt, leafAbove_surrounded P S hB hc hi,
    lineAt_surrounded P S hi,
    lineAt_previous_surrounded P S hc hi]

end Surrounded

/-! ### What is offered in a section -/

/-- Whether a cursor asks for an end of a relationship. -/
def AsksReference (root : Node) (doc : Document) (p : Position) : Prop :=
  ∃ property ∈ referenceFields, Request.ofTyped (doc.textBefore p) = .values property ∧
    (placement doc p.line (some root)).block? = some relationshipsKey

instance (root : Node) (doc : Document) (p : Position) : Decidable (AsksReference root doc p) :=
  inferInstanceAs (Decidable (∃ property ∈ referenceFields, _ ∧ _))

/-- Below the root what is offered depends on the place, the line and the key above it, unless an
end of a relationship is asked for. -/
theorem offers_congr {root : Node} {doc doc' : Document} {p p' : Position}
    (hplace : placement doc p.line (some root) = placement doc' p'.line (some root))
    (hline : doc.lineAt p.line = doc'.lineAt p'.line)
    (hprevious : doc.lineAt (p.line - 1) = doc'.lineAt (p'.line - 1)) (hpos : 0 < p.line)
    (hpos' : 0 < p'.line) (hcolumn : p.column = p'.column)
    (hnested : (placement doc' p'.line (some root)).path ≠ none)
    (hreference : ¬ AsksReference root doc' p') : offers root doc p = offers root doc' p' := by
  have hbefore : doc.textBefore p = doc'.textBefore p' := by
    rw [textBefore, textBefore, hline, hcolumn]
  by_cases hcolon : AfterColon doc' p'
  · obtain ⟨property, hproperty⟩ := Request.ofTyped_of_colon hcolon
    have hvalues : ¬ ((placement doc' p'.line (some root)).block? = some relationshipsKey ∧
        property ∈ referenceFields) := fun h => hreference ⟨property, h.2, hproperty, h.1⟩
    rw [offers_values hproperty, offers_values (hbefore ▸ hproperty), hplace, valueSuggestions,
      valueSuggestions, if_neg hvalues, if_neg hvalues]
  · have hcolon' : ¬ AfterColon doc p := by rwa [AfterColon, hbefore]
    have hopens : ∀ place, opensSequence doc p place = opensSequence doc' p' place := by
      intro place
      simp only [opensSequence, hline, hprevious, hpos, hpos', if_true]
    by_cases hstart : AtSequenceStart root doc' p' (placement doc' p'.line (some root))
    · have hstart' : AtSequenceStart root doc p (placement doc p.line (some root)) := by
        rwa [AtSequenceStart, hplace, hopens]
      rw [offers_marker hcolon hstart, offers_marker hcolon' hstart']
    · have hstart' : ¬ AtSequenceStart root doc p (placement doc p.line (some root)) := by
        rwa [AtSequenceStart, hplace, hopens]
      rw [offers_fields hcolon hstart, offers_fields hcolon' hstart', hplace, hbefore]
      -- Declarations elsewhere in the document count at the root only.
      have hnone : (placement doc' p'.line (some root)).path.isNone = false := by
        simpa [Option.isSome_iff_ne_none] using hnested
      simp only [freeProperties, offerable, hnone, Bool.false_and]

/-- Completion nested in a section does not depend on what stands before and after the section.  The
place of the line is the same; and, unless an end of a relationship is asked for, every trigger on
every column leads to the same answer. -/
theorem complete_in_section (root : Node) {P B S : List Line} (hB : ∀ line ∈ B.head?, RootLine line)
    (hS : ∀ line ∈ S.head?, RootLine line) {c : Nat} (hc : 1 ≤ c) (hlt : c < B.length)
    (hnested : 0 < (placement ⟨B⟩ c (some root)).indent) :
    placement ⟨P ++ B ++ S⟩ (P.length + c) (some root) = placement ⟨B⟩ c (some root) ∧
      ∀ whole part : String, (Document.ofText whole).lines = P ++ B ++ S →
        (Document.ofText part).lines = B → (placement ⟨B⟩ c (some root)).path ≠ none →
        ∀ (column : Int) (trigger : Option String),
          ¬ AsksReference root ⟨B⟩ (dispatched root ⟨B⟩ ⟨c, column⟩ trigger) →
          ∀ {e : Engine}, e.cache = .loaded root → ∀ files,
            (e.complete files whole ⟨P.length + c, column⟩ trigger).1 =
              (e.complete files part ⟨c, column⟩ trigger).1 := by
  have hplace := placement_surrounded P S hB hS hc hlt hnested
  refine ⟨hplace, ?_⟩
  intro whole part hwhole hpart hpath column trigger hreference e hcache files
  have hwhole : Document.ofText whole = ⟨P ++ B ++ S⟩ := by rw [← hwhole]
  have hpart : Document.ofText part = ⟨B⟩ := by rw [← hpart]
  rw [complete_items hcache, complete_items hcache, hwhole, hpart]
  obtain ⟨target, htarget, htarget'⟩ := dispatched_surrounded P S hB hc hlt root column trigger
  rw [htarget] at hreference ⊢
  rw [htarget']
  congr 1
  exact offers_congr hplace (lineAt_surrounded P S hlt) (lineAt_previous_surrounded P S hc hlt)
    (by simp only; omega) (by simp only; omega) rfl hpath hreference

/-- The last line of the section is indented below a leaf, and nodes are declared before and after.
-/
theorem complete_in_section_sample :
    ((Engine.ofSchema sampleSchema.root defaultTriggers).complete .empty
      "Public: Yes\nNodes:\n  - Name: x\n    Kind: Api\n        \nRelationships:" ⟨4, 8⟩
        (some newline)).1.map Suggestion.label = ["Name"] := by
  have hlocal := complete_in_section sampleSchema.root (P := ["Public: Yes".toList])
    (B := ["Nodes:".toList, "  - Name: x".toList, "    Kind: Api".toList, "        ".toList])
    (S := ["Relationships:".toList]) (by decide) (by decide) (c :=
      3) (by decide) (by decide) (by decide)
  have hsame := hlocal.2
    "Public: Yes\nNodes:\n  - Name: x\n    Kind: Api\n        \nRelationships:"
    "Nodes:\n  - Name: x\n    Kind: Api\n        " (by decide) (by decide) (by decide) 8
      (some newline)
    (by decide) (e := Engine.ofSchema sampleSchema.root defaultTriggers) rfl .empty
  exact (congrArg (List.map Suggestion.label) hsame).trans (by decide)

end SchemaAssist.Completion
