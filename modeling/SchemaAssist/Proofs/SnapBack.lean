/-
  Lines that are indented below a leaf.

  Such a line snaps back: it is placed beside the leaf, with the leaf's enclosing keys
  (`View.SnapsBack.path_eq`).  The node of the key that it declares is nevertheless looked up from
  its own indentation, below the leaf, where nothing is (`View.SnapsBack.lookup?_eq_none`).
  So the two ways to find the node of a line agree except on a snapped line whose key is a property
  beside the leaf (`propertyNode?_eq_placed_iff`).

  The place itself is the one the line has when it is reindented to the level of the leaf, and the
  leaf is among its siblings (`placement_below_leaf`).
-/
import SchemaAssist.Proofs.Hierarchy
import SchemaAssist.Proofs.Reindenting

namespace SchemaAssist.Completion

open Document Schema

/-! ### The line above a snapped line -/

theorem View.SnapsBack.exists_leaf {v : View} {root : Node} (h : v.SnapsBack root) :
    ∃ line rest k, v.above = line :: rest ∧ key? line = some k ∧ indent line < indent v.own ∧
      canHaveChildren (lookup? (some root) ((pathOver rest (indent line)).getD [] ++ [k])) =
        false := by
  obtain ⟨hdeeper, hleaf⟩ := h
  cases habove : v.above with
  | nil =>
    rw [habove] at hleaf
    cases hleaf
  | cons line rest =>
    rw [habove, leafNearest] at hleaf
    rw [View.previous, habove, List.headD_cons] at hdeeper
    cases hkey : key? line with
    | none => simp [hkey] at hleaf
    | some k => exact ⟨line, rest, k, rfl, hkey, hdeeper, by simpa [hkey] using hleaf⟩

/-- A snapped line has the enclosing keys of the leaf above it. -/
theorem View.SnapsBack.path_eq {v : View} {root : Node} (h : v.SnapsBack root) :
    (v.placement root).path = pathOver v.above.tail v.previous := by
  obtain ⟨line, rest, k, habove, _, _, _⟩ := h.exists_leaf
  have hprevious : v.previous = indent line := by rw [View.previous, habove, List.headD_cons]
  simp only [View.placement, View.level, if_pos h, habove, List.tail_cons, hprevious]
  exact pathOver_cons_of_le (Nat.le_refl _) rest

/-- From its own indentation a snapped line is below the leaf, where no property is found. -/
theorem View.SnapsBack.lookup?_eq_none {v : View} {root : Node} (h : v.SnapsBack root)
    (key : String) :
    lookup? (some root) ((pathOver v.above (indent v.own)).getD [] ++ [key]) = none := by
  obtain ⟨line, rest, k, habove, hkey, hlt, hleaf⟩ := h.exists_leaf
  rw [habove, pathOver_cons_of_lt hkey hlt]
  exact lookup?_below_leaf hleaf key

/-! ### Two ways to find the node of a line -/

/-- The node at the place of a line is the node of its key, as long as the line does not snap back.
-/
theorem placed_of_not_snapsBack {doc : Document} {n : Int} {root : Node}
    (h : ¬ (View.of doc n).SnapsBack root) (key : String) :
    lookup? (some root) ((placement doc n (some root)).path.getD [] ++ [key]) =
      propertyNode? doc n key (some root) := by
  rw [placement_eq_view, propertyNode?_eq]
  simp only [View.placement, View.level, if_neg h]
  rfl

/-- A snapped line is placed at the level of the leaf, below the leaf's enclosing keys. -/
theorem placement_of_snapsBack {doc : Document} {n : Int} {root : Node}
    (h : (View.of doc n).SnapsBack root) :
    placement doc n (some root) =
      ⟨indent (doc.lineAt (n - 1)), parentPath doc (n - 1) (indent (doc.lineAt (n - 1))),
        usedKeys doc n (indent (doc.lineAt (n - 1)))⟩ := by
  obtain ⟨hpos, hdeeper, _⟩ := (snapsBack_iff doc n root).mp h
  have hle : n ≤ doc.lines.length :=
    Int.le_of_lt (lt_length_of_indent_pos (Nat.zero_lt_of_lt hdeeper))
  have hlevel : (View.of doc n).level root = indent (doc.lineAt (n - 1)) := by
    rw [View.level, if_pos h, previous_of doc hpos hle]
  have hpath : (placement doc n (some root)).path =
      parentPath doc (n - 1) (indent (doc.lineAt (n - 1))) := by
    have htail : (View.of doc n).above.tail = doc.above (n - 1) := by
      rw [View.of, above_eq_cons doc hpos hle, List.tail_cons]
    rw [placement_eq_view, h.path_eq, htail, previous_of doc hpos hle, parentPath_eq]
  rw [← hpath, ← hlevel, ← effectiveIndent_eq]
  rfl

/-- The node at the place of a snapped line is the node that its key has beside the leaf. -/
theorem placed_of_snapsBack {doc : Document} {n : Int} {root : Node}
    (h : (View.of doc n).SnapsBack root) (key : String) :
    lookup? (some root) ((placement doc n (some root)).path.getD [] ++ [key]) =
      propertyNode? doc (n - 1) key (some root) := by
  rw [placement_of_snapsBack h]
  rfl

theorem propertyNode?_of_snapsBack {doc : Document} {n : Int} {root : Node}
    (h : (View.of doc n).SnapsBack root) (key : String) :
    propertyNode? doc n key (some root) = none := by
  rw [propertyNode?_eq]
  exact h.lookup?_eq_none key

/-- The node of the key on a line is the node at the place of the line, with one exception: the line
is indented below a leaf and its key is a property beside that leaf.  There the line is placed
beside the leaf, but its key is looked up below the leaf and not found. -/
theorem propertyNode?_eq_placed_iff (doc : Document) (n : Int) (key : String) (root : Node) :
    (propertyNode? doc n key (some root) =
        lookup? (some root) ((placement doc n (some root)).path.getD [] ++ [key]) ↔
      ¬ (0 < n ∧ indent (doc.lineAt (n - 1)) < indent (doc.lineAt n) ∧
          leafAbove doc n (some root) = true ∧
            (propertyNode? doc (n - 1) key (some root)).isSome = true)) ∧
      (0 < n ∧ indent (doc.lineAt (n - 1)) < indent (doc.lineAt n) ∧
        leafAbove doc n (some root) = true →
        propertyNode? doc n key (some root) = none ∧
          lookup? (some root) ((placement doc n (some root)).path.getD [] ++ [key]) =
            propertyNode? doc (n - 1) key (some root)) := by
  by_cases h : (View.of doc n).SnapsBack root
  · have hdoc := (snapsBack_iff doc n root).mp h
    refine ⟨?_, fun _ => ⟨propertyNode?_of_snapsBack h key, placed_of_snapsBack h key⟩⟩
    rw [propertyNode?_of_snapsBack h key, placed_of_snapsBack h key]
    constructor
    · intro heq hexception
      rw [← heq] at hexception
      simp at hexception
    · intro hno
      cases hnode : propertyNode? doc (n - 1) key (some root) with
      | none => rfl
      | some node => exact (hno ⟨hdoc.1, hdoc.2.1, hdoc.2.2, by rw [hnode]; rfl⟩).elim
  · have hdoc : ¬ (0 < n ∧ indent (doc.lineAt (n - 1)) < indent (doc.lineAt n) ∧
        leafAbove doc n (some root) = true) := fun hdoc => h ((snapsBack_iff doc n root).mpr hdoc)
    refine ⟨?_, fun hsnap => (hdoc hsnap).elim⟩
    rw [placed_of_not_snapsBack h key]
    simp only [true_iff]
    exact fun hexception => hdoc ⟨hexception.1, hexception.2.1, hexception.2.2.1⟩

/-- A root property declared with some indentation below a choice: the line is placed at the root,
where the property is known, but the property is looked up below the choice. -/
theorem propertyNode?_ne_placed :
    let doc : Document := ⟨["Public: Yes".toList, "  Nodes:".toList]⟩
    key? (doc.lineAt 1) = some "Nodes" ∧
      propertyNode? doc 1 "Nodes" (some sampleSchema.root) ≠
        lookup? (some sampleSchema.root)
          ((placement doc 1 (some sampleSchema.root)).path.getD [] ++ ["Nodes"]) := by
  intro doc
  refine ⟨by decide, fun heq => ?_⟩
  have hsome := congrArg Option.isSome heq
  revert hsome
  decide

/-! ### A snapped line is a sibling of the leaf -/

/-- Reindented to the level of the leaf, a snapped line keeps its place. -/
theorem View.SnapsBack.placement_eq {v w : View} {root : Node} (h : v.SnapsBack root)
    (habove : w.above = v.above) (hbelow : w.below = v.below) (hown : indent w.own = v.previous) :
    w.placement root = v.placement root := by
  have hprevious : w.previous = v.previous := by rw [View.previous, View.previous, habove]
  have hstays : ¬ w.SnapsBack root := by
    intro hw
    have hdeeper := hw.1
    rw [hprevious, hown] at hdeeper
    exact Nat.lt_irrefl _ hdeeper
  simp only [View.placement, View.level, if_pos h, if_neg hstays, hown, habove, hbelow]

/-- Beside a line that is deeper than the one above it, the line above counts as well; otherwise the
same keys are used. -/
theorem mem_usedKeys_succ {doc : Document} {n : Nat} {level : Int} {k : String}
    (hkey : siblingKey? level (doc.lineAt n) = some k)
    (hdeeper : level < indent (doc.lineAt (n + 1 : Nat))) (x : String) :
    x ∈ usedKeys doc (n + 1 : Nat) level ↔ x ∈ usedKeys doc n level ∨ x = k := by
  have hin : withinBlock level (doc.lineAt n) = true := withinBlock_of_siblingKey? hkey
  have hinNext : withinBlock level (doc.lineAt (n + 1 : Nat)) = true := by
    simp only [withinBlock, Bool.or_eq_true, decide_eq_true_eq]
    exact Or.inr (Int.le_of_lt hdeeper)
  have hnoKey : siblingKey? level (doc.lineAt (n + 1 : Nat)) = none := if_neg (by omega)
  have hnext : (((n + 1 : Nat) : Int) + 1).toNat = n + 1 + 1 := by omega
  have hhere : ((n : Int) + 1).toNat = n + 1 := by omega
  -- The walk up starts one line lower and meets the leaf; the walk down leaves the snapped line
  -- out.
  rw [mem_usedKeys, mem_usedKeys, Int.toNat_natCast, Int.toNat_natCast, hnext, hhere,
    mem_blockKeys_above_succ,
    @mem_blockKeys_drop level x doc (n + 1), hkey, hnoKey, hin, hinNext]
  simp only [true_and, Option.some.injEq, reduceCtorEq, false_or]
  constructor
  · rintro ((rfl | habove) | hbelow)
    · exact Or.inr rfl
    · exact Or.inl (Or.inl habove)
    · exact Or.inl (Or.inr hbelow)
  · rintro ((habove | hbelow) | rfl)
    · exact Or.inl (Or.inr habove)
    · exact Or.inr hbelow
    · exact Or.inl (Or.inl rfl)

/-- A line that is indented below a leaf is a sibling of the leaf.  It has the leaf's indentation
and enclosing keys, and beside it those keys are used that are used beside the leaf, and the leaf's
own key.  It has the same place when it is reindented to the level of the leaf.  So the leaf's key
is never offered there as a property, whatever asks for it. -/
theorem placement_below_leaf {root : Node} {doc : Document} {c : Nat} (hc : 1 ≤ c) {k : String}
    (hkey : key? (doc.lineAt (c - 1)) = some k)
    (hdeeper : indent (doc.lineAt (c - 1)) < indent (doc.lineAt c))
    (hleaf : leafAbove doc c (some root) = true) :
    let level := indent (doc.lineAt (c - 1))
    let place := placement doc c (some root)
    place.indent = level ∧
      place.path = parentPath doc (c - 1) level ∧
      (∀ x, x ∈ place.usedKeys ↔ x ∈ usedKeys doc (c - 1) level ∨ x = k) ∧
      (∀ line, Reindented (fun _ => level) (doc.lineAt c) line →
        placement ⟨doc.lines.set c line⟩ c (some root) = place) ∧
      ∀ text, Document.ofText text = doc → ∀ e : Engine, e.cache = .loaded root →
        ∀ files column trigger, ∀ s ∈ (e.complete files text ⟨c, column⟩ trigger).1,
          s.isField = true → s.label ≠ k := by
  intro level place
  have hlt : (c : Int) < doc.lines.length := lt_length_of_indent_pos (Nat.zero_lt_of_lt hdeeper)
  have hsnaps : (View.of doc c).SnapsBack root :=
    (snapsBack_iff doc c root).mpr ⟨by omega, hdeeper, hleaf⟩
  have hplace : place = ⟨level, parentPath doc (c - 1) level, usedKeys doc c level⟩ :=
    placement_of_snapsBack hsnaps
  have hused : ∀ x, x ∈ place.usedKeys ↔ x ∈ usedKeys doc (c - 1) level ∨ x = k := by
    obtain ⟨n, rfl⟩ : ∃ n, c = n + 1 := ⟨c - 1, by omega⟩
    have hprev : ((n + 1 : Nat) : Int) - 1 = n := by omega
    have hsibling : siblingKey? level (doc.lineAt n) = some k := by
      rw [← hprev]
      exact siblingKey?_eq_some.mpr ⟨rfl, hkey⟩
    rw [hplace, hprev]
    exact mem_usedKeys_succ hsibling (Int.ofNat_lt.mpr hdeeper)
  refine ⟨by rw [hplace], by rw [hplace], hused, ?_, ?_⟩
  · intro line hline
    simp only [place, placement_eq_view]
    apply hsnaps.placement_eq (above_set doc c line) (below_set doc c line)
    rw [View.of, lineAt_set (by exact_mod_cast hlt), hline.indent_eq]
    exact (previous_of doc (by omega) (Int.le_of_lt hlt)).symm
  · rintro text rfl e hcache files column trigger s hs hfield rfl
    have hfree := not_mem_usedKeys_of_complete hcache files (by omega) hlt column trigger hs hfield
    exact hfree ((hused s.label).mpr (Or.inr rfl))

/-- Inside an element, below `Name`: the line belongs to the element, and `Name` and `Kind` are
taken. -/
theorem placement_below_leaf_sample :
    let doc : Document :=
      ⟨["Nodes:".toList, "  - Api:".toList, "    Name: shop".toList, "        n".toList,
      "    Kind: Job".toList]⟩
    let place := placement doc 3 (some sampleSchema.root)
    place.indent = 4 ∧ place.path = some ["Nodes"] ∧ usedKeys doc 2 4 = ["Kind"] ∧
      (∀ x, x ∈ place.usedKeys ↔ x ∈ usedKeys doc 2 4 ∨ x = "Name") ∧
      placement ⟨doc.lines.set 3 "\t  \tn".toList⟩ 3 (some sampleSchema.root) = place ∧
      ∀ s ∈ ((Engine.ofSchema sampleSchema.root defaultTriggers).complete .empty
        "Nodes:\n  - Api:\n    Name: shop\n        n\n    Kind: Job" ⟨3, 9⟩ none).1,
          s.isField = true →
          s.label ≠ "Name" := by
  intro doc place
  obtain ⟨hindent, hpath, hused, hreindent, hoffered⟩ :=
    @placement_below_leaf sampleSchema.root doc 3 (by decide)
    "Name" (by decide) (by decide) (by decide)
  refine ⟨hindent, hpath.trans (by decide), by decide, hused, ?_, ?_⟩
  · exact hreindent _ (reindented_of_all "\t  \t".toList rfl rfl)
  · exact hoffered _ (by decide) _ rfl .empty 9 none

end SchemaAssist.Completion
