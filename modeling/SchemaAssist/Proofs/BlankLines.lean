/-
  Blank lines carry no structure.

  Every scan of a document passes over blank lines: the walk to the enclosing keys, the two scans
  for siblings, the search for node identifiers and the one for root properties all read the
  `written` lines only.  A blank line counts in one case, when it stands right above the cursor: it
  is not a leaf property, so the cursor line does not snap back.  Anywhere else a line can be
  inserted that holds nothing but blanks, and no answer changes (`complete_insert_blank`).
-/
import SchemaAssist.Proofs.Cursors
import SchemaAssist.Proofs.LineGrammar

namespace SchemaAssist.Completion

open Document Schema Text

/-! ### Single lines -/

section BlankLine

variable {line : Line} (h : blankLine line = true)
include h

theorem isBlank_of_mem_blankLine : ∀ c ∈ line, isBlank c = true := by
  simpa [blankLine] using h

theorem isBlank_head_of_blankLine : ∀ c ∈ line.head?, isBlank c = true := by
  intro c hc
  exact isBlank_of_mem_blankLine h c (List.mem_of_mem_head? hc)

theorem key?_of_blankLine : key? line = none := by
  cases hkey : key? line with
  | none => rfl
  | some k => simp [blankLine_of_key? hkey] at h

theorem element?_of_blankLine : element? line = none := by
  simp [element?, trimStart_of_blanks (isBlank_of_mem_blankLine h)]

theorem colon_not_mem_blankLine : ':' ∉ line := fun hmem =>
  absurd (isBlank_of_mem_blankLine h ':' hmem) (by decide)

theorem declares_of_blankLine (name : List Char) : declares name line = false :=
  declares_of_not_mem (colon_not_mem_blankLine h) name

end BlankLine

/-! ### Every scan reads the written lines only -/

/-- The lines that are not blank. -/
def written (lines : List Line) : List Line := lines.filter fun line => !blankLine line

theorem written_append (first second : List Line) :
    written (first ++ second) = written first ++ written second :=
  List.filter_append ..

theorem written_reverse (lines : List Line) : written lines.reverse = (written lines).reverse :=
  List.filter_reverse ..

theorem written_cons_of_blankLine {line : Line} (h : blankLine line = true) (rest : List Line) :
    written (line :: rest) = written rest := by
  simp [written, h]

theorem written_cons {line : Line} (h : blankLine line = false) (rest : List Line) :
    written (line :: rest) = line :: written rest := by
  simp [written, h]

theorem enclosing_written (bound : Nat) (above : List Line) :
    enclosing bound (written above) = enclosing bound above := by
  induction above generalizing bound with
  | nil => rfl
  | cons line above ih =>
    cases hblank : blankLine line with
    | true => simp [written_cons_of_blankLine hblank, enclosing, hblank, ih]
    | false => simp only [written_cons hblank, enclosing, ih]

theorem pathOver_written (above : List Line) (level : Nat) :
    pathOver (written above) level = pathOver above level := by
  rw [pathOver, pathOver, enclosing_written]

theorem siblingKeys_written (level : Int) (lines : List Line) :
    ((written lines).takeWhile (withinBlock level)).filterMap (siblingKey? level) =
      (lines.takeWhile (withinBlock level)).filterMap (siblingKey? level) := by
  induction lines with
  | nil => rfl
  | cons line lines ih =>
    cases hblank : blankLine line with
    | true =>
      -- A blank line is within every block and is nobody's sibling.
      have hwithin : withinBlock level line = true := by simp [withinBlock, hblank]
      have hkey : siblingKey? level line = none := by simp [siblingKey?, key?_of_blankLine hblank]
      simp [written_cons_of_blankLine hblank, hwithin, hkey, ih]
    | false =>
      rw [written_cons hblank, List.takeWhile_cons, List.takeWhile_cons]
      by_cases hwithin : withinBlock level line = true
      · simp only [hwithin, if_true, List.filterMap_cons, ih]
      · simp [hwithin]

theorem keysBeside_written (above below : List Line) (level : Nat) :
    keysBeside (written above) (written below) level = keysBeside above below level := by
  simp only [keysBeside, List.filterMap_reverse, siblingKeys_written]

theorem identifiersFrom_written (inside : Bool) (lines : List Line) :
    identifiersFrom inside (written lines) = identifiersFrom inside lines := by
  induction lines generalizing inside with
  | nil => rfl
  | cons line lines ih =>
    cases hblank : blankLine line with
    | true =>
      have hopens : opensNodes line = false :=
        opensNodes_of_blank (isBlank_head_of_blankLine hblank)
      have hletter : startsWithLetter line = false :=
        startsWithLetter_of_blank (isBlank_head_of_blankLine hblank)
      rw [written_cons_of_blankLine hblank, ih]
      cases inside with
      | true => simp [identifiersFrom, hopens, hletter, element?_of_blankLine hblank]
      | false => simp [identifiersFrom, hopens]
    | false => simp only [written_cons hblank, identifiersFrom, ih]

theorem any_declares_written (name : List Char) (lines : List Line) :
    (written lines).any (declares name) = lines.any (declares name) := by
  induction lines with
  | nil => rfl
  | cons line lines ih =>
    cases hblank : blankLine line with
    | true => simp [written_cons_of_blankLine hblank, declares_of_blankLine hblank, ih]
    | false => simp [written_cons hblank, ih]

/-! ### Views that differ in blank lines -/

/-- Two views with the same line and the same nearest line above, and otherwise the same written
lines. -/
structure View.SameWritten (v w : View) : Prop where
  own : v.own = w.own
  nearest : v.above.head? = w.above.head?
  above : written v.above = written w.above
  below : written v.below = written w.below

namespace View.SameWritten

variable {v w : View} (h : v.SameWritten w)
include h

theorem previous : v.previous = w.previous := by
  rw [View.previous, View.previous, List.headD_eq_head?_getD, List.headD_eq_head?_getD, h.nearest]

theorem leafNearest_eq (root : Node) : leafNearest root v.above = leafNearest root w.above := by
  obtain ⟨_, hnearest, habove, _⟩ := h
  cases hv : v.above with
  | nil =>
    rw [hv] at hnearest
    rw [List.head?_eq_none_iff.mp hnearest.symm]
  | cons line rest =>
    rw [hv] at hnearest habove
    obtain ⟨rest', hw⟩ := List.head?_eq_some_iff.mp hnearest.symm
    rw [hw] at habove ⊢
    have hrest : written rest = written rest' := by
      cases hblank : blankLine line with
      | true => simpa [written_cons_of_blankLine hblank] using habove
      | false => simpa [written_cons hblank] using habove
    have hscope : pathOver rest (indent line) = pathOver rest' (indent line) := by
      rw [← pathOver_written, hrest, pathOver_written]
    simp only [leafNearest, hscope]

theorem placement_eq (root : Node) : v.placement root = w.placement root := by
  have hlevel : v.level root = w.level root :=
    View.level_congr (congrArg indent h.own) h.previous (h.leafNearest_eq root)
  have hpath : pathOver v.above (w.level root) = pathOver w.above (w.level root) := by
    rw [← pathOver_written, h.above, pathOver_written]
  have hkeys : keysBeside v.above v.below (w.level root) =
      keysBeside w.above w.below (w.level root) := by
    rw [← keysBeside_written, h.above, h.below, keysBeside_written]
  rw [View.placement, View.placement, hlevel, hpath, hkeys]

end View.SameWritten

/-! ### Inserting a blank line -/

section Insert

variable {upper lower : List Line} {w : Line} (hw : blankLine w = true)

include hw in
theorem written_insert : written (upper ++ w :: lower) = written (upper ++ lower) := by
  rw [written_append, written_append, written_cons_of_blankLine hw]

theorem nodeIdentifiers_insert (hw : blankLine w = true) :
    nodeIdentifiers ⟨upper ++ w :: lower⟩ = nodeIdentifiers ⟨upper ++ lower⟩ := by
  rw [nodeIdentifiers, nodeIdentifiers, ← identifiersFrom_written, written_insert hw,
    identifiersFrom_written]

theorem declaredAnywhere_insert (hw : blankLine w = true) (name : String) :
    declaredAnywhere ⟨upper ++ w :: lower⟩ name = declaredAnywhere ⟨upper ++ lower⟩ name := by
  rw [declaredAnywhere, declaredAnywhere, ← any_declares_written, written_insert hw,
    any_declares_written]

/-- The number that a line has once another was inserted at the given place. -/
def shifted (place c : Nat) : Nat := if place < c then c + 1 else c

include hw in
theorem sameWritten_insert {c : Nat} (hc : c < (upper ++ lower).length) (hne : c ≠ upper.length) :
    (View.of ⟨upper ++ w :: lower⟩ (shifted upper.length c)).SameWritten
      (View.of ⟨upper ++ lower⟩ c) := by
  by_cases hlt : upper.length < c
  · -- Inserted above: line `c` is line `j + 1` of the lower part.
    obtain ⟨j, rfl⟩ : ∃ j, c = upper.length + (j + 1) := ⟨c - upper.length - 1, by omega⟩
    have hj : j + 1 < lower.length := by
      rw [List.length_append] at hc
      omega
    have hshift : shifted upper.length (upper.length + (j + 1)) = upper.length + (j + 1 + 1) := by
      rw [shifted, if_pos hlt]
      omega
    rw [hshift]
    refine ⟨?_, ?_, ?_, ?_⟩
    · simp only [View.of, lineAt_natCast, List.getElem?_append_right (Nat.le_add_right _ _),
        Nat.add_sub_cancel_left, List.getElem?_cons_succ]
    · cases lower with
      | nil => simp at hj
      | cons first lower =>
        simp only [View.of, above_natCast, List.take_length_add_append, List.take_succ_cons,
          List.head?_reverse,
          List.getLast?_append, List.getLast?_cons_cons]
    · simp only [View.of, above_natCast, List.take_length_add_append, List.take_succ_cons,
        written_reverse]
      rw [written_append, written_append, written_cons_of_blankLine hw]
    · simp only [View.of, below_natCast, Nat.add_assoc, List.drop_length_add_append,
        List.drop_succ_cons]
  · -- Inserted below: line `c` is a line of the upper part.
    have hupper : c < upper.length := by omega
    have hshift : shifted upper.length c = c := if_neg hlt
    rw [hshift]
    have habove : (Document.mk (upper ++ w :: lower)).above c =
        (Document.mk (upper ++ lower)).above c := by
      simp only [above_natCast, List.take_append_of_le_length (Nat.le_of_lt hupper)]
    refine ⟨?_, congrArg List.head? habove, congrArg written habove, ?_⟩
    · simp only [View.of, lineAt_natCast, List.getElem?_append_left hupper]
    · simp only [View.of, below_natCast, List.drop_append_of_le_length (Nat.succ_le_of_lt hupper)]
      exact written_insert hw

/-- Completion does not see the difference, unless the line stands right above the cursor. -/
theorem alike_insert (hw : blankLine w = true) {c : Nat} (hc : c < (upper ++ lower).length)
    (hne : c ≠ upper.length) (root : Node) (column : Int) (trigger : Option String) :
    Alike root ⟨upper ++ lower⟩ (dispatched root ⟨upper ++ lower⟩ ⟨c, column⟩ trigger)
      ⟨upper ++ w :: lower⟩
      (dispatched root ⟨upper ++ w :: lower⟩ ⟨shifted upper.length c, column⟩ trigger) := by
  have hview := sameWritten_insert hw hc hne
  have hlt : (c : Int) < (Document.mk (upper ++ lower)).lines.length := by exact_mod_cast hc
  have hlt' : (shifted upper.length c : Int) <
      (Document.mk (upper ++ w :: lower)).lines.length := by
    simp only [List.length_append, List.length_cons, shifted] at hc ⊢
    split <;> omega
  have hline : lineAt ⟨upper ++ w :: lower⟩ (shifted upper.length c) = lineAt ⟨upper ++ lower⟩ c :=
    hview.own
  have hleaf : leafNearest root (above ⟨upper ++ w :: lower⟩ (shifted upper.length c)) =
      leafNearest root (above ⟨upper ++ lower⟩ c) := hview.leafNearest_eq root
  have hplace : placement ⟨upper ++ w :: lower⟩ (shifted upper.length c) (some root) =
      placement ⟨upper ++ lower⟩ c (some root) := by
    rw [placement_eq_view, placement_eq_view, hview.placement_eq]
  rw [dispatched_eq_view root _ (by omega) hlt, dispatched_eq_view root _ (by omega) hlt', hleaf,
    hline, hview.previous]
  exact {
    inside := Int.le_of_lt hlt
    inside' := Int.le_of_lt hlt'
    asked := by simp only [textBefore, hline]
    path := congrArg Placement.path hplace
    usedKeys := congrArg Placement.usedKeys hplace
    start := by rw [hline]
    keyAbove := congrArg (Option.bind · key?) hview.nearest
    identifiers := nodeIdentifiers_insert hw }

end Insert

/-- A line of blanks can be inserted anywhere but right above the cursor: the place of the cursor
line, the node identifiers and the root properties in use stay what they were, and so does the
answer of every session to every trigger on every column. -/
theorem complete_insert_blank {upper lower : List Line} {w : Line} (hw : blankLine w = true)
    {c : Nat} (hc : c < (upper ++ lower).length) (hne : c ≠ upper.length) :
    (∀ root, placement ⟨upper ++ w :: lower⟩ (shifted upper.length c) (some root) =
      placement ⟨upper ++ lower⟩ c (some root)) ∧
    nodeIdentifiers ⟨upper ++ w :: lower⟩ = nodeIdentifiers ⟨upper ++ lower⟩ ∧
    (∀ names, declaredNames ⟨upper ++ w :: lower⟩ names = declaredNames ⟨upper ++ lower⟩ names) ∧
    ∀ padded text : String, (Document.ofText padded).lines = upper ++ w :: lower →
      (Document.ofText text).lines = upper ++ lower →
      ∀ (e : Engine) (files : Files.Store) (column : Int) (trigger : Option String),
        (e.complete files padded ⟨shifted upper.length c, column⟩ trigger).1 =
          (e.complete files text ⟨c, column⟩ trigger).1 := by
  refine ⟨?_, nodeIdentifiers_insert hw, ?_, ?_⟩
  · intro root
    rw [placement_eq_view, placement_eq_view, (sameWritten_insert hw hc hne).placement_eq]
  · intro names
    apply List.filter_congr
    intro name _
    exact declaredAnywhere_insert hw name
  · intro padded text hpadded htext e files column trigger
    have hpadded : Document.ofText padded = ⟨upper ++ w :: lower⟩ := by rw [← hpadded]
    have htext : Document.ofText text = ⟨upper ++ lower⟩ := by rw [← htext]
    apply e.complete_congr
    intro root
    rw [hpadded, htext]
    apply (alike_insert hw hc hne root column trigger).offers_eq
    intro _ n _
    exact declaredAnywhere_insert hw n.name

/-- A line of eight blanks between two properties of an element, and a new line below a leaf. -/
theorem complete_insert_blank_sample :
    ((Engine.ofSchema sampleSchema.root defaultTriggers).complete .empty
      "Nodes:\n  - Name: x\n        \n    Kind: Api\n      " ⟨4, 6⟩ (some newline)).1.map
        Suggestion.label = ["Name"] := by
  have hsame := (@complete_insert_blank ["Nodes:".toList, "  - Name: x".toList]
    ["    Kind: Api".toList, "      ".toList] "        ".toList (by decide) 3 (by decide)
      (by decide)).2.2.2
    "Nodes:\n  - Name: x\n        \n    Kind: Api\n      "
      "Nodes:\n  - Name: x\n    Kind: Api\n      " (by decide)
    (by decide) (Engine.ofSchema sampleSchema.root defaultTriggers) .empty 6 (some newline)
  exact (congrArg (List.map Suggestion.label) hsame).trans (by decide)

end SchemaAssist.Completion
