/-
  The place of a line, read off what stands above and below it.

  `placement` works on a document and a line number.  All it reads is a `View`: the line, the lines
  above it and the lines below it, nearest first (`placement_eq_view`).  The laws of the two upward
  walks are stated on views:

    * a root line ends the walk to the enclosing keys     — `pathOver_append`;
    * a root line ends a block that is indented           — `keysBeside_append`;
    * a key that is indented less encloses what follows   — `pathOver_cons_of_lt`;
    * a line that is indented as much encloses nothing    — `pathOver_cons_of_le`.
-/
import SchemaAssist.Completion.Placement
import SchemaAssist.Proofs.Lines

namespace SchemaAssist.Completion

open Document Schema

/-! ### The view from a line -/

/-- A line with what stands above and below it, nearest first. -/
structure View where
  above : List Line
  own : Line
  below : List Line

/-- The view from a line of a document. -/
def View.of (doc : Document) (n : Int) : View := ⟨doc.above n, doc.lineAt n, doc.below n⟩

/-- The enclosing keys at an indentation, outermost first. -/
def pathOver (above : List Line) (level : Nat) : Option (List String) :=
  if level = 0 then none
  else match enclosing level above with
    | [] => none
    | ks => some ks.reverse

/-- The keys of an indentation in the block around a line. -/
def keysBeside (above below : List Line) (level : Nat) : List String :=
  (above.takeWhile (withinBlock level)).reverse.filterMap (siblingKey? level) ++
    (below.takeWhile (withinBlock level)).filterMap (siblingKey? level)

/-- Whether the nearest line above declares a property that takes no children. -/
def leafNearest (root : Node) : List Line → Bool
  | [] => false
  | line :: rest =>
    match key? line with
    | some k =>
      !canHaveChildren (lookup? (some root) ((pathOver rest (indent line)).getD [] ++ [k]))
    | none => false

namespace View

/-- The indentation of the nearest line above. -/
def previous (v : View) : Nat := indent (v.above.headD [])

/-- The line is indented below a property that takes no children. -/
def SnapsBack (v : View) (root : Node) : Prop :=
  v.previous < indent v.own ∧ leafNearest root v.above = true

instance (v : View) (root : Node) :
    Decidable (v.SnapsBack root) := inferInstanceAs (Decidable (_ ∧ _))

/-- The indentation that counts for the line. -/
def level (v : View) (root : Node) : Nat := if v.SnapsBack root then v.previous else indent v.own

/-- The place of the line. -/
def placement (v : View) (root : Node) : Placement :=
  ⟨v.level root, pathOver v.above (v.level root), keysBeside v.above v.below (v.level root)⟩

end View

/-! ### A document seen from a line -/

theorem parentPath_eq (doc : Document) (n : Int) (level : Nat) :
    parentPath doc n level = pathOver (doc.above n) level := by
  unfold parentPath pathOver
  by_cases h : level = 0
  · simp [h]
  · cases henclosing : enclosing level (doc.above n) with
    | nil => simp [h, henclosing]
    | cons k ks => simp [h, henclosing]

theorem propertyNode?_eq (doc : Document) (n : Int) (key : String) (root : Node) :
    propertyNode? doc n key (some root) =
      lookup? (some root) ((pathOver (doc.above n) (indent (doc.lineAt n))).getD [] ++ [key]) := by
  rw [propertyNode?, parentPath_eq]

theorem above_of_nonpos (doc : Document) {n : Int} (h : n ≤ 0) : doc.above n = [] := by
  simp [above, Int.toNat_of_nonpos h]

theorem lineAt_of_length_le (doc : Document) {n : Int} (h : doc.lines.length ≤ n) :
    doc.lineAt n = [] :=
  lineAt_of_outside (Or.inr h)

/-- Only lines of the document are indented. -/
theorem lt_length_of_indent_pos {doc : Document} {n : Int} (h : 0 < indent (doc.lineAt n)) :
    n < doc.lines.length := by
  by_contra hout
  rw [lineAt_of_length_le doc (Int.not_lt.mp hout), indent_nil] at h
  exact Nat.lt_irrefl 0 h

theorem above_eq_cons (doc : Document) {n : Int} (hpos : 0 < n) (hle : n ≤ doc.lines.length) :
    doc.above n = doc.lineAt (n - 1) :: doc.above (n - 1) := by
  obtain ⟨m, rfl⟩ : ∃ m : Nat, n = m + 1 := ⟨(n - 1).toNat, by omega⟩
  have hm : m < doc.lines.length := by omega
  have hprev : (m : Int) + 1 - 1 = m := by omega
  have hsucc : (m : Int) + 1 = (m + 1 : Nat) := by omega
  rw [hprev, hsucc, above_natCast, above_natCast, lineAt_natCast, List.take_add_one,
    List.reverse_append]
  simp [hm]

theorem leafAbove_eq (doc : Document) {n : Int} (hle : n ≤ doc.lines.length) (root : Node) :
    leafAbove doc n (some root) = leafNearest root (doc.above n) := by
  by_cases hpos : 0 < n
  · have hguard : ¬ (n ≤ 0 ∨ (some root).isNone = true) := by simp; omega
    rw [leafAbove, if_neg hguard, above_eq_cons doc hpos hle]
    cases hkey : key? (doc.lineAt (n - 1)) with
    | none => simp [leafNearest, hkey]
    | some k => simp [leafNearest, hkey, propertyNode?_eq]
  · have hle0 : n ≤ 0 := by omega
    rw [leafAbove, if_pos (Or.inl hle0), above_of_nonpos doc hle0]
    rfl

/-- A line snaps back when it is indented deeper than a leaf property right above it. -/
theorem snapsBack_iff (doc : Document) (n : Int) (root : Node) :
    (View.of doc n).SnapsBack root ↔
      0 < n ∧ indent (doc.lineAt (n - 1)) < indent (doc.lineAt n) ∧
        leafAbove doc n (some root) = true := by
  by_cases hle : n ≤ doc.lines.length
  · by_cases hpos : 0 < n
    · simp only [View.SnapsBack, View.previous, View.of, leafAbove_eq doc hle,
        above_eq_cons doc hpos hle,
        List.headD_cons, hpos, true_and]
    · simp [View.SnapsBack, View.of, above_of_nonpos doc (Int.not_lt.mp hpos), leafNearest, hpos]
  · have hnil : doc.lineAt n = [] := lineAt_of_length_le doc (by omega)
    simp [View.SnapsBack, View.of, hnil]

theorem previous_of (doc : Document) {n : Int} (hpos : 0 < n) (hle : n ≤ doc.lines.length) :
    (View.of doc n).previous = indent (doc.lineAt (n - 1)) := by
  simp only [View.previous, View.of, above_eq_cons doc hpos hle, List.headD_cons]

theorem effectiveIndent_eq (doc : Document) (n : Int) (root : Node) :
    effectiveIndent doc n (some root) = (View.of doc n).level root := by
  unfold effectiveIndent View.level
  by_cases h : (View.of doc n).SnapsBack root
  · have hdoc := (snapsBack_iff doc n root).mp h
    have hlt : n < doc.lines.length := lt_length_of_indent_pos (Nat.zero_lt_of_lt hdoc.2.1)
    rw [if_pos h, if_pos hdoc, previous_of doc hdoc.1 (Int.le_of_lt hlt)]
  · rw [if_neg h, if_neg (fun hdoc => h ((snapsBack_iff doc n root).mpr hdoc))]
    rfl

/-- The place of a line depends on its view only. -/
theorem placement_eq_view (doc : Document) (n : Int) (root : Node) :
    Completion.placement doc n (some root) = (View.of doc n).placement root := by
  simp only [Completion.placement, View.placement, effectiveIndent_eq, parentPath_eq]
  rfl

theorem View.level_congr {v w : View} {root : Node} (hown : indent v.own = indent w.own)
    (hprevious : v.previous = w.previous)
    (hleaf : leafNearest root v.above = leafNearest root w.above) :
    v.level root = w.level root := by
  have hsnaps : v.SnapsBack root ↔ w.SnapsBack root := by
    simp only [View.SnapsBack, hprevious, hown, hleaf]
  simp only [View.level, hsnaps, hprevious, hown]

theorem View.placement_congr {v w : View} (habove : v.above = w.above)
    (hown : indent v.own = indent w.own) (hbelow : v.below = w.below) (root : Node) :
    v.placement root = w.placement root := by
  have hlevel : v.level root = w.level root := by
    apply View.level_congr hown
    · rw [View.previous, View.previous, habove]
    · rw [habove]
  rw [View.placement, View.placement, hlevel, habove, hbelow]

/-! ### The walk to the enclosing keys -/

/-- A line that is neither blank nor indented. -/
def RootLine (line : Line) : Prop := blankLine line = false ∧ indent line = 0

instance (line : Line) : Decidable (RootLine line) := inferInstanceAs (Decidable (_ ∧ _))

/-- The walk upward ends at a root line, so what stands above that line is not read. -/
theorem enclosing_append {near : List Line} (h : ∃ line ∈ near, RootLine line) (bound : Nat)
    (far : List Line) : enclosing bound (near ++ far) = enclosing bound near := by
  induction near generalizing bound with
  | nil => simp at h
  | cons line near ih =>
    simp only [List.cons_append, enclosing]
    by_cases hblank : blankLine line = true
    · have hnear : ∃ l ∈ near, RootLine l := by
        obtain ⟨l, hl, hroot⟩ := h
        rcases List.mem_cons.mp hl with rfl | hl
        · rw [hroot.1] at hblank
          cases hblank
        · exact ⟨l, hl, hroot⟩
      rw [if_pos hblank, if_pos hblank, ih hnear]
    · rw [if_neg hblank, if_neg hblank]
      by_cases hindent : indent line = 0
      · rw [if_pos hindent, if_pos hindent]
      · have hnear : ∃ l ∈ near, RootLine l := by
          obtain ⟨l, hl, hroot⟩ := h
          rcases List.mem_cons.mp hl with rfl | hl
          · exact (hindent hroot.2).elim
          · exact ⟨l, hl, hroot⟩
        rw [if_neg hindent, if_neg hindent]
        simp only [ih hnear]

theorem pathOver_append {near : List Line} (h : ∃ line ∈ near, RootLine line) (far : List Line)
    (level : Nat) : pathOver (near ++ far) level = pathOver near level := by
  rw [pathOver, pathOver, enclosing_append h]

/-- A line with a key encloses what is indented deeper. -/
theorem pathOver_cons_of_lt {line : Line} {k : String} (hkey : key? line = some k) {level : Nat}
    (hlt : indent line < level) (rest : List Line) :
    pathOver (line :: rest) level = some ((pathOver rest (indent line)).getD [] ++ [k]) := by
  have hblank : ¬ blankLine line = true := by simp [blankLine_of_key? hkey]
  have hlevel : level ≠ 0 := by omega
  rw [pathOver, if_neg hlevel, enclosing, if_neg hblank]
  by_cases hindent : indent line = 0
  · simp [pathOver, hindent, hkey]
  · rw [if_neg hindent, hkey]
    simp only [if_pos hlt, pathOver, if_neg hindent, List.reverse_cons]
    cases henclosing : enclosing (indent line) rest with
    | nil => rfl
    | cons first others => rfl

/-- A line that is indented as much or more encloses nothing. -/
theorem pathOver_cons_of_le {line : Line} {level : Nat} (hle : level ≤ indent line)
    (rest : List Line) :
    pathOver (line :: rest) level = pathOver rest level := by
  by_cases hlevel : level = 0
  · rw [pathOver, pathOver, if_pos hlevel, if_pos hlevel]
  · have hindent : indent line ≠ 0 := by omega
    have hlt : ¬ indent line < level := by omega
    have hskip : enclosing level (line :: rest) = enclosing level rest := by
      rw [enclosing, if_neg hindent]
      cases key? line with
      | none => simp
      | some k => simp [hlt]
    rw [pathOver, pathOver, hskip]

theorem leafNearest_append {near : List Line} (h : ∃ line ∈ near, RootLine line) (far : List Line)
    (root : Node) : leafNearest root (near ++ far) = leafNearest root near := by
  cases near with
  | nil => simp at h
  | cons line near =>
    have hscope : pathOver (near ++ far) (indent line) = pathOver near (indent line) := by
      obtain ⟨l, hl, hroot⟩ := h
      rcases List.mem_cons.mp hl with rfl | hl
      · rw [hroot.2]
        rfl
      · exact pathOver_append ⟨l, hl, hroot⟩ far (indent line)
    simp only [List.cons_append, leafNearest, hscope]

/-! ### The block around a line -/

theorem withinBlock_of_rootLine {line : Line} (h : RootLine line) {level : Nat}
    (hlevel : 0 < level) :
    withinBlock level line = false := by
  have hdeep : ¬ (level : Int) ≤ (0 : Nat) := by omega
  simp only [withinBlock, h.1, h.2, hdeep, decide_false, Bool.or_self]

/-- A root line ends a block that is indented, so what stands beyond that line is not read. -/
theorem takeWhile_withinBlock_append {near far : List Line} {level : Nat} (hlevel : 0 < level)
    (h : (∃ line ∈ near, RootLine line) ∨ ∀ line ∈ far.head?, RootLine line) :
    (near ++ far).takeWhile (withinBlock level) = near.takeWhile (withinBlock level) := by
  induction near with
  | nil =>
    rcases h with ⟨line, hline, _⟩ | hfar
    · cases hline
    · cases far with
      | nil => rfl
      | cons line far => simp [withinBlock_of_rootLine (hfar line rfl) hlevel]
  | cons line near ih =>
    rw [List.cons_append, List.takeWhile_cons, List.takeWhile_cons]
    by_cases hin : withinBlock level line = true
    · rw [if_pos hin, if_pos hin, ih]
      rcases h with ⟨l, hl, hroot⟩ | hfar
      · rcases List.mem_cons.mp hl with rfl | hl
        · rw [withinBlock_of_rootLine hroot hlevel] at hin
          cases hin
        · exact Or.inl ⟨l, hl, hroot⟩
      · exact Or.inr hfar
    · rw [if_neg hin, if_neg hin]

theorem keysBeside_append {above below : List Line} {level : Nat} (hlevel : 0 < level)
    (habove : ∃ line ∈ above, RootLine line) (before : List Line) {after : List Line}
    (hafter : ∀ line ∈ after.head?, RootLine line) :
    keysBeside (above ++ before) (below ++ after) level = keysBeside above below level := by
  rw [keysBeside, keysBeside, takeWhile_withinBlock_append hlevel (Or.inl habove),
    takeWhile_withinBlock_append hlevel (Or.inr hafter)]

/-- A line that is nested below a root line is placed by what stands between that root line and the
next one. -/
theorem View.placement_append {v : View} {root : Node} (hlevel : 0 < v.level root)
    (habove : ∃ line ∈ v.above, RootLine line) (before : List Line) {after : List Line}
    (hafter : ∀ line ∈ after.head?, RootLine line) :
    View.placement ⟨v.above ++ before, v.own, v.below ++ after⟩ root = v.placement root := by
  have hprevious : View.previous ⟨v.above ++ before, v.own, v.below ++ after⟩ = v.previous := by
    obtain ⟨line, hline, _⟩ := habove
    cases hcons : v.above with
    | nil => simp [hcons] at hline
    | cons first rest => simp [View.previous, hcons]
  have hsame : View.level ⟨v.above ++ before, v.own, v.below ++ after⟩ root = v.level root :=
    View.level_congr rfl hprevious (leafNearest_append habove before root)
  simp only [View.placement, hsame, pathOver_append habove,
    keysBeside_append hlevel habove before hafter]

end SchemaAssist.Completion
