/-
  The hierarchy of a document, by line numbers.

  Both walks of a placement go from line to line with some state.  Here they are described without
  a walk, by conditions on line numbers:

    * the parent path of a line is the chain of lines that are indented less than every keyed line
      after them, down from the last root line      — `parentPath_eq_chain`;
    * the used keys of a line are those of the lines of its indentation that are connected to it,
      with nothing shallower in between             — `usedKeys_eq_connected`.

  The chain obeys the recursion of the walk, one line at a time (`chain_of_root`, `chain_of_record`,
  `chain_of_passed`).  Connection is an equivalence on the lines of one indentation
  (`Connected.trans`), so such lines use the same keys.
-/
import Mathlib.Data.Nat.Find
import SchemaAssist.Proofs.Placement

namespace SchemaAssist.Completion

open Document Schema

/-! ### The chain above a line -/

/-- How many lines of the document stand above a line, which may lie outside. -/
def linesAbove (doc : Document) (line : Int) : Nat := (min line doc.lines.length).toNat

/-- The last root line among the first `count` lines, the first line if there is none. -/
def sectionTop (doc : Document) (count : Nat) : Nat :=
  Nat.findGreatest (fun i => i < count ∧ RootLine (doc.lineAt i)) count

/-- Line `n`, one of the first `count`, is in the chain below `level`: it has a key, it is not above
the last root line, and it is indented less than every later line that could be in the chain. -/
structure InChain (doc : Document) (count level n : Nat) : Prop where
  top_le : sectionTop doc count ≤ n
  lt_count : n < count
  keyed : (key? (doc.lineAt n)).isSome = true
  shallow : indent (doc.lineAt n) < level
  record : ∀ m < count, n < m → (key? (doc.lineAt m)).isSome = true →
    indent (doc.lineAt m) < level →
    indent (doc.lineAt n) < indent (doc.lineAt m)

instance (doc : Document) (count level n : Nat) : Decidable (InChain doc count level n) :=
  decidable_of_iff
    (sectionTop doc count ≤ n ∧ n < count ∧ (key? (doc.lineAt n)).isSome = true ∧
      indent (doc.lineAt n) < level ∧
      ∀ m < count, n < m → (key? (doc.lineAt m)).isSome = true → indent (doc.lineAt m) < level →
        indent (doc.lineAt n) < indent (doc.lineAt m))
    ⟨fun ⟨top, lt, keyed, shallow, record⟩ => ⟨top, lt, keyed, shallow, record⟩,
      fun ⟨top, lt, keyed, shallow, record⟩ => ⟨top, lt, keyed, shallow, record⟩⟩

/-- The numbers of the lines in the chain, in document order. -/
def chain (doc : Document) (count level : Nat) : List Nat :=
  (List.range count).filter (InChain doc count level ·)

section Chain

variable {doc : Document} {count level n : Nat}

theorem mem_chain : n ∈ chain doc count level ↔ InChain doc count level n := by
  simp only [chain, List.mem_filter, List.mem_range, decide_eq_true_eq]
  exact ⟨fun h => h.2, fun h => ⟨h.lt_count, h⟩⟩

theorem sectionTop_le_iff :
    sectionTop doc count ≤ n ↔ ∀ i < count, n < i → ¬ RootLine (doc.lineAt i) := by
  constructor
  · intro hle i hi hni hroot
    have hgreatest : i ≤ sectionTop doc count := Nat.le_findGreatest (Nat.le_of_lt hi) ⟨hi, hroot⟩
    omega
  · intro hnone
    by_contra hgt
    have hne : sectionTop doc count ≠ 0 := by omega
    obtain ⟨hlt, hroot⟩ := Nat.findGreatest_of_ne_zero rfl hne
    exact hnone _ hlt (Nat.not_le.mp hgt) hroot

/-- The chain of one line more, when the earlier lines are judged as for another level. -/
theorem chain_succ {level' : Nat}
    (hbefore : ∀ n < count, InChain doc (count + 1) level n ↔ InChain doc count level' n) :
    chain doc (count + 1) level =
      chain doc count level' ++ if InChain doc (count + 1) level count then [count] else [] := by
  have hsame : (List.range count).filter (InChain doc (count + 1) level ·) =
      chain doc count level' := by
    apply List.filter_congr
    intro n hn
    exact decide_eq_decide.mpr (hbefore n (List.mem_range.mp hn))
  rw [chain, List.range_succ, List.filter_append, hsame, List.filter_cons, List.filter_nil]
  simp only [decide_eq_true_eq]

theorem chain_level_zero : chain doc count 0 = [] := by
  apply List.filter_eq_nil_iff.mpr
  intro n _ h
  exact Nat.not_lt_zero _ (of_decide_eq_true h).shallow

theorem inChain_last (hkey : (key? (doc.lineAt count)).isSome = true)
    (hlt : indent (doc.lineAt count) < level) :
    InChain doc (count + 1) level count where
  top_le := sectionTop_le_iff.mpr fun i hi hlater => by omega
  lt_count := Nat.lt_succ_self count
  keyed := hkey
  shallow := hlt
  record := fun m hm hlater => by omega

/-- A root line is above nothing in the chain but itself. -/
theorem chain_of_root (hroot : RootLine (doc.lineAt count)) (hlevel : 0 < level) :
    chain doc (count + 1) level = if (key? (doc.lineAt count)).isSome then [count] else [] := by
  have hbefore : ∀ n < count, InChain doc (count + 1) level n ↔ InChain doc count 0 n := by
    intro n hn
    constructor
    · intro h
      exact (sectionTop_le_iff.mp h.top_le count (Nat.lt_succ_self count) hn hroot).elim
    · intro h
      exact (Nat.not_lt_zero _ h.shallow).elim
  by_cases hkey : (key? (doc.lineAt count)).isSome = true
  · have hlast : InChain doc (count + 1) level count :=
      inChain_last hkey (by rw [hroot.2]; exact hlevel)
    rw [chain_succ hbefore, chain_level_zero, if_pos hlast, if_pos hkey, List.nil_append]
  · rw [chain_succ hbefore, chain_level_zero, if_neg (fun h => hkey h.keyed), if_neg hkey,
      List.nil_append]

theorem sectionTop_succ_le_iff (hroot : ¬ RootLine (doc.lineAt count)) :
    sectionTop doc (count + 1) ≤ n ↔ sectionTop doc count ≤ n := by
  rw [sectionTop_le_iff, sectionTop_le_iff]
  constructor
  · intro h i hi
    exact h i (Nat.lt_succ_of_lt hi)
  · intro h i hi hni
    rcases Nat.lt_succ_iff_lt_or_eq.mp hi with hi | rfl
    · exact h i hi hni
    · exact hroot

/-- A line with a key that is indented less than the level ends the chain; what is above it must be
indented less than it. -/
theorem chain_of_record (hroot : ¬ RootLine (doc.lineAt count))
    (hkey : (key? (doc.lineAt count)).isSome = true) (hlt : indent (doc.lineAt count) < level) :
    chain doc (count + 1) level = chain doc count (indent (doc.lineAt count)) ++ [count] := by
  rw [@chain_succ doc count level (indent (doc.lineAt count)), if_pos (inChain_last hkey hlt)]
  intro n hn
  constructor
  · intro h
    exact
      { top_le := (sectionTop_succ_le_iff hroot).mp h.top_le
        lt_count := hn
        keyed := h.keyed
        shallow := h.record count (Nat.lt_succ_self count) hn hkey hlt
        record := fun m hm hnm hkeyed hshallow =>
          h.record m (Nat.lt_succ_of_lt hm) hnm hkeyed (Nat.lt_trans hshallow hlt) }
  · intro h
    refine
      { top_le := (sectionTop_succ_le_iff hroot).mpr h.top_le
        lt_count := Nat.lt_succ_of_lt hn
        keyed := h.keyed
        shallow := Nat.lt_trans h.shallow hlt
        record := ?_ }
    intro m hm hnm hkeyed _
    -- A line as deep as the new one is undercut because the new one is.
    by_cases hdeep : indent (doc.lineAt m) < indent (doc.lineAt count)
    · rcases Nat.lt_succ_iff_lt_or_eq.mp hm with hm | rfl
      · exact h.record m hm hnm hkeyed hdeep
      · exact (Nat.lt_irrefl _ hdeep).elim
    · exact Nat.lt_of_lt_of_le h.shallow (Nat.not_lt.mp hdeep)

/-- A line without a key, or one that is indented too deep, leaves the chain as it is. -/
theorem chain_of_passed (hroot : ¬ RootLine (doc.lineAt count))
    (hpassed : (key? (doc.lineAt count)).isSome = true → level ≤ indent (doc.lineAt count)) :
    chain doc (count + 1) level = chain doc count level := by
  have hlast : ¬ InChain doc (count + 1) level count := by
    intro h
    exact Nat.not_lt.mpr (hpassed h.keyed) h.shallow
  rw [@chain_succ doc count level level, if_neg hlast, List.append_nil]
  intro n hn
  constructor
  · intro h
    exact
      { top_le := (sectionTop_succ_le_iff hroot).mp h.top_le
        lt_count := hn
        keyed := h.keyed
        shallow := h.shallow
        record := fun m hm => h.record m (Nat.lt_succ_of_lt hm) }
  · intro h
    refine
      { top_le := (sectionTop_succ_le_iff hroot).mpr h.top_le
        lt_count := Nat.lt_succ_of_lt hn
        keyed := h.keyed
        shallow := h.shallow
        record := ?_ }
    intro m hm hnm hkeyed hshallow
    rcases Nat.lt_succ_iff_lt_or_eq.mp hm with hm | rfl
    · exact h.record m hm hnm hkeyed hshallow
    · exact (Nat.not_lt.mpr (hpassed hkeyed) hshallow).elim

/-- Above the last line of a chain stands the chain of that line. -/
theorem chain_eq_of_last {l : Nat} (hl : l ∈ chain doc count level)
    (hlast : ∀ n ∈ chain doc count level, n ≤ l) :
    chain doc count level = chain doc l (indent (doc.lineAt l)) ++ [l] := by
  induction count with
  | zero => cases hl
  | succ count ih =>
    have hlt : l < count + 1 := (mem_chain.mp hl).lt_count
    by_cases hroot : RootLine (doc.lineAt count)
    · have hlevel : 0 < level := Nat.zero_lt_of_lt (mem_chain.mp hl).shallow
      rw [chain_of_root hroot hlevel] at hl hlast ⊢
      by_cases hkey : (key? (doc.lineAt count)).isSome = true
      · rw [if_pos hkey] at hl ⊢
        obtain rfl : l = count := List.mem_singleton.mp hl
        rw [hroot.2, chain_level_zero, List.nil_append]
      · rw [if_neg hkey] at hl
        cases hl
    · by_cases hrecord : (key? (doc.lineAt count)).isSome = true ∧ indent (doc.lineAt count) < level
      · have hle : count ≤ l := hlast count (mem_chain.mpr (inChain_last hrecord.1 hrecord.2))
        obtain rfl : l = count := by omega
        exact chain_of_record hroot hrecord.1 hrecord.2
      · have hpassed : (key? (doc.lineAt count)).isSome = true →
            level ≤ indent (doc.lineAt count) :=
          fun hkey => Nat.not_lt.mp fun hlt => hrecord ⟨hkey, hlt⟩
        rw [chain_of_passed hroot hpassed] at hl hlast ⊢
        exact ih hl hlast

end Chain

/-! ### The walk to the enclosing keys, by its steps -/

theorem above_succ (doc : Document) {n : Nat} (hn : n < doc.lines.length) :
    doc.above (n + 1 : Nat) = doc.lineAt n :: doc.above n := by
  have hcons : doc.above (n + 1 : Nat) =
      doc.lineAt ((n + 1 : Nat) - 1) :: doc.above ((n + 1 : Nat) - 1) :=
    above_eq_cons doc (by omega) (by omega)
  rwa [show ((n + 1 : Nat) : Int) - 1 = n by omega] at hcons

theorem enclosing_of_root {line : Line} (hroot : RootLine line) (level : Nat) (rest : List Line) :
    enclosing level (line :: rest) = (key? line).toList := by
  have hblank : ¬ blankLine line = true := by simp [hroot.1]
  rw [enclosing, if_neg hblank, if_pos hroot.2]

theorem enclosing_of_record {line : Line} (hroot : ¬ RootLine line) {k : String}
    (hkey : key? line = some k) {level : Nat} (hlt : indent line < level) (rest : List Line) :
    enclosing level (line :: rest) = k :: enclosing (indent line) rest := by
  have hblank : blankLine line = false := blankLine_of_key? hkey
  have hindent : ¬ indent line = 0 := fun hzero => hroot ⟨hblank, hzero⟩
  rw [enclosing, if_neg (by simp [hblank]), if_neg hindent, hkey]
  exact if_pos hlt

theorem enclosing_of_passed {line : Line} (hroot : ¬ RootLine line) {level : Nat}
    (hpassed : (key? line).isSome = true → level ≤ indent line) (rest : List Line) :
    enclosing level (line :: rest) = enclosing level rest := by
  rw [enclosing]
  by_cases hblank : blankLine line = true
  · rw [if_pos hblank]
  · have hindent : ¬ indent line = 0 := fun hzero => hroot ⟨eq_false_of_ne_true hblank, hzero⟩
    rw [if_neg hblank, if_neg hindent]
    cases hkey : key? line with
    | none => rfl
    | some k =>
      have hle : level ≤ indent line := hpassed (by rw [hkey]; rfl)
      exact if_neg (Nat.not_lt.mpr hle)

/-- The keys of lines given by their numbers. -/
def keysOf (doc : Document) (numbers : List Nat) : List String :=
  numbers.filterMap fun n : Nat => key? (doc.lineAt n)

/-- Step by step the walk meets the keys of the chain, nearest first. -/
theorem enclosing_eq_chain (doc : Document) {count : Nat} (hcount : count ≤ doc.lines.length)
    {level : Nat} (hlevel : 0 < level) :
    enclosing level (doc.above count) = (keysOf doc (chain doc count level)).reverse := by
  induction count generalizing level with
  | zero => rfl
  | succ count ih =>
    rw [above_succ doc hcount]
    by_cases hroot : RootLine (doc.lineAt count)
    · rw [enclosing_of_root hroot, chain_of_root hroot hlevel]
      cases hkey : key? (doc.lineAt count) with
      | none => rfl
      | some k => simp [keysOf, hkey]
    · cases hkey : key? (doc.lineAt count) with
      | none =>
        have hpassed : (key? (doc.lineAt count)).isSome = true →
            level ≤ indent (doc.lineAt count) := by
          simp [hkey]
        rw [enclosing_of_passed hroot hpassed, chain_of_passed hroot hpassed]
        exact ih (Nat.le_of_succ_le hcount) hlevel
      | some k =>
        have hsome : (key? (doc.lineAt count)).isSome = true := by rw [hkey]; rfl
        by_cases hlt : indent (doc.lineAt count) < level
        · have hpos : 0 < indent (doc.lineAt count) := by
            by_contra hzero
            exact hroot ⟨blankLine_of_key? hkey, by omega⟩
          rw [enclosing_of_record hroot hkey hlt, chain_of_record hroot hsome hlt,
            ih (Nat.le_of_succ_le hcount) hpos]
          simp [keysOf, hkey]
        · have hpassed : (key? (doc.lineAt count)).isSome = true →
              level ≤ indent (doc.lineAt count) :=
            fun _ => Nat.not_lt.mp hlt
          rw [enclosing_of_passed hroot hpassed, chain_of_passed hroot hpassed]
          exact ih (Nat.le_of_succ_le hcount) hlevel

/-! ### The parent path as a chain -/

theorem above_linesAbove (doc : Document) (line : Int) :
    doc.above (linesAbove doc line) = doc.above line := by
  have hmin : linesAbove doc line = min line.toNat doc.lines.length := by
    unfold linesAbove
    omega
  rw [above_natCast, hmin, above, ← List.take_eq_take_min]

theorem getD_parentPath (doc : Document) (line : Int) (level : Nat) :
    (parentPath doc line level).getD [] = keysOf doc (chain doc (linesAbove doc line) level) := by
  rw [parentPath_eq, pathOver]
  by_cases hzero : level = 0
  · rw [if_pos hzero, hzero, chain_level_zero]
    rfl
  · have hle : linesAbove doc line ≤ doc.lines.length := by
      unfold linesAbove
      omega
    rw [if_neg hzero, ← above_linesAbove, enclosing_eq_chain doc hle (Nat.pos_of_ne_zero hzero)]
    cases hkeys : (keysOf doc (chain doc (linesAbove doc line) level)).reverse with
    | nil => rw [List.reverse_eq_nil_iff.mp hkeys]; rfl
    | cons k ks => rw [← List.reverse_reverse (keysOf _ _), hkeys]; rfl

theorem parentPath_ne_some_nil (doc : Document) (line : Int) (level : Nat) :
    parentPath doc line level ≠ some [] := by
  rw [parentPath_eq, pathOver]
  by_cases hzero : level = 0
  · simp [hzero]
  · rw [if_neg hzero]
    cases enclosing level (doc.above line) with
    | nil => simp
    | cons k ks => simp

theorem keysOf_eq_nil_iff (doc : Document) (count level : Nat) :
    keysOf doc (chain doc count level) = [] ↔ ∀ n, ¬ InChain doc count level n := by
  rw [keysOf, List.filterMap_eq_nil_iff]
  constructor
  · intro hnone n h
    have hkeyed := h.keyed
    rw [hnone n (mem_chain.mpr h)] at hkeyed
    cases hkeyed
  · intro hempty n hn
    exact (hempty n (mem_chain.mp hn)).elim

/-- The parent path of a line lists the keys of the chain above it, outermost first, and there is
none exactly if the chain is empty.  The path is that of the last line of the chain, with its key,
so it leads to the node of that key. -/
theorem parentPath_eq_chain (doc : Document) (line : Int) (level : Nat) :
    (parentPath doc line level).getD [] = keysOf doc (chain doc (linesAbove doc line) level) ∧
      (parentPath doc line level = none ↔ ∀ n, ¬ InChain doc (linesAbove doc line) level n) ∧
      ∀ l k, InChain doc (linesAbove doc line) level l →
        (∀ n, InChain doc (linesAbove doc line) level n → n ≤ l) → key? (doc.lineAt l) = some k →
        parentPath doc line level =
          some ((parentPath doc l (indent (doc.lineAt l))).getD [] ++ [k]) ∧
          ∀ schema, lookup? schema ((parentPath doc line level).getD []) =
            propertyNode? doc l k schema := by
  have hkeys := getD_parentPath doc line level
  have hnone : parentPath doc line level = none ↔ (parentPath doc line level).getD [] = [] := by
    cases hpath : parentPath doc line level with
    | none => simp
    | some path =>
      have hne : path ≠ [] :=
        fun hnil => parentPath_ne_some_nil doc line level (by rw [hpath, hnil])
      simp [hne]
  refine ⟨hkeys, by rw [hnone, hkeys, keysOf_eq_nil_iff], ?_⟩
  intro l k hl hlast hkey
  have hsteps : chain doc (linesAbove doc line) level =
      chain doc l (indent (doc.lineAt l)) ++ [l] :=
    chain_eq_of_last (mem_chain.mpr hl) fun n hn => hlast n (mem_chain.mp hn)
  have hinside : linesAbove doc l = l := by
    have hlt := hl.lt_count
    unfold linesAbove at hlt ⊢
    omega
  have hpath : parentPath doc line level =
      some ((parentPath doc l (indent (doc.lineAt l))).getD [] ++ [k]) := by
    have hsome : (parentPath doc line level).getD [] =
        (parentPath doc l (indent (doc.lineAt l))).getD [] ++ [k] := by
      rw [hkeys, hsteps, getD_parentPath doc l, hinside]
      simp [keysOf, hkey]
    cases hcase : parentPath doc line level with
    | none => simp [hcase] at hsome
    | some path => rw [← hsome, hcase]; rfl
  refine ⟨hpath, ?_⟩
  intro schema
  rw [hpath]
  rfl

/-- In an irregular document the path skips the deeper line 2, the blank line and the line without a
key. -/
theorem parentPath_eq_chain_irregular :
    let doc : Document :=
      ⟨["Name: shop".toList, "Nodes:".toList, "      Deep: 1".toList, "    Meta:".toList,
      "".toList, "    - Api:".toList, "     Color:".toList]⟩
    chain doc (linesAbove doc 9) 8 = [1, 3, 6] ∧
      parentPath doc 9 8 = some ["Nodes", "Meta", "Color"] ∧
      parentPath doc 9 8 = some ((parentPath doc 6 5).getD [] ++ ["Color"]) := by
  intro doc
  have hchain : chain doc (linesAbove doc 9) 8 = [1, 3, 6] := by decide
  have hlast : ∀ n, InChain doc (linesAbove doc 9) 8 n → n ≤ 6 := by
    intro n hn
    have hmem := mem_chain.mpr hn
    rw [hchain] at hmem
    simp only [List.mem_cons, List.not_mem_nil, or_false] at hmem
    omega
  exact ⟨hchain, by decide,
    ((parentPath_eq_chain doc 9 8).2.2 6 "Color" (by decide) hlast (by decide)).1⟩

/-! ### Connected lines -/

/-- Two lines are connected at a level if every line strictly between them is blank or indented at
least that deep. -/
def Connected (doc : Document) (level m n : Int) : Prop :=
  ∀ i : Int, (m < i ∧ i < n) ∨ (n < i ∧ i < m) →
    blankLine (doc.lineAt i) = true ∨ level ≤ indent (doc.lineAt i)

theorem Connected.symm {doc : Document} {level m n : Int} (h : Connected doc level m n) :
    Connected doc level n m := by
  intro i hi
  exact h i hi.symm

/-- Connection goes on over a line that is deep enough. -/
theorem Connected.trans {doc : Document} {level a b c : Int} (hab : Connected doc level a b)
    (hb : level ≤ indent (doc.lineAt b)) (hbc : Connected doc level b c) :
    Connected doc level a c := by
  intro i hi
  by_cases hib : i = b
  · rw [hib]
    exact Or.inr hb
  · by_cases hfirst : (a < i ∧ i < b) ∨ (b < i ∧ i < a)
    · exact hab i hfirst
    · exact hbc i (by omega)

theorem connected_iff_withinBlock {doc : Document} {level m n : Int} :
    Connected doc level m n ↔
      ∀ i : Int, (m < i ∧ i < n) ∨ (n < i ∧ i < m) → withinBlock level (doc.lineAt i) = true := by
  simp only [Connected, withinBlock, Bool.or_eq_true, decide_eq_true_eq]

/-! ### The two walks to the edges of a block -/

section Block

variable {level : Int} {k : String}

/-- The keys of a level on the lines that a walk meets before it leaves the block. -/
def blockKeys (level : Int) (lines : List Line) : List String :=
  (lines.takeWhile (withinBlock level)).filterMap (siblingKey? level)

theorem siblingKey?_eq_some {line : Line} :
    siblingKey? level line = some k ↔ (indent line : Int) = level ∧ key? line = some k := by
  unfold siblingKey?
  by_cases h : (indent line : Int) = level
  · simp [h]
  · simp [h]

theorem withinBlock_of_siblingKey? {line : Line} (h : siblingKey? level line = some k) :
    withinBlock level line = true := by
  have hlevel := (siblingKey?_eq_some.mp h).1
  simp [withinBlock, hlevel]

theorem withinBlock_nil : withinBlock level [] = true := rfl

theorem siblingKey?_nil : siblingKey? level [] = none := by
  unfold siblingKey?
  split <;> rfl

theorem mem_blockKeys_cons {line : Line} {rest : List Line} :
    k ∈ blockKeys level (line :: rest) ↔
      withinBlock level line = true ∧
        (siblingKey? level line = some k ∨ k ∈ blockKeys level rest) := by
  unfold blockKeys
  by_cases h : withinBlock level line = true
  · simp [h, List.filterMap_cons]
    cases siblingKey? level line with
    | none => simp
    | some key => simp [eq_comm]
  · simp [h]

/-- One step of the walk up; beyond the document it meets empty lines. -/
theorem mem_blockKeys_above_succ {doc : Document} {n : Nat} :
    k ∈ blockKeys level (doc.above (n + 1 : Nat)) ↔ withinBlock level (doc.lineAt n) = true ∧
      (siblingKey? level (doc.lineAt n) = some k ∨ k ∈ blockKeys level (doc.above n)) := by
  by_cases hn : n < doc.lines.length
  · rw [above_succ doc hn, mem_blockKeys_cons]
  · have habove : doc.above (n + 1 : Nat) = doc.above n := by
      rw [above_natCast, above_natCast, List.take_of_length_le (by omega),
        List.take_of_length_le (by omega)]
    have hline : doc.lineAt n = [] := lineAt_of_length_le doc (by omega)
    rw [habove, hline, siblingKey?_nil]
    simp [withinBlock_nil]

/-- One step of the walk down. -/
theorem mem_blockKeys_drop {doc : Document} {a : Nat} :
    k ∈ blockKeys level (doc.lines.drop a) ↔ withinBlock level (doc.lineAt a) = true ∧
      (siblingKey? level (doc.lineAt a) = some k ∨
        k ∈ blockKeys level (doc.lines.drop (a + 1))) := by
  by_cases ha : a < doc.lines.length
  · rw [drop_eq_lineAt_cons ha, mem_blockKeys_cons]
  · have hline : doc.lineAt a = [] := lineAt_of_length_le doc (by omega)
    rw [List.drop_of_length_le (by omega), List.drop_of_length_le (by omega), hline,
      siblingKey?_nil]
    simp [withinBlock_nil]

theorem mem_blockKeys_above {doc : Document} {n : Nat} :
    k ∈ blockKeys level (doc.above n) ↔ ∃ m < n, siblingKey? level (doc.lineAt m) = some k ∧
      ∀ i < n, m < i → withinBlock level (doc.lineAt i) = true := by
  induction n with
  | zero => simp [blockKeys, above]
  | succ n ih =>
    rw [mem_blockKeys_above_succ, ih]
    constructor
    · rintro ⟨hin, hkey | ⟨m, hm, hkey, hbetween⟩⟩
      · exact ⟨n, Nat.lt_succ_self n, hkey, fun i hi hni => by omega⟩
      · refine ⟨m, Nat.lt_succ_of_lt hm, hkey, fun i hi hmi => ?_⟩
        rcases Nat.lt_succ_iff_lt_or_eq.mp hi with hi | rfl
        · exact hbetween i hi hmi
        · exact hin
    · rintro ⟨m, hm, hkey, hbetween⟩
      rcases Nat.lt_succ_iff_lt_or_eq.mp hm with hm | rfl
      · exact ⟨hbetween n (Nat.lt_succ_self n) hm,
          Or.inr ⟨m, hm, hkey, fun i hi hmi => hbetween i (Nat.lt_succ_of_lt hi) hmi⟩⟩
      · exact ⟨withinBlock_of_siblingKey? hkey, Or.inl hkey⟩

theorem mem_blockKeys_below {doc : Document} {a : Nat} :
    k ∈ blockKeys level (doc.lines.drop a) ↔
      ∃ m : Nat, a ≤ m ∧ siblingKey? level (doc.lineAt m) = some k ∧
      ∀ i : Nat, a ≤ i → i < m → withinBlock level (doc.lineAt i) = true := by
  -- The walk goes down, so the induction is on the lines that are left.
  induction hleft : doc.lines.length - a generalizing a with
  | zero =>
    rw [List.drop_of_length_le (by omega)]
    constructor
    · intro h
      cases h
    · rintro ⟨m, hm, hkey, _⟩
      rw [lineAt_of_length_le doc (by omega), siblingKey?_nil] at hkey
      cases hkey
  | succ left ih =>
    rw [mem_blockKeys_drop, ih (by omega)]
    constructor
    · rintro ⟨hin, hkey | ⟨m, hm, hkey, hbetween⟩⟩
      · exact ⟨a, Nat.le_refl a, hkey, fun i hi hia => by omega⟩
      · refine ⟨m, Nat.le_of_succ_le hm, hkey, fun i hi him => ?_⟩
        rcases Nat.eq_or_lt_of_le hi with rfl | hi
        · exact hin
        · exact hbetween i hi him
    · rintro ⟨m, hm, hkey, hbetween⟩
      rcases Nat.eq_or_lt_of_le hm with rfl | hm
      · exact ⟨withinBlock_of_siblingKey? hkey, Or.inl hkey⟩
      · exact ⟨hbetween a (Nat.le_refl a) hm,
          Or.inr ⟨m, hm, hkey, fun i hi him => hbetween i (Nat.le_of_succ_le hi) him⟩⟩

end Block

/-! ### The used keys as those of connected lines -/

theorem mem_usedKeys {doc : Document} {line level : Int} {k : String} :
    k ∈ usedKeys doc line level ↔
      k ∈ blockKeys level (doc.above line.toNat) ∨
        k ∈ blockKeys level (doc.lines.drop (line + 1).toNat) := by
  have habove : doc.above line.toNat = doc.above line := by
    rw [above_natCast, above]
  rw [usedKeys, habove, List.mem_append, List.filterMap_reverse, List.mem_reverse]
  rfl

/-- Only lines of the document declare keys. -/
theorem exists_natCast_of_key? {doc : Document} {n : Int} {k : String}
    (h : key? (doc.lineAt n) = some k) :
    ∃ m : Nat, n = m ∧ m < doc.lines.length := by
  have hne : doc.lineAt n ≠ [] := by
    intro hnil
    rw [hnil] at h
    cases h
  have hpos : ¬ n < 0 := fun hneg => hne (by rw [lineAt, if_pos hneg])
  have hlt : ¬ doc.lines.length ≤ n := fun hle => hne (lineAt_of_length_le doc hle)
  exact ⟨n.toNat, by omega, by omega⟩

/-- A key is used beside a line exactly if another line of that indentation declares it and is
connected to the line. -/
theorem mem_usedKeys_iff {doc : Document} {line level : Int} {k : String} :
    k ∈ usedKeys doc line level ↔ ∃ m : Nat, m < doc.lines.length ∧ (m : Int) ≠ line ∧
      (indent (doc.lineAt m) : Int) = level ∧ key? (doc.lineAt m) = some k ∧
        Connected doc level m line := by
  simp only [mem_usedKeys, mem_blockKeys_above, mem_blockKeys_below, connected_iff_withinBlock,
    siblingKey?_eq_some]
  have hinside : ∀ m : Nat, key? (doc.lineAt m) = some k → m < doc.lines.length := by
    intro m hkey
    obtain ⟨j, hj, hlt⟩ := exists_natCast_of_key? hkey
    omega
  constructor
  · rintro (⟨m, hm, ⟨hlevel, hkey⟩, hbetween⟩ | ⟨m, hm, ⟨hlevel, hkey⟩, hbetween⟩)
    · refine ⟨m, hinside m hkey, by omega, hlevel, hkey, fun i hi => ?_⟩
      obtain ⟨j, rfl⟩ : ∃ j : Nat, i = j := ⟨i.toNat, by omega⟩
      exact hbetween j (by omega) (by omega)
    · refine ⟨m, hinside m hkey, by omega, hlevel, hkey, fun i hi => ?_⟩
      by_cases hneg : i < 0
      · rw [lineAt, if_pos hneg]
        rfl
      · obtain ⟨j, rfl⟩ : ∃ j : Nat, i = j := ⟨i.toNat, by omega⟩
        exact hbetween j (by omega) (by omega)
  · rintro ⟨m, hm, hne, hlevel, hkey, hbetween⟩
    by_cases hbefore : (m : Int) < line
    · exact Or.inl ⟨m, by omega, ⟨hlevel, hkey⟩, fun i hi hmi => hbetween i (by omega)⟩
    · exact Or.inr ⟨m, by omega, ⟨hlevel, hkey⟩, fun i hi him => hbetween i (by omega)⟩

theorem mem_usedKeys_of_connected {doc : Document} {level a b : Int} {k : String} (hne : a ≠ b)
    (hlevel : (indent (doc.lineAt a) : Int) = level) (hkey : key? (doc.lineAt a) = some k)
    (hab : Connected doc level a b) : k ∈ usedKeys doc b level := by
  obtain ⟨m, rfl, hm⟩ := exists_natCast_of_key? hkey
  exact mem_usedKeys_iff.mpr ⟨m, hm, hne, hlevel, hkey, hab⟩

/-- What is used beside a line, or declared on it, is so for every keyed line that is connected to
it. -/
theorem used_or_own_of_connected {doc : Document} {level a b : Int} {ka kb : String}
    (ha : (indent (doc.lineAt a) : Int) = level) (hka : key? (doc.lineAt a) = some ka)
    (hkb : key? (doc.lineAt b) = some kb) (hab : Connected doc level a b) {k : String}
    (hk : k ∈ usedKeys doc a level ∨ k = ka) : k ∈ usedKeys doc b level ∨ k = kb := by
  rcases hk with hused | rfl
  · obtain ⟨m, _, _, hlevel, hkey, hma⟩ := mem_usedKeys_iff.mp hused
    have hmb : Connected doc level m b := hma.trans (Int.le_of_eq ha.symm) hab
    by_cases hb : (m : Int) = b
    · rw [← hb, hkey] at hkb
      exact Or.inr (Option.some.inj hkb)
    · exact Or.inl (mem_usedKeys_of_connected hb hlevel hkey hmb)
  · by_cases hb : a = b
    · rw [← hb, hka] at hkb
      exact Or.inr (Option.some.inj hkb)
    · exact Or.inl (mem_usedKeys_of_connected hb ha hka hab)

/-- The keys that are used beside a line, inside the document or not, are those of the other lines
of the given indentation that are connected to it.  So two connected lines with keys have the same
used keys, once each one's own key is counted in. -/
theorem usedKeys_eq_connected (doc : Document) (level : Int) :
    (∀ (line : Int) (k : String), k ∈ usedKeys doc line level ↔
        ∃ m : Nat, m < doc.lines.length ∧ (m : Int) ≠ line ∧ (indent (doc.lineAt m) : Int) = level ∧
          key? (doc.lineAt m) = some k ∧ Connected doc level m line) ∧
      ∀ (a b : Int) (ka kb : String), (indent (doc.lineAt a) : Int) = level →
        key? (doc.lineAt a) = some ka →
        (indent (doc.lineAt b) : Int) = level → key? (doc.lineAt b) = some kb →
          Connected doc level a b →
        ∀ k, (k ∈ usedKeys doc a level ∨ k = ka) ↔ (k ∈ usedKeys doc b level ∨ k = kb) := by
  refine ⟨fun line k => mem_usedKeys_iff, ?_⟩
  intro a b ka kb ha hka hb hkb hab k
  constructor
  · exact used_or_own_of_connected ha hka hkb hab
  · exact used_or_own_of_connected hb hkb hka hab.symm

/-- Lines 1 and 4 are connected over a deeper line and a blank one; a line at the root ends the
block. -/
theorem usedKeys_eq_connected_sample :
    let doc : Document :=
      ⟨["Name: shop".toList, "  Size: 1".toList, "    Unit: cm".toList, "".toList,
      "  Color: red".toList, "Nodes:".toList, "  Size: 2".toList]⟩
    Connected doc 2 1 4 ∧ usedKeys doc 1 2 = ["Color"] ∧ usedKeys doc 4 2 = ["Size"] ∧
      ("Unit" ∉ usedKeys doc 4 2 ∧ "Name" ∉ usedKeys doc 4 2) ∧
      ∀ k, (k ∈ usedKeys doc 1 2 ∨ k = "Size") ↔ (k ∈ usedKeys doc 4 2 ∨ k = "Color") := by
  intro doc
  have hconnected : Connected doc 2 1 4 := by
    intro i hi
    obtain rfl | rfl : i = 2 ∨ i = 3 := by omega
    · exact Or.inr (by decide)
    · exact Or.inl (by decide)
  exact ⟨hconnected, by decide, by decide, by decide,
    (usedKeys_eq_connected doc 2).2 1 4 "Size" "Color" (by decide) (by decide) (by decide)
      (by decide) hconnected⟩

end SchemaAssist.Completion
