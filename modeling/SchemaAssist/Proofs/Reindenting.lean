/-
  Only the order of indentations matters.

  A document is reindented when the leading blanks of every line are replaced, by any blanks, and
  the new indentation is a strictly increasing function of the old one that leaves column zero
  alone: from two columns to four, from spaces to as many tabs, or unevenly.  All comparisons of
  indentations keep their outcome, so every line keeps its enclosing keys and its siblings
  (`View.Reindents.placement_eq`), and what stands behind the leading blanks is read as before
  (`Request.ofTyped_append`).

  One thing is not a matter of order.  A root property counts as in use where its name stands on a
  line after some of the leading blanks.  If the name itself starts with a blank, then it depends on
  the very characters of the indentation (`complete_reindent_blank_name`); no other name does
  (`declares_eq_startsWithKey`).
-/
import Mathlib.Data.List.Forall2
import Mathlib.Order.Monotone.Basic
import SchemaAssist.Proofs.Cursors
import SchemaAssist.Proofs.LineGrammar

namespace SchemaAssist

namespace Document

open Text

/-! ### A name on a line -/

theorem startsColon_trimStart (s : List Char) : startsColon (trimStart s) = startsColon s := by
  have hsame : (trimStart s).dropWhile isBlank = s.dropWhile isBlank := trimStart_trimStart s
  rw [startsColon, startsColon, hsame]

/-- A name that does not start with a blank is declared right after the indentation or not at all.
-/
theorem declares_eq_startsWithKey {name : List Char} (hname : ∀ c ∈ name.head?, isBlank c = false)
    (line : Line) :
    declares name line = startsWithKey name (trimStart line) := by
  induction line with
  | nil => rfl
  | cons c rest ih =>
    cases hc : isBlank c with
    | false =>
      have hkeep : trimStart (c :: rest) = c :: rest := trimStart_eq_self (by simpa using hc)
      simp [declares, hc, hkeep]
    | true =>
      have hdrop : trimStart (c :: rest) = trimStart rest := by simp [trimStart, hc]
      rw [declares, ih, hdrop, hc, Bool.true_and]
      cases name with
      | nil =>
        have hcolon : startsColon (c :: rest) = startsColon (trimStart rest) := by
          rw [← startsColon_trimStart, hdrop]
        simp [startsWithKey, dropFront?, hcolon]
      | cons a name =>
        have hne : a ≠ c := by
          rintro rfl
          simp [hname a rfl] at hc
        simp [startsWithKey, dropFront?, hne]

end Document

namespace Completion

open Document Schema Text

/-- Blanks in front of what was typed change nothing about what is asked for. -/
theorem Request.ofTyped_append {ws : List Char} (hws : ∀ c ∈ ws, isBlank c = true) (s : List Char) :
    Request.ofTyped (ws ++ s) = Request.ofTyped s := by
  have hrest : (trimEnd (ws ++ s)).reverse =
      if (trimEnd s).reverse.isEmpty then [] else (trimEnd s).reverse ++ ws.reverse := by
    have hnone : ws.reverse.dropWhile isBlank = [] :=
      List.dropWhile_eq_nil_iff.mpr (fun c hc => hws c (List.mem_reverse.mp hc))
    simp only [trimEnd, List.reverse_append, List.dropWhile_append, List.reverse_reverse, hnone]
  unfold Request.ofTyped
  rw [hrest, trim_append hws]
  cases htyped : (trimEnd s).reverse with
  | nil => simp
  | cons c rest =>
    by_cases hc : c = ':'
    · subst hc
      simp [trim_append hws]
    · simp [hc]

/-! ### Reindented lines -/

/-- A line whose leading blanks were replaced by `f` of their number. -/
def Reindented (f : Nat → Nat) (line line' : Line) : Prop :=
  ∃ ws : List Char, (∀ c ∈ ws, isBlank c = true) ∧ ws.length = f (indent line) ∧
    line' = ws ++ trimStart line

theorem reindented_of_all {f : Nat → Nat} {line : Line} (ws : List Char)
    (hws : ws.all isBlank = true) (hlength : ws.length = f (indent line)) :
    Reindented f line (ws ++ trimStart line) :=
  ⟨ws, List.all_eq_true.mp hws, hlength, rfl⟩

namespace Reindented

variable {f : Nat → Nat} {line line' : Line} (h : Reindented f line line')
include h

theorem trimStart_eq : trimStart line' = trimStart line := by
  obtain ⟨ws, hws, _, rfl⟩ := h
  rw [trimStart, List.dropWhile_append_of_pos hws]
  exact trimStart_trimStart line

theorem indent_eq : indent line' = f (indent line) := by
  obtain ⟨ws, hws, hlength, rfl⟩ := h
  rw [indent_append hws (head_trimStart line), hlength]

theorem blankLine_eq : blankLine line' = blankLine line := by
  rw [Document.blankLine_eq, Document.blankLine_eq, h.trimStart_eq]

theorem key?_eq : key? line' = key? line := by
  rw [key?, key?, h.trimStart_eq]

theorem element?_eq : element? line' = element? line := by
  rw [element?, element?, h.trimStart_eq]

theorem trim_eq : trim line' = trim line := by
  rw [trim, trim, h.trimStart_eq]

theorem declares_eq {name : List Char} (hname : ∀ c ∈ name.head?, isBlank c = false) :
    declares name line' = declares name line := by
  rw [declares_eq_startsWithKey hname, declares_eq_startsWithKey hname, h.trimStart_eq]

/-- The same text is asked about at the same distance from the indentation. -/
theorem asked_eq (k : Nat) :
    Request.ofTyped (line'.take (f (indent line) + k)) =
      Request.ofTyped (line.take (indent line + k)) := by
  obtain ⟨ws, hws, hlength, rfl⟩ := h
  have hblank : ∀ c ∈ line.takeWhile isBlank, isBlank c = true :=
    fun c hc => List.mem_takeWhile_imp hc
  have hold : line.take (indent line + k) = line.takeWhile isBlank ++ (trimStart line).take k := by
    have htake := @List.take_length_add_append _ (line.takeWhile isBlank) (trimStart line) k
    rwa [takeWhile_append_trimStart] at htake
  rw [← hlength, List.take_length_add_append, hold, Request.ofTyped_append hws,
    Request.ofTyped_append hblank]

variable (hf : StrictMono f) (hzero : f 0 = 0)
include hf hzero

/-- A line at column zero is kept as it is, and any other one still starts with a blank. -/
theorem eq_or_blank :
    line' = line ∨ (∀ c ∈ line.head?, isBlank c = true) ∧ ∀ c ∈ line'.head?, isBlank c = true := by
  obtain ⟨ws, hws, hlength, rfl⟩ := h
  have hline := takeWhile_append_trimStart line
  cases hlead : line.takeWhile isBlank with
  | nil =>
    have hnil : ws = [] := by simpa [indent, hlead, hzero] using hlength
    rw [hlead] at hline
    left
    rw [hnil, hline]
  | cons c rest =>
    right
    have hpos : 0 < ws.length := by
      rw [hlength, indent, hlead, ← hzero]
      exact hf (Nat.succ_pos _)
    obtain ⟨d, ws, rfl⟩ := List.exists_cons_of_length_pos hpos
    constructor
    · rw [← hline, hlead]
      rintro x ⟨⟩
      exact List.mem_takeWhile_imp (hlead ▸ List.mem_cons_self)
    · rintro x ⟨⟩
      exact hws _ List.mem_cons_self

theorem opensNodes_eq : opensNodes line' = opensNodes line := by
  rcases h.eq_or_blank hf hzero with rfl | ⟨hblank, hblank'⟩
  · rfl
  · rw [opensNodes_of_blank hblank, opensNodes_of_blank hblank']

theorem startsWithLetter_eq : startsWithLetter line' = startsWithLetter line := by
  rcases h.eq_or_blank hf hzero with rfl | ⟨hblank, hblank'⟩
  · rfl
  · rw [startsWithLetter_of_blank hblank, startsWithLetter_of_blank hblank']

end Reindented

/-! ### Reindented documents -/

theorem any_declares_reindent {f : Nat → Nat} {lines lines' : List Line}
    (h : List.Forall₂ (Reindented f) lines lines') {name : List Char}
    (hname : ∀ c ∈ name.head?, isBlank c = false) :
    lines'.any (declares name) = lines.any (declares name) := by
  induction h with
  | nil => rfl
  | cons hline _ ih => rw [List.any_cons, List.any_cons, hline.declares_eq hname, ih]

theorem nearestKey_reindent {f : Nat → Nat} {above above' : List Line}
    (h : List.Forall₂ (Reindented f) above above') :
    above'.head?.bind key? = above.head?.bind key? := by
  cases h with
  | nil => rfl
  | cons hline _ => exact hline.key?_eq

section Siblings

variable {f : Nat → Nat} (hf : StrictMono f)
include hf

theorem siblingKeys_reindent {lines lines' : List Line}
    (h : List.Forall₂ (Reindented f) lines lines') (level : Nat) :
    (lines'.takeWhile (withinBlock (f level))).filterMap (siblingKey? (f level)) =
      (lines.takeWhile (withinBlock level)).filterMap (siblingKey? level) := by
  induction h with
  | nil => rfl
  | @cons line line' lines lines' hline _ ih =>
    have hwithin : withinBlock (f level) line' = withinBlock level line := by
      simp only [withinBlock, hline.blankLine_eq, hline.indent_eq, Int.ofNat_le, hf.le_iff_le]
    have hkey : siblingKey? (f level) line' = siblingKey? level line := by
      simp only [siblingKey?, hline.indent_eq, hline.key?_eq, Int.natCast_inj, hf.injective.eq_iff]
    rw [List.takeWhile_cons, List.takeWhile_cons, hwithin]
    by_cases hin : withinBlock level line = true
    · simp only [hin, if_true, List.filterMap_cons, hkey, ih]
    · simp [hin]

theorem keysBeside_reindent {above above' below below' : List Line}
    (habove : List.Forall₂ (Reindented f) above above')
    (hbelow : List.Forall₂ (Reindented f) below below') (level : Nat) :
    keysBeside above' below' (f level) = keysBeside above below level := by
  simp only [keysBeside, List.filterMap_reverse, siblingKeys_reindent hf habove,
    siblingKeys_reindent hf hbelow]

end Siblings

/-- A view whose lines were reindented. -/
structure View.Reindents (f : Nat → Nat) (v v' : View) : Prop where
  above : List.Forall₂ (Reindented f) v.above v'.above
  own : Reindented f v.own v'.own
  below : List.Forall₂ (Reindented f) v.below v'.below

section Views

variable {f : Nat → Nat} (hf : StrictMono f) (hzero : f 0 = 0)

include hzero in
theorem reindented_nil : Reindented f [] [] := ⟨[], by simp, hzero.symm, rfl⟩

include hzero in
theorem reindented_getD {lines lines' : List Line} (h : List.Forall₂ (Reindented f) lines lines')
    (i : Nat) :
    Reindented f (lines.getD i []) (lines'.getD i []) := by
  induction h generalizing i with
  | nil => exact reindented_nil hzero
  | cons hline _ ih =>
    cases i with
    | zero => exact hline
    | succ i => exact ih i

include hzero in
theorem reindents_of {lines lines' : List Line} (h : List.Forall₂ (Reindented f) lines lines')
    (n : Int) :
    (View.of ⟨lines⟩ n).Reindents f (View.of ⟨lines'⟩ n) where
  above := List.rel_reverse (List.forall₂_take n.toNat h)
  own := by
    simp only [View.of, lineAt]
    split
    · exact reindented_nil hzero
    · exact reindented_getD hzero h n.toNat
  below := List.forall₂_drop (n + 1).toNat h

include hf hzero

theorem rescaled_eq_zero_iff (level : Nat) : f level = 0 ↔ level = 0 := by
  rw [← hzero, hf.injective.eq_iff, hzero]

theorem enclosing_reindent {above above' : List Line} (h : List.Forall₂ (Reindented f) above above')
    (bound : Nat) :
    enclosing (f bound) above' = enclosing bound above := by
  induction h generalizing bound with
  | nil => rfl
  | cons hline _ ih =>
    simp only [enclosing, hline.blankLine_eq, hline.indent_eq, hline.key?_eq,
      rescaled_eq_zero_iff hf hzero,
      hf.lt_iff_lt, ih]

theorem pathOver_reindent {above above' : List Line} (h : List.Forall₂ (Reindented f) above above')
    (level : Nat) :
    pathOver above' (f level) = pathOver above level := by
  simp only [pathOver, rescaled_eq_zero_iff hf hzero, enclosing_reindent hf hzero h]

theorem leafNearest_reindent {above above' : List Line}
    (h : List.Forall₂ (Reindented f) above above') (root : Node) :
    leafNearest root above' = leafNearest root above := by
  cases h with
  | nil => rfl
  | cons hline hrest =>
    simp only [leafNearest, hline.key?_eq, hline.indent_eq, pathOver_reindent hf hzero hrest]

theorem identifiersFrom_reindent {lines lines' : List Line}
    (h : List.Forall₂ (Reindented f) lines lines') (inside : Bool) :
    identifiersFrom inside lines' = identifiersFrom inside lines := by
  induction h generalizing inside with
  | nil => rfl
  | cons hline _ ih =>
    simp only [identifiersFrom, hline.opensNodes_eq hf hzero, hline.startsWithLetter_eq hf hzero,
      hline.element?_eq, ih]

theorem View.Reindents.level_eq {v v' : View} (h : v.Reindents f v') (root : Node) :
    v'.level root = f (v.level root) := by
  have hprevious : v'.previous = f v.previous := by
    have hnearest := reindented_getD hzero h.above 0
    rw [← List.headD_eq_getD, ← List.headD_eq_getD] at hnearest
    exact hnearest.indent_eq
  have hsnaps : v'.SnapsBack root ↔ v.SnapsBack root := by
    simp only [View.SnapsBack, hprevious, h.own.indent_eq, hf.lt_iff_lt,
      leafNearest_reindent hf hzero h.above]
  by_cases hback : v.SnapsBack root
  · rw [View.level, View.level, if_pos hback, if_pos (hsnaps.mpr hback), hprevious]
  · rw [View.level, View.level, if_neg hback, if_neg (mt hsnaps.mp hback), h.own.indent_eq]

theorem View.Reindents.placement_eq {v v' : View} (h : v.Reindents f v') (root : Node) :
    v'.placement root = { v.placement root with indent := f (v.level root) } := by
  simp only [View.placement, h.level_eq hf hzero, pathOver_reindent hf hzero h.above,
    keysBeside_reindent hf h.above h.below]

theorem placement_reindent {lines lines' : List Line} (h : List.Forall₂ (Reindented f) lines lines')
    (n : Int) (root : Node) :
    placement ⟨lines'⟩ n (some root) =
      { placement ⟨lines⟩ n (some root) with
        indent := f (placement ⟨lines⟩ n (some root)).indent } := by
  rw [placement_eq_view, placement_eq_view, (reindents_of hzero h n).placement_eq hf hzero]
  rfl

/-- Completion does not see the difference, root properties declared elsewhere left aside.  After a
new line the cursor may be moved to a column of its own, so that trigger is left out. -/
theorem alike_reindent {lines lines' : List Line} (h : List.Forall₂ (Reindented f) lines lines')
    {c : Nat} (hc : c < lines.length) (root : Node) (k : Nat) {trigger : Option String}
    (htrigger : trigger ≠ some newline) :
    Alike root ⟨lines⟩ (dispatched root ⟨lines⟩ ⟨c, (indent (lineAt ⟨lines⟩ c) + k : Nat)⟩ trigger)
      ⟨lines'⟩ (dispatched root ⟨lines'⟩
        ⟨c, (f (indent (lineAt ⟨lines⟩ c)) + k : Nat)⟩ trigger) := by
  have hlt : (c : Int) < (Document.mk lines).lines.length := by exact_mod_cast hc
  have hlt' : (c : Int) < (Document.mk lines').lines.length := by
    have hlength : lines.length = lines'.length := h.length_eq
    simpa [← hlength] using hc
  have hview := reindents_of hzero h c
  have hplace := placement_reindent hf hzero h c root
  rw [dispatched_of_ne_newline root _ (by omega) hlt _ htrigger,
    dispatched_of_ne_newline root _ (by omega) hlt' _ htrigger]
  exact {
    inside := Int.le_of_lt hlt
    inside' := Int.le_of_lt hlt'
    asked := by
      rw [textBefore_columnIn, textBefore_columnIn, textBefore, textBefore, Int.toNat_natCast,
        Int.toNat_natCast]
      exact hview.own.asked_eq k
    path := by rw [hplace]
    usedKeys := by rw [hplace]
    start := congrArg List.head? hview.own.trim_eq
    keyAbove := nearestKey_reindent hview.above
    identifiers := identifiersFrom_reindent hf hzero h false }

end Views

/-- Whether a name starts with no blank. -/
def startsPlain (name : String) : Bool := name.toList.head?.all fun c => !isBlank c

theorem declaredAnywhere_reindent {f : Nat → Nat} {lines lines' : List Line}
    (h : List.Forall₂ (Reindented f) lines lines') {name : String}
    (hname : startsPlain name = true) :
    declaredAnywhere ⟨lines'⟩ name = declaredAnywhere ⟨lines⟩ name := by
  apply any_declares_reindent h
  intro c hc
  simpa [startsPlain, Option.mem_def.mp hc] using hname

/-- A document can be reindented in any way that keeps the order of indentations and column zero.
Every line keeps its enclosing keys and its siblings, and its indentation is the new one.  A request
that does not come from a new line has the same answer at the same distance from the indentation, up
to properties whose name starts with a blank, and these can differ only where a root property is
asked for. -/
theorem complete_reindent {f : Nat → Nat} (hf : StrictMono f) (hzero : f 0 = 0)
    {lines lines' : List Line} (h : List.Forall₂ (Reindented f) lines lines') (root : Node) :
    (∀ n : Int,
      (placement ⟨lines'⟩ n (some root)).indent = f (placement ⟨lines⟩ n (some root)).indent ∧
      (placement ⟨lines'⟩ n (some root)).path = (placement ⟨lines⟩ n (some root)).path ∧
      (placement ⟨lines'⟩ n (some root)).usedKeys = (placement ⟨lines⟩ n (some root)).usedKeys) ∧
    ∀ text text' : String, (Document.ofText text).lines = lines →
      (Document.ofText text').lines = lines' →
      ∀ c, c < lines.length → ∀ (k : Nat) (trigger : Option String), trigger ≠ some newline →
        ∀ e : Engine, e.cache = .loaded root → ∀ files,
          let own := indent (lineAt ⟨lines⟩ c)
          let items := (e.complete files text ⟨c, (own + k : Nat)⟩ trigger).1
          let items' := (e.complete files text' ⟨c, (f own + k : Nat)⟩ trigger).1
          items'.filter (fun s => startsPlain s.label) =
            items.filter (fun s => startsPlain s.label) ∧
          ((AsksRoot root ⟨lines⟩ ⟨c, (own + k : Nat)⟩ →
            ∀ n ∈ root.children, startsPlain n.name = true) →
            items' = items) := by
  constructor
  · intro n
    rw [placement_reindent hf hzero h]
    exact ⟨rfl, rfl, rfl⟩
  · intro text text' htext htext' c hc k trigger htrigger e hcache files own items items'
    have htext : Document.ofText text = ⟨lines⟩ := by rw [← htext]
    have htext' : Document.ofText text' = ⟨lines'⟩ := by rw [← htext']
    have halike := alike_reindent hf hzero h hc root k htrigger
    have hitems := complete_items hcache files text ⟨c, (own + k : Nat)⟩ trigger
    have hitems' := complete_items hcache files text' ⟨c, (f own + k : Nat)⟩ trigger
    rw [htext] at hitems
    rw [htext'] at hitems'
    cases haccepted : accepts e.triggers trigger with
    | false =>
      rw [haccepted, if_neg Bool.false_ne_true] at hitems hitems'
      simp [items, items', hitems, hitems']
    | true =>
      rw [haccepted, if_pos rfl] at hitems hitems'
      simp only [items, items', hitems, hitems']
      constructor
      · apply halike.filter_offers
        intro _ n _ hplain
        exact declaredAnywhere_reindent h hplain
      · intro hplain
        apply halike.offers_eq
        intro hroot n hn
        rw [dispatched_of_ne_newline root _ (by omega) (by exact_mod_cast hc) _ htrigger,
          asksRoot_columnIn] at hroot
        exact declaredAnywhere_reindent h (hplain hroot n hn)

/-- From two columns to four, with some tabs among them, inside an element and with one letter
typed. -/
theorem complete_reindent_sample :
    ((Engine.ofSchema sampleSchema.root defaultTriggers).complete .empty
      "Nodes:\n\t\t  - Name: x\n\t    \t\t\tk" ⟨2, 9⟩
      none).1.map Suggestion.label = ["Kind"] := by
  have hdouble : StrictMono (fun n : Nat => 2 * n) := by
    intro a b hab
    simp only
    omega
  have hlines : List.Forall₂ (Reindented fun n => 2 * n)
      ["Nodes:".toList, "  - Name: x".toList, "    k".toList]
      ["Nodes:".toList, "\t\t  - Name: x".toList, "\t    \t\t\tk".toList] := by
    refine .cons (reindented_of_all [] rfl rfl)
      (.cons (reindented_of_all "\t\t  ".toList rfl rfl) ?_)
    exact .cons (reindented_of_all "\t    \t\t\t".toList rfl rfl) .nil
  have hsame :=
    (complete_reindent hdouble rfl hlines sampleSchema.root).2 "Nodes:\n  - Name: x\n    k"
    "Nodes:\n\t\t  - Name: x\n\t    \t\t\tk" (by decide) (by decide) 2 (by decide) 1 none
      (by decide)
    (Engine.ofSchema sampleSchema.root defaultTriggers) rfl .empty
  exact (congrArg (List.map Suggestion.label)
    (hsame.2 fun hroot => absurd hroot.2 (by decide))).trans (by decide)

/-- A schema with one root property, whose name starts with a blank. -/
def blankNameData : Yaml.Value :=
  .map [(.str "spec", .map
    [(.str "properties", .map [(.str " A", .map [(.str "type", .str "string")])])])]

def blankNameSchema : Built := ⟨.object ⟨"spec", "object", ""⟩ [.scalar ⟨" A", "string", ""⟩], []⟩

/-- Where the line ` A:` has a tab for its space, the property ` A` counts no more as declared and
is offered. -/
theorem complete_reindent_blank_name :
    build blankNameData = .ok blankNameSchema ∧
      List.Forall₂ (Reindented id) [" A:".toList, []] ["\tA:".toList, []] ∧
      (Document.ofText " A:\n").lines = [" A:".toList, []] ∧
        (Document.ofText "\tA:\n").lines = ["\tA:".toList, []] ∧
      ((Engine.ofSchema blankNameSchema.root defaultTriggers).complete .empty " A:\n"
        ⟨1, 0⟩ none).1 = [] ∧
      ((Engine.ofSchema blankNameSchema.root defaultTriggers).complete .empty "\tA:\n"
        ⟨1, 0⟩ none).1 =
        [.field " A" "string" "" false] := by
  refine ⟨?_, ?_, by decide, by decide, by decide, by decide⟩
  · simp [blankNameData, blankNameSchema, build, rootName, Yaml.Value.get?, Yaml.Value.text, textOf,
      isKey, collapse,
      place, assemble, definedNodes, propertiesIn, elementIn, skippedIn, skippedProperties,
        skippedElement, Node.name,
      Node.info]
  · exact .cons (reindented_of_all ['\t'] rfl rfl) (.cons (reindented_of_all [] rfl rfl) .nil)

end Completion

end SchemaAssist
