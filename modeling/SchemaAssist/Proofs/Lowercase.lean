/-
  Lowercase of a text and of its beginnings.

  Every character lowers by itself, except the capital sigma, which has a form for the end of a
  word.  A text may therefore be cut where such a letter seems to end a word and does not: before
  the cut it lowers to the final form, in the whole text to the ordinary one.  These cuts,
  `SplitsSigma`, are the only ones at which the lowercase of the beginning is not the beginning of
  the lowercase (`lower_prefix_iff`).
-/
import Mathlib.Data.List.TakeWhile
import SchemaAssist.Text.Case

namespace SchemaAssist.Text

/-! ### What is passed over -/

/-- Characters that are passed over when the end of a word is looked for. -/
def isIgnorable (c : Char) : Bool := caseIgnorableRanges.contains c.toNat

/-- Whether a letter with case comes next. -/
theorem casedAhead_eq (s : List Char) :
    casedAhead s = (s.dropWhile isIgnorable).head?.any fun c => casedRanges.contains c.toNat := by
  unfold casedAhead
  split
  · rename_i hnone
    have hrest : s.dropWhile isIgnorable = [] := hnone
    rw [hrest]
    rfl
  · rename_i c rest hsome
    have hrest : s.dropWhile isIgnorable = c :: rest := hsome
    rw [hrest]
    rfl

theorem casedAhead_of_ignorable {marks : List Char} (h : ∀ c ∈ marks, isIgnorable c = true)
    (s : List Char) :
    casedAhead (marks ++ s) = casedAhead s := by
  rw [casedAhead_eq, casedAhead_eq, List.dropWhile_append_of_pos h]

/-- What follows a text is looked at only if the text is passed over as a whole. -/
theorem casedAhead_append {s : List Char} (h : ¬ ∀ c ∈ s, isIgnorable c = true) (t : List Char) :
    casedAhead (s ++ t) = casedAhead s := by
  have hstop : s.dropWhile isIgnorable ≠ [] := mt List.dropWhile_eq_nil_iff.mp h
  have hempty : ¬ (s.dropWhile isIgnorable).isEmpty = true := mt List.isEmpty_iff.mp hstop
  obtain ⟨c, rest, hrest⟩ := List.exists_cons_of_ne_nil hstop
  rw [casedAhead_eq, casedAhead_eq, List.dropWhile_append, if_neg hempty, hrest]
  rfl

/-! ### One character -/

/-- All but one letter lower the same everywhere. -/
theorem lowerAt_of_ne_sigma {c : Char} (h : c ≠ 'Σ') (before before' after after' : List Char) :
    lowerAt before c after = lowerAt before' c after' := by
  simp only [lowerAt, if_neg h]

theorem lowerAt_sigma (before after : List Char) :
    lowerAt before 'Σ' after = [if casedAhead before && !casedAhead after then 'ς' else 'σ'] := rfl

/-- A letter lowers differently once more text follows exactly if it is a sigma behind a letter with
case, and the next character that is not passed over is such a letter of the new text. -/
theorem lowerAt_append_eq_iff (before : List Char) (c : Char) (rest more : List Char) :
    lowerAt before c (rest ++ more) = lowerAt before c rest ↔
      ¬ (c = 'Σ' ∧ (∀ x ∈ rest, isIgnorable x = true) ∧ casedAhead before = true ∧
        casedAhead more = true) := by
  by_cases hc : c = 'Σ'
  · subst hc
    rw [lowerAt_sigma, lowerAt_sigma]
    by_cases hrest : ∀ x ∈ rest, isIgnorable x = true
    · have hnone : casedAhead rest = false := by
        have hnil := casedAhead_of_ignorable hrest []
        rw [List.append_nil] at hnil
        exact hnil
      rw [casedAhead_of_ignorable hrest, hnone]
      have hall : (∀ x ∈ rest, isIgnorable x = true) ↔ True := iff_true_intro hrest
      rw [hall]
      cases casedAhead before <;> cases casedAhead more <;> simp
    · have hsame : casedAhead (rest ++ more) = casedAhead rest := casedAhead_append hrest more
      rw [hsame]
      exact iff_of_true rfl fun h => hrest h.2.1
  · simp [lowerAt_of_ne_sigma hc before before (rest ++ more) rest, hc]

/-- The lowercase of a letter has the same length everywhere. -/
theorem length_lowerAt (before before' after after' : List Char) (c : Char) :
    (lowerAt before c after).length = (lowerAt before' c after').length := by
  by_cases hc : c = 'Σ'
  · subst hc
    rw [lowerAt_sigma, lowerAt_sigma]
    rfl
  · rw [lowerAt_of_ne_sigma hc]

/-! ### Beginnings of a text -/

/-- A cut behind which a sigma does not end its word, although it seems to before the cut: a letter
with case stands before it and behind the cut, and between it and the cut everything is passed over.
What stands before the text is given nearest first. -/
def SplitsSigma (before s more : List Char) : Prop :=
  ∃ front marks, s = front ++ 'Σ' :: marks ∧ (∀ c ∈ marks, isIgnorable c = true) ∧
    casedAhead (front.reverse ++ before) = true ∧ casedAhead more = true

theorem SplitsSigma.mem {before s more : List Char} (h : SplitsSigma before s more) : 'Σ' ∈ s := by
  obtain ⟨front, marks, rfl, _⟩ := h
  simp

theorem splitsSigma_cons {before s more : List Char} {c : Char} :
    SplitsSigma before (c :: s) more ↔
      (c = 'Σ' ∧ (∀ x ∈ s, isIgnorable x = true) ∧ casedAhead before = true ∧
        casedAhead more = true) ∨
        SplitsSigma (c :: before) s more := by
  constructor
  · rintro ⟨front, marks, hs, hmarks, hbefore, hmore⟩
    cases front with
    | nil =>
      obtain ⟨rfl, rfl⟩ := List.cons.inj hs
      exact Or.inl ⟨rfl, hmarks, hbefore, hmore⟩
    | cons first front =>
      obtain ⟨rfl, rfl⟩ := List.cons.inj hs
      refine Or.inr ⟨front, marks, rfl, hmarks, ?_, hmore⟩
      simpa using hbefore
  · rintro (⟨rfl, hmarks, hbefore, hmore⟩ | ⟨front, marks, rfl, hmarks, hbefore, hmore⟩)
    · exact ⟨[], s, rfl, hmarks, hbefore, hmore⟩
    · refine ⟨c :: front, marks, rfl, hmarks, ?_, hmore⟩
      simpa using hbefore

theorem lowerFrom_prefix_iff (before s more : List Char) :
    lowerFrom before s <+: lowerFrom before (s ++ more) ↔ ¬ SplitsSigma before s more := by
  -- The induction runs through the text with what was read so far behind it.
  induction s generalizing before with
  | nil =>
    have hnone : ¬ SplitsSigma before [] more := fun h => List.not_mem_nil h.mem
    simp [lowerFrom, hnone]
  | cons c s ih =>
    rw [List.cons_append, lowerFrom, lowerFrom, splitsSigma_cons,
      not_or, ← lowerAt_append_eq_iff, ← ih]
    constructor
    · intro hbegins
      have hfirst : lowerAt before c s <+: lowerAt before c (s ++ more) :=
        List.prefix_of_prefix_length_le ((List.prefix_append _ _).trans hbegins)
          (List.prefix_append _ _)
          (Nat.le_of_eq (length_lowerAt before before s (s ++ more) c))
      have hsame := hfirst.eq_of_length (length_lowerAt before before s (s ++ more) c)
      rw [hsame] at hbegins
      exact ⟨hsame.symm, (List.prefix_append_right_inj _).mp hbegins⟩
    · rintro ⟨hsame, hbegins⟩
      rw [hsame]
      exact (List.prefix_append_right_inj _).mpr hbegins

/-- The lowercase of a beginning is the beginning of the lowercase, except where a sigma is split.
-/
theorem lower_prefix_iff (s more : List Char) :
    lower s <+: lower (s ++ more) ↔ ¬ SplitsSigma [] s more :=
  lowerFrom_prefix_iff [] s more

theorem lower_prefix_of_not_mem {s t : List Char} (hs : 'Σ' ∉ s) (h : s <+: t) :
    lower s <+: lower t := by
  obtain ⟨more, rfl⟩ := h
  exact (lower_prefix_iff s more).mpr fun hsplit => hs hsplit.mem

end SchemaAssist.Text
