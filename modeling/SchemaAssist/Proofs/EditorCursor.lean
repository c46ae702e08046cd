/-
  One cursor, counted in two ways.

  An editor counts rows and columns on its text as it is: a row ends at a line feed, and everything
  else belongs to a row.  Completion counts on the lines of a document, where a carriage return
  before a line feed belongs to the end of the line, and clamps.  The two agree on the text before
  the cursor at every offset but one kind: between a carriage return and its line feed the carriage
  return is not part of the document's line (`editor_prefix_eq`).  It is a blank, so what was typed
  is the same for both.
-/
import SchemaAssist.Proofs.EditorMenu
import SchemaAssist.Proofs.LineEndings
import SchemaAssist.Proofs.Typing

namespace SchemaAssist

namespace Document

/-! ### Rows of a text as lines of a document -/

theorem splitLines_lf (s : List Char) : splitLines ('\n' :: s) = [] :: splitLines s :=
  @splitLines_append_lf [] (by simp) (by simp) s

/-- A carriage return before a line feed makes no difference. -/
theorem splitLines_cr {s : List Char} (h : s.head? = some '\n') :
    splitLines ('\r' :: s) = splitLines s := by
  obtain ⟨rest, rfl⟩ := List.head?_eq_some_iff.mp h
  rw [splitLines, splitLines_lf]

/-- Rows that are complete are as many lines, and leave the rest of the text as it is. -/
theorem splitLines_rows (front s : List Char) :
    ∃ lines, splitLines (front ++ '\n' :: s) = lines ++ splitLines s ∧
      lines.length = front.count '\n' + 1 := by
  induction front with
  | nil => exact ⟨[[]], splitLines_lf s, rfl⟩
  | cons c front ih =>
    obtain ⟨lines, hlines, hlength⟩ := ih
    rw [List.cons_append]
    by_cases hlf : c = '\n'
    · refine ⟨[] :: lines, ?_, ?_⟩
      · rw [hlf, splitLines_lf, hlines, List.cons_append]
      · rw [hlf, List.count_cons_self, List.length_cons, hlength]
    · rw [List.count_cons_of_ne hlf]
      by_cases hcr : c = '\r' ∧ (front ++ '\n' :: s).head? = some '\n'
      · exact ⟨lines, by rw [hcr.1, splitLines_cr hcr.2, hlines], hlength⟩
      · -- The character goes to the front of the first line, which is a complete one.
        obtain ⟨line, more, rfl⟩ := List.exists_cons_of_length_eq_add_one hlength
        refine ⟨(c :: line) :: more, ?_, hlength⟩
        rw [splitLines_cons hlf (fun h hhead => hcr ⟨h, hhead⟩), hlines]
        rfl

/-- The first line of a text, up to a place in its first row.  Only a carriage return right before
the place is lost, and only if the line feed comes right after it. -/
theorem take_first_line {row : List Char} (h : '\n' ∉ row) (after : List Char) :
    ((splitLines (row ++ after)).headD []).take row.length =
      if row.getLast? = some '\r' ∧ after.head? = some '\n' then row.dropLast else row := by
  induction row with
  | nil => simp
  | cons c row ih =>
    have hc : c ≠ '\n' := fun heq => h (by simp [heq])
    have hrow : '\n' ∉ row := fun hmem => h (by simp [hmem])
    rw [List.cons_append]
    by_cases hcr : c = '\r' ∧ (row ++ after).head? = some '\n'
    · obtain ⟨rfl, hhead⟩ := hcr
      cases row with
      | nil =>
        obtain ⟨rest, rfl⟩ := List.head?_eq_some_iff.mp hhead
        rw [splitLines_cr hhead, List.nil_append, splitLines_lf]
        simp
      | cons d row =>
        obtain rfl : d = '\n' := by simpa using hhead
        exact (hrow List.mem_cons_self).elim
    · rw [splitLines_cons hc (fun heq hhead => hcr ⟨heq, hhead⟩), List.headD_cons, List.length_cons,
        List.take_succ_cons, ih hrow]
      cases row with
      | nil =>
        have hends : ¬ ([c].getLast? = some '\r' ∧ after.head? = some '\n') := by simpa using hcr
        rw [if_neg hends, if_neg (by simp)]
      | cons d row =>
        rw [List.getLast?_cons_cons, List.dropLast_cons_cons]
        exact (apply_ite (c :: ·) _ _ _)

end Document

namespace Editor

open Completion Document Text

/-! ### The line of a cursor -/

theorem textBefore_natCast (text : List Char) (cursor : Nat) :
    textBefore text cursor = text.take cursor := by
  rw [textBefore, if_neg (by omega), Int.toNat_natCast]

theorem cursorPosition_natCast (text : List Char) (cursor : Nat) :
    cursorPosition text cursor =
      ⟨(text.take cursor).count '\n', (lastLine (text.take cursor)).length⟩ := by
  rw [cursorPosition, if_neg (by omega), textBefore_natCast]

/-- What stands before the last line is nothing, or it ends with a line feed. -/
theorem beforeLastLine_cases (text : List Char) :
    beforeLastLine text = [] ∨ ∃ front, beforeLastLine text = front ++ ['\n'] := by
  rw [beforeLastLine]
  cases hrest : text.reverse.dropWhile (· != '\n') with
  | nil => exact Or.inl rfl
  | cons c rest =>
    have hstop := List.head?_dropWhile_not (· != '\n') text.reverse
    rw [hrest] at hstop
    obtain rfl : c = '\n' := by simpa using hstop
    exact Or.inr ⟨rest.reverse, List.reverse_cons⟩

theorem count_beforeLastLine (text : List Char) :
    (beforeLastLine text).count '\n' = text.count '\n' := by
  have hcount := congrArg (List.count '\n') (beforeLastLine_append_lastLine text)
  rwa [List.count_append, List.count_eq_zero_of_not_mem (newline_not_mem_lastLine text),
    Nat.add_zero] at hcount

/-- The lines of a text from the row of a cursor on are those of what the row and the rest make up.
-/
theorem drop_count_splitLines (before after : List Char) :
    (splitLines (before ++ after)).drop (before.count '\n') =
      splitLines (lastLine before ++ after) := by
  have htext : before ++ after = beforeLastLine before ++ (lastLine before ++ after) := by
    rw [← List.append_assoc, beforeLastLine_append_lastLine]
  rw [htext, ← count_beforeLastLine]
  rcases beforeLastLine_cases before with hnone | ⟨front, hfront⟩
  · rw [hnone]
    rfl
  · obtain ⟨lines, hlines, hlength⟩ := splitLines_rows front (lastLine before ++ after)
    rw [hfront, List.append_assoc, List.singleton_append, hlines, List.count_append,
      List.count_singleton_self,
      ← hlength, List.drop_left]

theorem count_lt_length_splitLines (before after : List Char) :
    before.count '\n' < (splitLines (before ++ after)).length := by
  apply Nat.lt_of_not_le
  intro hle
  have hdrop := drop_count_splitLines before after
  rw [List.drop_eq_nil_of_le hle] at hdrop
  exact splitLines_ne_nil _ hdrop.symm

theorem lineAt_count (before after : List Char) :
    (Document.ofText (String.ofList (before ++ after))).lineAt (before.count '\n') =
      (splitLines (lastLine before ++ after)).headD [] := by
  rw [lineAt_natCast, Document.ofText, String.toList_ofList, ← drop_count_splitLines before after,
    List.headD_eq_head?_getD, List.head?_drop]

/-- The row and column of a cursor lead to a place in the document, and the text before it there. -/
theorem textBefore_clamp_cursorPosition (text : List Char) (cursor : Nat) :
    let doc := Document.ofText (String.ofList text)
    doc.textBefore (doc.clamp (cursorPosition text cursor)) =
      ((splitLines (lastLine (text.take cursor) ++ text.drop cursor)).headD []).take
        (lastLine (text.take cursor)).length := by
  intro doc
  have hline := lineAt_count (text.take cursor) (text.drop cursor)
  have hlt := count_lt_length_splitLines (text.take cursor) (text.drop cursor)
  rw [List.take_append_drop] at hline hlt
  have hinside : (((text.take cursor).count '\n' : Nat) : Int) < doc.lines.length := by
    simp only [doc, Document.ofText, String.toList_ofList]
    omega
  rw [cursorPosition_natCast, clamp_eq doc (by omega) hinside, textBefore_columnIn]
  simp only [doc, Document.textBefore, hline, Int.toNat_natCast]

/-! ### What was typed -/

/-- Whether a cursor stands between a carriage return and its line feed. -/
def BetweenCrLf (text : List Char) (cursor : Nat) : Prop :=
  (text.take cursor).getLast? = some '\r' ∧ (text.drop cursor).head? = some '\n'

instance (text : List Char) (cursor : Nat) : Decidable (BetweenCrLf text cursor) :=
  inferInstanceAs (Decidable (_ ∧ _))

theorem getLast?_lastLine (text : List Char) :
    (lastLine text).getLast? = some '\r' ↔ text.getLast? = some '\r' := by
  have htext := beforeLastLine_append_lastLine text
  by_cases hnil : lastLine text = []
  · rw [hnil, List.append_nil] at htext
    rw [hnil, ← htext]
    rcases beforeLastLine_cases text with hnone | ⟨front, hfront⟩
    · rw [hnone]
    · rw [hfront, List.getLast?_concat]
      simp
  · have hlast := List.getLast?_append_of_ne_nil (beforeLastLine text) hnil
    rw [htext] at hlast
    rw [hlast]

/-- A carriage return at the end is trimmed away like any blank. -/
theorem trim_dropLast_cr {row : List Char} (h : row.getLast? = some '\r') :
    trim row.dropLast = trim row := by
  have hblank := @trim_append_blanks ['\r'] (List.forall_mem_singleton.mpr (by decide)) row.dropLast
  rw [List.dropLast_append_getLast? '\r' h] at hblank
  exact hblank.symm

/-- Only a line that is blank so far, and not the first, counts as a new one. -/
theorem triggerOf_eq_newline_iff (before : List Char) (row : Int) (requested : Bool) :
    triggerOf (lastLine before) row requested = some newline ↔
      trim (lastLine before) = [] ∧ 0 < row := by
  have hfresh : ((trim (lastLine before)).isEmpty && decide (0 < row)) = true ↔
      trim (lastLine before) = [] ∧ 0 < row := by
    rw [Bool.and_eq_true, List.isEmpty_iff, decide_eq_true_eq]
  rw [← hfresh]
  constructor
  · intro h
    by_contra hnot
    rw [triggerOf, if_neg hnot] at h
    split at h
    · cases h
    · obtain ⟨c, hc, hchar⟩ := Option.map_eq_some_iff.mp h
      obtain rfl : c = '\n' := by simpa [newline] using congrArg String.toList hchar
      exact newline_not_mem_lastLine before (List.mem_of_getLast? hc)
  · intro h
    rw [triggerOf, if_pos h]

/-- The text before a cursor, for the document: as it is for the editor, without the first half of a
line's end. -/
theorem textBefore_clamp_eq (text : List Char) (cursor : Nat) :
    let doc := Document.ofText (String.ofList text)
    let line := lastLine (text.take cursor)
    doc.textBefore (doc.clamp (cursorPosition text cursor)) =
      if BetweenCrLf text cursor then line.dropLast else line := by
  intro doc line
  have hfirst := take_first_line (newline_not_mem_lastLine (text.take cursor)) (text.drop cursor)
  rw [textBefore_clamp_cursorPosition, hfirst]
  exact if_congr (and_congr_left' (getLast?_lastLine _)) rfl rfl

theorem trim_textBefore_clamp (text : List Char) (cursor : Nat) :
    let doc := Document.ofText (String.ofList text)
    trim (doc.textBefore (doc.clamp (cursorPosition text cursor))) =
      trim (lastLine (text.take cursor)) := by
  intro doc
  rw [textBefore_clamp_eq]
  split
  · rename_i hbetween
    exact trim_dropLast_cr ((getLast?_lastLine _).mpr hbetween.1)
  · rfl

theorem typed_of_properties {before typed : List Char}
    (h : Request.ofTyped before = .properties typed) :
    typed = trim before := by
  by_cases hcolon : (trimEnd before).getLast? = some ':'
  · obtain ⟨property, hvalues⟩ := Request.ofTyped_of_colon hcolon
    rw [hvalues] at h
    cases h
  · rw [Request.ofTyped_of_not_colon hcolon] at h
    exact (Request.properties.inj h).symm

/-- Away from new lines, every property in a menu starts with what stands before the cursor,
trimmed. -/
theorem matchesTyped_of_mem_menu {s : Session} {text : List Char} {cursor : Nat} {requested : Bool}
    {item : Suggestion}
    (hitem : item ∈ menuCandidates s text cursor requested) (hfield : item.isField = true)
    (htrigger : triggerOf (lastLine (text.take cursor))
      (cursorPosition text cursor).line requested ≠ some newline) :
    matchesTyped item.label (trim (lastLine (text.take cursor))) = true := by
  have hasked : item ∈ (s.engine.complete s.files (String.ofList text) (cursorPosition text cursor)
      (triggerOf (lastLine (text.take cursor)) (cursorPosition text cursor).line requested)).1 := by
    rw [← textBefore_natCast]
    exact hitem
  have haccepted : accepts s.engine.triggers
      (triggerOf (lastLine (text.take cursor)) (cursorPosition text cursor).line requested) =
        true := by
    by_contra hrejected
    rw [Engine.complete_rejected _ _ _ _ _ (eq_false_of_ne_true hrejected)] at hasked
    cases hasked
  rw [complete_offers _ _ _ _ haccepted] at hasked
  cases hroot : (s.engine.cacheInUse s.files).root? with
  | none =>
    rw [hroot] at hasked
    cases hasked
  | some root =>
    rw [hroot, Option.elim_some, dispatched_eq_clamp root _ _ htrigger] at hasked
    have hoffered := offerable_of_field hasked hfield
    rw [trim_textBefore_clamp, offerable, Bool.and_eq_true] at hoffered
    rw [matchesTyped_eq]
    exact hoffered.2

/-- The editor and completion see the same text before a cursor.  At every offset of every text, the
row and column that the editor counts lead to the line prefix that the editor has, except that a
carriage return between the prefix and its line feed is left out.  So on a line that does not count
as a new one, the text that an entry for a property replaces is the text that the property was
matched against. -/
theorem editor_prefix_eq (text : List Char) (cursor : Nat) :
    let before := text.take cursor
    let line := lastLine before
    let doc := Document.ofText (String.ofList text)
    let p : Position := ⟨before.count '\n', line.length⟩
    cursorPosition text cursor = p ∧
      doc.textBefore (doc.clamp p) = (if BetweenCrLf text cursor then line.dropLast else line) ∧
      ∀ requested, ¬ (trim line = [] ∧ 0 < p.line) →
        (∀ root typed, Request.ofTyped
          (doc.textBefore (dispatched root doc p (triggerOf line p.line requested))) =
          .properties typed → typed = trim line) ∧
        ∀ (s : Session), ∀ item ∈ menuCandidates s text cursor requested, item.isField = true →
          matchesTyped item.label (trim line) = true ∧
            (Choice.ofSuggestion line item).replaced = (trim line).length := by
  intro before line doc p
  have hp : cursorPosition text cursor = p := cursorPosition_natCast text cursor
  have htyped : trim (doc.textBefore (doc.clamp p)) = trim line := by
    rw [← hp]
    exact trim_textBefore_clamp text cursor
  refine ⟨hp, ?_, ?_⟩
  · rw [← hp]
    exact textBefore_clamp_eq text cursor
  · intro requested hroute
    have htrigger : triggerOf line p.line requested ≠ some newline :=
      mt (triggerOf_eq_newline_iff before p.line requested).mp hroute
    constructor
    · intro root typed hasked
      rw [dispatched_eq_clamp root doc p htrigger] at hasked
      exact (typed_of_properties hasked).trans htyped
    · intro s item hitem hfield
      rw [← hp] at htrigger
      exact ⟨matchesTyped_of_mem_menu hitem hfield htrigger, if_pos hfield⟩

/-- Behind the carriage return of a mixed text, on a line with a trailing blank.  The prefix `Pu \r`
is read as `Pu `, and `Public` is matched against the `Pu` that both leave of it. -/
theorem editor_prefix_eq_crlf :
    let text := "a\rb\n\r\nPu \r\nx".toList
    let doc := Document.ofText (String.ofList text)
    let item := Suggestion.field "Public" "string" "" true
    BetweenCrLf text 10 ∧ cursorPosition text 10 = ⟨2, 4⟩ ∧
      doc.textBefore (doc.clamp ⟨2, 4⟩) = "Pu ".toList ∧
      item ∈ menuCandidates sampleSession text 10 true ∧
        matchesTyped item.label "Pu".toList = true := by
  intro text doc item
  obtain ⟨hp, hbefore, hmenu⟩ := editor_prefix_eq text 10
  have hitem : item ∈ menuCandidates sampleSession text 10 true := by decide
  have hmatched := ((hmenu true (by decide)).2 sampleSession item hitem rfl).1
  exact ⟨by decide, hp, hbefore, hitem, hmatched⟩

end Editor

end SchemaAssist
