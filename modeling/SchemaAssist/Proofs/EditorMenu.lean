/-
  Entries of the editor's menu, accepted.

  An entry replaces some characters before the cursor.  For a property these are as many as were
  typed on the line, the blanks at either end of it left out.  They are what was typed as long as
  nothing stands between it and the cursor: then the line is left with its leading blanks and the
  property (`applied_field_iff`).  Where blanks follow what was typed, the characters are counted
  from the wrong place, and the start of what was typed stays in front of the property
  (`applied_field_after_blank`).
-/
import SchemaAssist.Editor.Buffer
import SchemaAssist.Proofs.LineGrammar
import SchemaAssist.Proofs.SchemaTree

namespace SchemaAssist

namespace Document

open Text

/-! ### The length of what is trimmed -/

theorem indent_add_length_trimStart (line : Line) :
    indent line + (trimStart line).length = line.length := by
  rw [indent, ← List.length_append, takeWhile_append_trimStart]

theorem length_trim_le (line : Line) : (trim line).length ≤ line.length := by
  have hend := (isPrefix_trimEnd (trimStart line)).length_le
  have hstart := indent_add_length_trimStart line
  rw [trim]
  omega

/-- Nothing is trimmed at the end exactly if there is no blank at the end. -/
theorem length_trimEnd_eq_iff (s : List Char) :
    (trimEnd s).length = s.length ↔ ∀ c ∈ s.getLast?, isBlank c = false := by
  constructor
  · intro hlength c hc
    rw [← List.head?_reverse] at hc
    have hsame : s.reverse.dropWhile isBlank = s.reverse := by
      apply (List.dropWhile_suffix isBlank).eq_of_length
      simpa [trimEnd] using hlength
    have hhead := head_trimStart s.reverse
    rw [trimStart, hsame] at hhead
    exact hhead c hc
  · intro hlast
    rw [trimEnd_eq_self hlast]

theorem getLast?_trimStart {line : Line} (h : trimStart line ≠ []) :
    (trimStart line).getLast? = line.getLast? := by
  have hline := takeWhile_append_trimStart line
  rw [← List.getLast?_append_of_ne_nil (line.takeWhile isBlank) h, hline]

/-- What was typed on a line, if anything, reaches to its end. -/
def EndsTyped (line : Line) : Prop := blankLine line = true ∨ ∀ c ∈ line.getLast?, isBlank c = false

/-- What is left of a line when as many characters are taken from its end as were typed on it. -/
def leftOver (line : Line) : List Char := line.take (line.length - (trim line).length)

/-- The leading blanks are left exactly if what was typed reaches to the end of the line. -/
theorem leftOver_eq_iff (line : Line) :
    leftOver line = line.takeWhile isBlank ↔ EndsTyped line := by
  have hstart := indent_add_length_trimStart line
  have htrim := (isPrefix_trimEnd (trimStart line)).length_le
  have hlead : line.takeWhile isBlank = line.take (indent line) :=
    List.prefix_iff_eq_take.mp (List.takeWhile_prefix isBlank)
  have hcount : leftOver line = line.takeWhile isBlank ↔
      (trimEnd (trimStart line)).length = (trimStart line).length := by
    rw [leftOver, hlead, List.take_eq_take_iff, trim]
    omega
  rw [hcount, length_trimEnd_eq_iff, EndsTyped, blankLine_eq, List.isEmpty_iff]
  by_cases hnil : trimStart line = []
  · simp [hnil]
  · rw [getLast?_trimStart hnil]
    simp [hnil]

end Document

namespace Editor

open Completion Text
open Document (EndsTyped leftOver leftOver_eq_iff length_trim_le)

/-! ### The last line of a text -/

/-- The text before its last line. -/
def beforeLastLine (text : List Char) : List Char := (text.reverse.dropWhile (· != '\n')).reverse

theorem beforeLastLine_append_lastLine (text : List Char) :
    beforeLastLine text ++ lastLine text = text := by
  rw [beforeLastLine, lastLine, ← List.reverse_append, List.takeWhile_append_dropWhile,
    List.reverse_reverse]

theorem newline_not_mem_lastLine (text : List Char) : '\n' ∉ lastLine text := by
  intro hmem
  have hchar := List.mem_takeWhile_imp (List.mem_reverse.mp hmem)
  simp at hchar

theorem lastLine_append {added : List Char} (h : '\n' ∉ added) (text : List Char) :
    lastLine (text ++ added) = lastLine text ++ added := by
  have hall : ∀ c ∈ added.reverse, (c != '\n') = true := by
    intro c hc
    rw [bne_iff_ne]
    rintro rfl
    exact h (List.mem_reverse.mp hc)
  rw [lastLine, List.reverse_append, List.takeWhile_append_of_pos hall, List.reverse_append,
    List.reverse_reverse,
    lastLine]

theorem lastLine_beforeLastLine (text : List Char) : lastLine (beforeLastLine text) = [] := by
  have hsplit := lastLine_append (newline_not_mem_lastLine text) (beforeLastLine text)
  rw [beforeLastLine_append_lastLine] at hsplit
  exact List.self_eq_append_left.mp hsplit

/-! ### Accepting an entry -/

/-- The text before the cursor once an entry is accepted. -/
def Choice.applied (c : Choice) (before : List Char) :
    List Char := (Menu.mk before [c] (some 0)).text

/-- An entry that replaces at most a line leaves the lines before it alone. -/
theorem Choice.applied_eq {c : Choice} {before : List Char}
    (h : c.replaced ≤ (lastLine before).length) :
    c.applied before = beforeLastLine before ++
      ((lastLine before).take ((lastLine before).length - c.replaced) ++ c.text) := by
  have hbefore := beforeLastLine_append_lastLine before
  have hlength : before.length - c.replaced =
      (beforeLastLine before).length + ((lastLine before).length - c.replaced) := by
    have hsum := congrArg List.length hbefore
    rw [List.length_append] at hsum
    omega
  have htake := @List.take_length_add_append _ (beforeLastLine before) (lastLine before)
    ((lastLine before).length - c.replaced)
  rw [hbefore, ← hlength] at htake
  change before.take (before.length - c.replaced) ++ c.text = _
  rw [htake, List.append_assoc]

/-! ### Accepting a property -/

/-- The candidates from which the menu for a cursor is made. -/
def menuCandidates (s : Session) (text : List Char) (cursor : Int) (requested : Bool) :
    List Suggestion :=
  let p := cursorPosition text cursor
  (s.complete (String.ofList text) p
    (triggerOf (lastLine (textBefore text cursor)) p.line requested)).1

theorem choices_eq (s : Session) {text : List Char} {cursor : Int} (h : cursor ≤ text.length)
    (requested : Bool) :
    (choices s text cursor requested).1 = .ok ((menuCandidates s text cursor requested).map
      (Choice.ofSuggestion (lastLine (textBefore text cursor)))) := by
  unfold choices
  rw [if_neg (Int.not_lt.mpr h)]
  rfl

theorem applied_field {item : Suggestion} (hfield : item.isField = true) (before : List Char) :
    (Choice.ofSuggestion (lastLine before) item).applied before =
      beforeLastLine before ++ (leftOver (lastLine before) ++ item.insertText.toList) := by
  have hreplaced : (Choice.ofSuggestion (lastLine before) item).replaced =
      (trim (lastLine before)).length :=
    if_pos hfield
  have hle : (Choice.ofSuggestion (lastLine before) item).replaced ≤ (lastLine before).length := by
    rw [hreplaced]
    exact length_trim_le _
  rw [Choice.applied_eq hle, hreplaced]
  rfl

theorem newline_mem_insertText {item : Suggestion} (hfield : item.isField = true) :
    '\n' ∈ item.insertText.toList ↔ '\n' ∈ item.label.toList := by
  cases item with
  | field name detail documentation followUp => simp [Suggestion.insertText, Suggestion.label]
  | value text => cases hfield
  | marker => cases hfield

theorem lastLine_applied_field {item : Suggestion} (hfield : item.isField = true)
    (hname : '\n' ∉ item.label.toList) (before : List Char) :
    lastLine ((Choice.ofSuggestion (lastLine before) item).applied before) =
      leftOver (lastLine before) ++ item.insertText.toList := by
  have hkept : '\n' ∉ leftOver (lastLine before) ++ item.insertText.toList := by
    intro hmem
    rcases List.mem_append.mp hmem with hmem | hmem
    · exact newline_not_mem_lastLine before (List.mem_of_mem_take hmem)
    · exact hname ((newline_mem_insertText hfield).mp hmem)
  rw [applied_field hfield, lastLine_append hkept, lastLine_beforeLastLine, List.nil_append]

/-- The menu for a cursor inside a text has one entry for each candidate; past the end there is no
menu.  A property that is accepted takes as many characters from the end of its line as were typed
there, blanks at either end not counted.  So the line holds the leading blanks that it had and the
property exactly if what was typed reaches to the cursor; and this is one line unless the name of
the property holds a line feed. -/
theorem applied_field_iff (s : Session) (text : List Char) (cursor : Int) (requested : Bool) :
    let before := textBefore text cursor
    let line := lastLine before
    let items := menuCandidates s text cursor requested
    (cursor ≤ text.length → (choices s text cursor requested).1 =
      .ok (items.map (Choice.ofSuggestion line))) ∧
      (¬ cursor ≤ text.length → ∃ f, (choices s text cursor requested).1 = .error f) ∧
      ∀ item ∈ items, item.isField = true →
        let accepted := (Choice.ofSuggestion line item).applied before
        let wanted := line.takeWhile isBlank ++ item.insertText.toList
        accepted = beforeLastLine before ++ (leftOver line ++ item.insertText.toList) ∧
          (accepted = beforeLastLine before ++ wanted ↔ EndsTyped line) ∧
          (lastLine accepted = wanted ↔ '\n' ∉ item.label.toList ∧ EndsTyped line) := by
  intro before line items
  refine ⟨fun h => choices_eq s h requested, ?_, ?_⟩
  · intro h
    unfold choices
    rw [if_pos (Int.not_le.mp h)]
    exact ⟨_, rfl⟩
  · intro item _ hfield accepted wanted
    have haccepted := applied_field hfield before
    have hkept : leftOver line ++ item.insertText.toList = wanted ↔ EndsTyped line := by
      rw [List.append_left_inj]
      exact leftOver_eq_iff line
    refine ⟨haccepted, ?_, ?_⟩
    · rw [← hkept]
      simp only [accepted]
      rw [haccepted, List.append_right_inj]
    · by_cases hname : '\n' ∈ item.label.toList
      · have hwanted : '\n' ∈ wanted :=
          List.mem_append_right _ ((newline_mem_insertText hfield).mpr hname)
        constructor
        · intro heq
          exact (newline_not_mem_lastLine accepted (heq ▸ hwanted)).elim
        · intro h
          exact (h.1 hname).elim
      · have hline := lastLine_applied_field hfield hname before
        simp only [accepted]
        rw [hline, hkept]
        exact ⟨fun h => ⟨hname, h⟩, fun h => h.2⟩

/-- A session on the small schema. -/
def sampleSession : Session :=
  ⟨.empty, Engine.ofSchema Schema.sampleSchema.root defaultTriggers, Log.Router.unconfigured⟩

/-- With one letter of `Kind` typed inside an element, the line becomes `Kind:` at the same
indentation. -/
theorem applied_field_iff_sample :
    let text := "Nodes:\n  - Name: x\n    k".toList
    let item := Suggestion.field "Kind" "" "" true
    item ∈ menuCandidates sampleSession text 24 false ∧
      lastLine ((Choice.ofSuggestion "    k".toList item).applied text) = "    Kind:".toList := by
  intro text item
  have hmem : item ∈ menuCandidates sampleSession text 24 false := by decide
  have hbefore : textBefore text 24 = text := by decide
  have hline : lastLine text = "    k".toList := by decide
  have htyped : EndsTyped "    k".toList := by
    right
    rintro c ⟨⟩
    decide
  have hfield := (applied_field_iff sampleSession text 24 false).2.2 item hmem rfl
  rw [hbefore, hline] at hfield
  exact ⟨hmem, (hfield.2.2.mpr ⟨by decide, htyped⟩).trans (by decide)⟩

/-- After `Pu` and a blank the property is offered as for `Pu`; accepted, it leaves the `P`. -/
theorem applied_field_after_blank :
    let text := "Pu ".toList
    let item := Suggestion.field "Public" "string" "" true
    let line := lastLine (textBefore text 3)
    let accepted := (Choice.ofSuggestion line item).applied (textBefore text 3)
    item ∈ menuCandidates sampleSession text 3 false ∧ item.isField = true ∧
      lastLine accepted = "PPublic:".toList ∧
      lastLine accepted ≠ line.takeWhile isBlank ++ item.insertText.toList := by
  decide

end Editor

end SchemaAssist
