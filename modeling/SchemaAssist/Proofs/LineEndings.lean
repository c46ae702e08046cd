/-
  Line endings do not matter.

  A text is made of lines by putting a line feed, or a carriage return and a line feed, between each
  line and the next (`joinLines`).  Cutting the text gives the lines back, whichever ending stands
  where (`splitLines_joinLines`), as long as no line but the last ends in a carriage return of its
  own: such a one would be taken for part of the ending.  So completion cannot tell the endings
  apart (`complete_line_endings`).
-/
import SchemaAssist.Completion.Engine
import SchemaAssist.Proofs.Lines

namespace SchemaAssist

namespace Document

/-- What ends a line. -/
inductive LineEnding where
  | lf
  | crlf
  deriving DecidableEq, Repr

def LineEnding.chars : LineEnding → List Char
  | lf => ['\n']
  | crlf => ['\r', '\n']

/-- The text of some lines; `ending i` stands between line `i` and the next. -/
def joinLines (ending : Nat → LineEnding) : List Line → List Char
  | [] => []
  | [line] => line
  | line :: next :: rest =>
    line ++ (ending 0).chars ++ joinLines (fun i => ending (i + 1)) (next :: rest)

/-! ### Cutting off one line -/

/-- A line without line feeds is split off at the line feed after it, unless it ends in a carriage
return. -/
theorem splitLines_append_lf {line : Line} (h : '\n' ∉ line) (hcr : line.getLast? ≠ some '\r')
    (rest : List Char) : splitLines (line ++ '\n' :: rest) = line :: splitLines rest := by
  induction line with
  | nil =>
    rw [List.nil_append, splitLines, if_pos rfl]
    intro tail hchar
    cases hchar
  | cons c line ih =>
    have hc : c ≠ '\n' := fun heq => h (by simp [heq])
    have hline : '\n' ∉ line := fun hmem => h (by simp [hmem])
    rw [List.cons_append, splitLines_cons hc]
    · have hlast : line.getLast? ≠ some '\r' := by
        intro hlast
        apply hcr
        rw [List.getLast?_cons, hlast]
        rfl
      rw [ih hline hlast]
      rfl
    · rintro rfl hhead
      cases line with
      | nil => exact hcr rfl
      | cons d line =>
        obtain rfl : d = '\n' := by simpa using hhead
        exact hline (by simp)

theorem splitLines_append_ending {line : Line} (h : '\n' ∉ line) (hcr : line.getLast? ≠ some '\r')
    (e : LineEnding) (rest : List Char) :
    splitLines (line ++ e.chars ++ rest) = line :: splitLines rest := by
  rw [List.append_assoc]
  cases e with
  | lf => exact splitLines_append_lf h hcr rest
  | crlf => exact splitLines_append_crlf h rest

/-! ### Cutting a whole text -/

theorem splitLines_joinLines (ending : Nat → LineEnding) {lines : List Line} (hne : lines ≠ [])
    (hlf : ∀ line ∈ lines, '\n' ∉ line) (hcr : ∀ line ∈ lines.dropLast, line.getLast? ≠ some '\r') :
    splitLines (joinLines ending lines) = lines := by
  induction lines generalizing ending with
  | nil => exact (hne rfl).elim
  | cons line rest ih =>
    have hline : '\n' ∉ line := hlf line List.mem_cons_self
    cases rest with
    | nil => exact splitLines_of_not_mem hline
    | cons next rest =>
      have hends : line.getLast? ≠ some '\r' := hcr line (by simp)
      rw [joinLines, splitLines_append_ending hline hends, ih]
      · simp
      · intro l hl
        exact hlf l (List.mem_cons_of_mem line hl)
      · intro l hl
        exact hcr l (by rw [List.dropLast_cons_cons]; exact List.mem_cons_of_mem line hl)

end Document

namespace Completion

open Document

/-- Completion reads a text only through its lines. -/
theorem complete_of_ofText_eq {text text' : String} (h : ofText text' = ofText text) (e : Engine)
    (files : Files.Store) (p : Position) (trigger : Option String) :
    e.complete files text' p trigger = e.complete files text p trigger := by
  have hrun : ∀ root, Engine.completeOn root text' p trigger =
      Engine.completeOn root text p trigger := by
    intro root
    simp only [Engine.completeOn, h]
  simp only [Engine.complete, hrun]

/-- Lines that are joined by any line endings are the lines of the document, so that every request
of every session has the same outcome whichever endings were chosen. -/
theorem complete_line_endings (lines : List Line) (hne : lines ≠ [])
    (hlf : ∀ line ∈ lines, '\n' ∉ line) (hcr : ∀ line ∈ lines.dropLast, line.getLast? ≠ some '\r')
    (ending : Nat → LineEnding) :
    (ofText (String.ofList (joinLines ending lines))).lines = lines ∧
      ∀ (other : Nat → LineEnding) (e : Engine) (files : Files.Store) (p : Position)
        (trigger : Option String),
        e.complete files (String.ofList (joinLines other lines)) p trigger =
          e.complete files (String.ofList (joinLines ending lines)) p trigger := by
  have hlines : ∀ choice, ofText (String.ofList (joinLines choice lines)) = ⟨lines⟩ := by
    intro choice
    rw [ofText, String.toList_ofList, splitLines_joinLines choice hne hlf hcr]
  refine ⟨by rw [hlines], ?_⟩
  intro other e files p trigger
  exact complete_of_ofText_eq (by rw [hlines, hlines]) e files p trigger

/-- Mixed endings around an empty line and a line with a carriage return inside; the last line may
end in one. -/
theorem complete_line_endings_mixed :
    let lines : List Line := ["Nodes:".toList, [], "a\rb".toList, "Name:\r".toList]
    let mixed : Nat → LineEnding := fun i => if i = 1 then .crlf else .lf
    (∀ line ∈ lines, '\n' ∉ line) ∧ (∀ line ∈ lines.dropLast, line.getLast? ≠ some '\r') ∧
      String.ofList (joinLines mixed lines) = "Nodes:\n\r\na\rb\nName:\r" ∧
      (ofText "Nodes:\n\r\na\rb\nName:\r").lines = lines := by
  intro lines mixed
  have hlf : ∀ line ∈ lines, '\n' ∉ line := by decide
  have hcr : ∀ line ∈ lines.dropLast, line.getLast? ≠ some '\r' := by decide
  have htext : String.ofList (joinLines mixed lines) = "Nodes:\n\r\na\rb\nName:\r" := by decide
  refine ⟨hlf, hcr, htext, ?_⟩
  rw [← htext]
  exact (complete_line_endings lines (by decide) hlf hcr mixed).1

end Completion

end SchemaAssist
