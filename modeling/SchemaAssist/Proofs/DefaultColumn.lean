/-
  The column of a command that names none.

  The program cuts a file into lines by itself to find the end of a line, and completion cuts the
  text again.  A file has no carriage returns once it is read, so both find the same lines
  (`lineLength_eq`), and a number that belongs to no line stands for an empty one.  Completion has
  another reading of such a number: it moves the cursor into the document.  So the default is the
  end of the cursor line for the numbers of lines, and column zero of the first or the last line for
  all others (`complete_default_column`), which is not the end of that line unless nothing is typed
  on it.
-/
import SchemaAssist.Cli.Program
import SchemaAssist.Proofs.LogRouting
import SchemaAssist.Proofs.Typing

namespace SchemaAssist

/-! ### The lines of a file that was read -/

/-- Without carriage returns a text is cut at its line feeds. -/
theorem Document.splitLines_of_cr_not_mem {s : List Char} (h : '\r' ∉ s) :
    splitLines s = Text.splitAt '\n' s := by
  rw [splitLines_eq_splitAt, replaceEndings_of_not_mem h]

namespace Cli

open Completion Document Files

/-- The program and completion agree on the length of every line, also of those that do not exist.
-/
theorem lineLength_eq {bytes : List UInt8} {text : List Char} (h : readText bytes = .ok text)
    (line : Int) :
    lineLength text line = ((ofText (String.ofList text)).lineAt line).length := by
  have hcr : '\r' ∉ text := by
    unfold readText at h
    split at h
    · cases h
      exact Text.cr_not_mem_universalNewlines _
    · cases h
  rw [lineLength, lineAt, ofText, String.toList_ofList, splitLines_of_cr_not_mem hcr]
  split
  · rfl
  · rfl

/-! ### A command in its session -/

theorem extends_openSession (w : World) (c : SchemaChoice) :
    w.files.Extends (openSession w c).2.files :=
  Log.extends_configure _ _ _ _

/-- What is seen of a run depends on the command only through the session that is opened for it. -/
theorem withSession_congr {α : Type} (view : Report → α) {w : World} {c : SchemaChoice}
    {body body' : Session → Report}
    (h : view (body (openSession w c).2) = view (body' (openSession w c).2)) :
    view (withSession w c body) = view (withSession w c body') := by
  unfold withSession
  split
  · rfl
  · rename_i s hopen
    rwa [hopen] at h

section File

variable {s : Session} {file : String} {bytes : List UInt8} {text : List Char}
  (hfile : s.files.find (Path.ofString file) = .file bytes) (htext : readText bytes = .ok text)
include hfile htext

/-- Without a column the program takes the length of the line, as it counts lines. -/
theorem complete_none (line : Int) (newline objects : Bool) :
    complete s file line none newline objects =
      complete s file line (some ((ofText (String.ofList text)).lineAt line).length) newline
        objects := by
  simp only [complete, hfile, htext, Option.getD_none, Option.getD_some, lineLength_eq htext]

/-- On a blank line the objects that are printed do not depend on the column. -/
theorem output_complete_of_blankLine {line : Int}
    (hblank : blankLine ((ofText (String.ofList text)).lineAt
      (cursorLine (ofText (String.ofList text)) line)) = true)
    (newline : Bool) (column column' : Option Int) :
    (complete s file line column newline true).output =
      (complete s file line column' newline true).output := by
  have haccepted : accepts s.engine.triggers (if newline then some Completion.newline else none) =
      true := by
    cases newline with
    | false => rfl
    | true => exact accepts_newline s.engine.triggers
  simp only [complete, hfile, htext, Session.complete, Report.ofSession, if_true,
    complete_blank_offers s.engine s.files hblank _ haccepted]

end File

/-- The column that stands in for a missing one.  For the number of a line it is the end of the line
that completion uses, so that the whole run is the same.  Any other number is read as that of an
empty line, and the run is the one for column zero of the first or the last line, whichever is
nearer; the objects that are printed are still those for the end of that line if nothing is typed on
it. -/
theorem complete_default_column (w : World) (file : String) (line : Int) (newline : Bool)
    (choice : SchemaChoice) {bytes : List UInt8} {text : List Char}
    (hfile : w.files.find (Path.ofString file) = .file bytes) (htext : readText bytes = .ok text) :
    let doc := ofText (String.ofList text)
    let used := doc.lineAt (cursorLine doc line)
    let report (column : Option Int) (objects : Bool) :=
      (Command.complete file line column newline objects choice).run w
    (0 ≤ line → line < doc.lines.length →
      ∀ objects, report none objects = report (some used.length) objects) ∧
      (line < 0 ∨ doc.lines.length ≤ line →
        ∀ objects, report none objects = report (some 0) objects) ∧
      (blankLine used = true → (report none true).output =
        (report (some used.length) true).output) := by
  intro doc used report
  have hopened : (openSession w choice).2.files.find (Path.ofString file) = .file bytes :=
    Store.find_of_extends (extends_openSession w choice) hfile
  have hdefault : ∀ objects, report none objects = report (some (doc.lineAt line).length) objects :=
    fun objects =>
    withSession_congr id (complete_none hopened htext line newline objects)
  refine ⟨?_, ?_, ?_⟩
  · intro hpos hlt objects
    rw [hdefault, ← cursorLine_of_inside hpos hlt]
  · intro houtside objects
    rw [hdefault, lineAt_of_outside houtside]
    rfl
  · intro hblank
    exact withSession_congr Report.output
      (output_complete_of_blankLine hopened htext hblank newline _ _)

/-- A world with a schema that knows `Name`, and a file whose lines are `N` and `x`. -/
def twoLineWorld : World where
  files := modelFiles.set ["home", "d.yaml"] (.file ("N\r\nx".toList.map fun c => c.toNat.toUInt8))
  environment := []
  date := "today"
  input := ""
  keys := []

theorem complete_default_column_two_lines :
    let choice : SchemaChoice := ⟨some "m.yaml", none⟩
    let report (line : Int) (column : Option Int) :=
      (Command.complete "d.yaml" line column true true choice).run twoLineWorld
    twoLineWorld.files.find (Path.ofString "d.yaml") =
      .file ("N\r\nx".toList.map fun c => c.toNat.toUInt8) ∧
      readText ("N\r\nx".toList.map fun c => c.toNat.toUInt8) = .ok "N\nx".toList ∧
      report 1 none = report 1 (some 1) ∧ report (-1) none = report (-1) (some 0) := by
  intro choice report
  have hfile : twoLineWorld.files.find (Path.ofString "d.yaml") =
      .file ("N\r\nx".toList.map fun c => c.toNat.toUInt8) := by decide +kernel
  have htext : readText ("N\r\nx".toList.map fun c => c.toNat.toUInt8) = .ok "N\nx".toList := by
    decide +kernel
  refine ⟨hfile, htext, ?_, ?_⟩
  · exact (complete_default_column twoLineWorld "d.yaml" 1 true choice hfile htext).1 (by decide)
      (by decide) true
  · exact (complete_default_column twoLineWorld "d.yaml" (-1) true choice hfile htext).2.1
      (by decide) true

/-- Past the last line the default is not the end of the line that completion uses: there `x` is
typed and nothing is offered, but by default all properties are. -/
theorem past_last_line_default :
    let doc := ofText "N\nx"
    let output (column : List String) :=
      (run twoLineWorld (["complete", "d.yaml", "--line", "5", "--json", "--schema", "m.yaml"] ++
        column)).output
    (doc.lineAt (cursorLine doc 5)).length = 1 ∧ output ["--character", "1"] = "[]\n" ∧
      output [] ≠ "[]\n" := by
  decide +kernel

end Cli

end SchemaAssist
