/-
  Laws of lines and of the text before a cursor.

  A line is cut into its leading blanks and the rest.  The laws here say what such a cut determines:
  the indentation (`indent_append`), the trimmed text (`trim_append`), and what a cursor asks for
  once a field was typed out (`Request.ofTyped_field`).  The last section puts lines back together
  into a text (`exists_ofText`), so that a statement about lines is one about texts.
-/
import Mathlib.Data.List.TakeWhile
import SchemaAssist.Completion.Synthesis
import SchemaAssist.Text.Utf8

namespace SchemaAssist

namespace Text

/-! ### Trimming -/

theorem trimStart_eq_self {s : List Char} (h : ∀ c ∈ s.head?, isBlank c = false) :
    trimStart s = s := by
  cases s with
  | nil => rfl
  | cons c rest => simp [trimStart, h c rfl]

theorem trimEnd_eq_self {s : List Char} (h : ∀ c ∈ s.getLast?, isBlank c = false) :
    trimEnd s = s := by
  have hstart : trimStart s.reverse = s.reverse := trimStart_eq_self (by simpa using h)
  simpa [trimEnd, trimStart] using congrArg List.reverse hstart

/-- Blanks in front of a text are trimmed away. -/
theorem trim_append {ws : List Char} (hws : ∀ c ∈ ws, isBlank c = true) (s : List Char) :
    trim (ws ++ s) = trim s := by
  rw [trim, trim, trimStart, trimStart, List.dropWhile_append_of_pos hws]

theorem trimStart_of_blanks {s : List Char} (h : ∀ c ∈ s, isBlank c = true) : trimStart s = [] :=
  List.dropWhile_eq_nil_iff.mpr h

theorem trimEnd_of_blanks {s : List Char} (h : ∀ c ∈ s, isBlank c = true) : trimEnd s = [] := by
  have hrest : trimStart s.reverse = [] :=
    trimStart_of_blanks fun c hc => h c (List.mem_reverse.mp hc)
  rw [trimStart] at hrest
  rw [trimEnd, hrest]
  rfl

theorem trim_of_blanks {s : List Char} (h : ∀ c ∈ s, isBlank c = true) : trim s = [] := by
  rw [trim, trimStart_of_blanks h]
  rfl

/-- Blanks behind a text are trimmed away. -/
theorem trimEnd_append_blanks {ws : List Char} (hws : ∀ c ∈ ws, isBlank c = true) (s : List Char) :
    trimEnd (s ++ ws) = trimEnd s := by
  have hback : ∀ c ∈ ws.reverse, isBlank c = true := fun c hc => hws c (List.mem_reverse.mp hc)
  rw [trimEnd, List.reverse_append, List.dropWhile_append_of_pos hback, trimEnd]

theorem trimStart_append_of_ne_nil {s : List Char} (h : trimStart s ≠ []) (more : List Char) :
    trimStart (s ++ more) = trimStart s ++ more := by
  have hwritten : ¬ (s.dropWhile isBlank).isEmpty = true := mt List.isEmpty_iff.mp h
  rw [trimStart, List.dropWhile_append, if_neg hwritten, trimStart]

theorem trim_append_blanks {ws : List Char} (hws : ∀ c ∈ ws, isBlank c = true) (s : List Char) :
    trim (s ++ ws) = trim s := by
  by_cases hblank : trimStart s = []
  · have hall : ∀ c ∈ s, isBlank c = true := List.dropWhile_eq_nil_iff.mp hblank
    rw [trim_append hall, trim_of_blanks hws, trim_of_blanks hall]
  · rw [trim, trimStart_append_of_ne_nil hblank, trimEnd_append_blanks hws, trim]

theorem isPrefix_trimEnd (s : List Char) : trimEnd s <+: s := by
  rw [trimEnd, ← List.reverse_suffix, List.reverse_reverse]
  exact List.dropWhile_suffix isBlank

theorem trim_eq_self {s : List Char} (hstart : ∀ c ∈ s.head?, isBlank c = false)
    (hend : ∀ c ∈ s.getLast?, isBlank c = false) : trim s = s := by
  rw [trim, trimStart_eq_self hstart, trimEnd_eq_self hend]

/-! ### Line endings of a file -/

theorem universalNewlines_of_not_mem {chars : List Char} (h : ∀ c ∈ chars, c ≠ '\r') :
    universalNewlines chars = chars := by
  fun_induction universalNewlines chars with
  | case1 rest ih => exact absurd rfl (h '\r' List.mem_cons_self)
  | case2 rest hnext ih => exact absurd rfl (h '\r' List.mem_cons_self)
  | case3 c rest hpair hreturn ih => rw [ih (List.forall_mem_cons.mp h).2]
  | case4 => rfl

theorem cr_not_mem_universalNewlines (s : List Char) : '\r' ∉ universalNewlines s := by
  fun_induction universalNewlines s with
  | case1 rest ih => simpa using ih
  | case2 rest _ ih => simpa using ih
  | case3 c rest _ hcr ih =>
    rintro (_ | ⟨_, hmem⟩)
    · exact hcr rfl
    · exact ih hmem
  | case4 => simp

end Text

namespace Document

open Text

/-! ### Indentation and keys -/

@[simp] theorem indent_nil : indent [] = 0 := rfl

theorem takeWhile_isBlank_eq_nil {s : List Char} (hs : ∀ c ∈ s.head?, isBlank c = false) :
    s.takeWhile isBlank = [] := by
  cases s with
  | nil => rfl
  | cons c rest => simp [hs c rfl]

/-- The indentation of a line is the length of its leading blanks. -/
theorem indent_append {ws s : List Char} (hws : ∀ c ∈ ws, isBlank c = true)
    (hs : ∀ c ∈ s.head?, isBlank c = false) : indent (ws ++ s) = ws.length := by
  rw [indent, List.takeWhile_append_of_pos hws, takeWhile_isBlank_eq_nil hs, List.append_nil]

/-- A line that declares a key is not blank. -/
theorem blankLine_of_key? {line : Line} {k : String} (h : key? line = some k) :
    blankLine line = false := by
  by_contra hblank
  have hall : ∀ c ∈ line, isBlank c = true := by simpa [blankLine] using hblank
  rw [key?, trimStart_of_blanks hall] at h
  cases h

end Document

namespace Completion

open Document Text

/-! ### What a cursor asks for -/

theorem Request.ofTyped_of_colon {before : List Char} (h : (trimEnd before).getLast? = some ':') :
    ∃ property, Request.ofTyped before = .values property := by
  unfold Request.ofTyped
  rw [← List.head?_reverse] at h
  rcases List.head?_eq_some_iff.mp h with ⟨rest, hrest⟩
  rw [hrest]
  exact ⟨_, rfl⟩

theorem Request.ofTyped_of_not_colon {before : List Char}
    (h : (trimEnd before).getLast? ≠ some ':') :
    Request.ofTyped before = .properties (trim before) := by
  unfold Request.ofTyped
  split
  · rename_i rest hrest
    rw [← List.head?_reverse, hrest] at h
    exact (h rfl).elim
  · rfl

/-- Right after a field that was typed out, a cursor asks for the values of that field. -/
theorem Request.ofTyped_field {ws name : List Char} (hws : ∀ c ∈ ws, isBlank c = true)
    (hstart : ∀ c ∈ name.head?, isBlank c = false) (hend : ∀ c ∈ name.getLast?, isBlank c = false)
    (hmarker : name.head? ≠ some '-') :
    Request.ofTyped (ws ++ name ++ [':']) = .values (String.ofList name) := by
  have hkeep : trimEnd (ws ++ name ++ [':']) = ws ++ name ++ [':'] := by
    apply trimEnd_eq_self
    rw [List.getLast?_concat]
    rintro c ⟨⟩
    decide
  have hname : stripMarker (trim (ws ++ name)) = name := by
    rw [trim_append hws, trim_eq_self hstart hend]
    unfold stripMarker
    split
    · exact (hmarker rfl).elim
    · rfl
  unfold Request.ofTyped
  rw [hkeep, List.reverse_append]
  simp only [List.reverse_cons, List.reverse_nil, List.nil_append, List.cons_append]
  rw [List.reverse_reverse, hname]

end Completion

namespace Document

/-! ### Lines by number -/

theorem lineAt_of_outside {doc : Document} {line : Int} (h : line < 0 ∨ doc.lines.length ≤ line) :
    doc.lineAt line = [] := by
  rw [lineAt]
  split
  · rfl
  · rw [List.getD_eq_getElem?_getD, List.getElem?_eq_none (by omega), Option.getD_none]

theorem lineAt_natCast (doc : Document) (i : Nat) : doc.lineAt i = doc.lines[i]?.getD [] := by
  have hpos : ¬ (i : Int) < 0 := by omega
  rw [lineAt, if_neg hpos, Int.toNat_natCast, List.getD_eq_getElem?_getD]

theorem above_natCast (doc : Document) (i : Nat) : doc.above i = (doc.lines.take i).reverse := by
  rw [above, Int.toNat_natCast]

theorem below_natCast (doc : Document) (i : Nat) : doc.below i = doc.lines.drop (i + 1) := by
  have htoNat : ((i : Int) + 1).toNat = i + 1 := by omega
  rw [below, htoNat]

theorem drop_eq_lineAt_cons {doc : Document} {n : Nat} (hn : n < doc.lines.length) :
    doc.lines.drop n = doc.lineAt n :: doc.lines.drop (n + 1) := by
  rw [List.drop_eq_getElem_cons hn, lineAt_natCast, List.getElem?_eq_getElem hn, Option.getD_some]

/-! ### A line replaced -/

theorem above_set (doc : Document) (c : Nat) (line : Line) :
    (Document.mk (doc.lines.set c line)).above c = doc.above c := by
  rw [above_natCast, above_natCast, List.take_set_of_le (Nat.le_refl c)]

theorem below_set (doc : Document) (c : Nat) (line : Line) :
    (Document.mk (doc.lines.set c line)).below c = doc.below c := by
  rw [below_natCast, below_natCast, List.drop_set_of_lt (Nat.lt_succ_self c)]

theorem lineAt_set {doc : Document} {c : Nat} (hc : c < doc.lines.length) (line : Line) :
    (Document.mk (doc.lines.set c line)).lineAt c = line := by
  rw [lineAt_natCast, List.getElem?_set_self hc, Option.getD_some]

/-! ### Lines and texts -/

theorem splitLines_ne_nil (s : List Char) : splitLines s ≠ [] := by
  fun_cases splitLines s <;> simp

theorem splitLines_cons {c : Char} {rest : List Char} (hc : c ≠ '\n')
    (hcr : c = '\r' → rest.head? ≠ some '\n') :
    splitLines (c :: rest) = (c :: (splitLines rest).headD []) :: (splitLines rest).tail := by
  rw [splitLines.eq_3]
  · rw [if_neg hc]
    cases h : splitLines rest with
    | nil => exact (splitLines_ne_nil rest h).elim
    | cons line lines => rfl
  · intro tail hchar heq
    exact hcr hchar (by simp [heq])

/-- Every carriage return and line feed becomes a line feed; other carriage returns stay. -/
def replaceEndings : List Char → List Char
  | [] => []
  | '\r' :: '\n' :: rest => '\n' :: replaceEndings rest
  | c :: rest => c :: replaceEndings rest

/-- Cutting a text into lines is replacing its line endings and then cutting at each line feed. -/
theorem splitLines_eq_splitAt (s : List Char) :
    splitLines s = Text.splitAt '\n' (replaceEndings s) := by
  fun_induction splitLines s with
  | case1 => rfl
  | case2 rest ih => rw [replaceEndings, Text.splitAt, if_pos rfl, ih]
  | case3 rest hcr ih => rw [replaceEndings.eq_3 _ _ hcr, Text.splitAt, if_pos rfl, ih]
  | case4 c rest hcr hc line lines hlines ih =>
    rw [replaceEndings.eq_3 _ _ hcr, Text.splitAt, if_neg hc, ← ih, hlines]
  | case5 c rest hcr hc hnil ih => exact (splitLines_ne_nil rest hnil).elim

theorem replaceEndings_of_not_mem {s : List Char} (h : '\r' ∉ s) : replaceEndings s = s := by
  induction s with
  | nil => rfl
  | cons c rest ih =>
    rw [replaceEndings.eq_3, ih fun hmem => h (List.mem_cons_of_mem c hmem)]
    rintro tail rfl
    exact absurd List.mem_cons_self h

/-- No line of a text holds a line feed. -/
theorem newline_not_mem_splitLines (s : List Char) : ∀ line ∈ splitLines s, '\n' ∉ line := by
  fun_induction splitLines s with
  | case1 => simp
  | case2 rest ih => simpa using ih
  | case3 rest hcr ih => simpa using ih
  | case4 c rest hcr hc line lines hlines ih =>
    rw [hlines] at ih
    intro l hl
    rcases List.mem_cons.mp hl with rfl | hl
    · have hline : '\n' ∉ line := ih line (by simp)
      simpa [hline] using Ne.symm hc
    · exact ih l (by simp [hl])
  | case5 c rest hcr hc hnil ih => exact (splitLines_ne_nil rest hnil).elim

/-- A line without line feeds is split off at the carriage return and line feed after it. -/
theorem splitLines_append_crlf {line : Line} (h : '\n' ∉ line) (rest : List Char) :
    splitLines (line ++ '\r' :: '\n' :: rest) = line :: splitLines rest := by
  induction line with
  | nil => rw [List.nil_append, splitLines]
  | cons c line ih =>
    have hc : c ≠ '\n' := fun heq => h (by simp [heq])
    have hline : '\n' ∉ line := fun hmem => h (by simp [hmem])
    rw [List.cons_append, splitLines_cons hc]
    · rw [ih hline]
      rfl
    · intro _ hhead
      cases line with
      | nil => simp at hhead
      | cons d line =>
        obtain rfl : d = '\n' := by simpa using hhead
        exact hline (by simp)

theorem splitLines_of_not_mem {line : Line} (h : '\n' ∉ line) : splitLines line = [line] := by
  induction line with
  | nil => rw [splitLines]
  | cons c line ih =>
    have hc : c ≠ '\n' := fun heq => h (by simp [heq])
    have hline : '\n' ∉ line := fun hmem => h (by simp [hmem])
    rw [splitLines_cons hc, ih hline]
    · rfl
    · intro _ hhead
      exact hline (List.mem_of_mem_head? hhead)

/-- Lines without line feeds are the lines of some text. -/
theorem exists_ofText {lines : List Line} (hne : lines ≠ []) (h : ∀ line ∈ lines, '\n' ∉ line) :
    ∃ text, (ofText text).lines = lines := by
  suffices hchars : ∃ s, splitLines s = lines by
    obtain ⟨s, hs⟩ := hchars
    exact ⟨String.ofList s, by simp [ofText, hs]⟩
  induction lines with
  | nil => exact (hne rfl).elim
  | cons line rest ih =>
    have hline : '\n' ∉ line := h line (by simp)
    cases rest with
    | nil => exact ⟨line, splitLines_of_not_mem hline⟩
    | cons next rest =>
      obtain ⟨s, hs⟩ := ih (by simp) (fun l hl => h l (by simp [hl]))
      exact ⟨line ++ '\r' :: '\n' :: s, by rw [splitLines_append_crlf hline, hs]⟩

theorem newline_not_mem_lineAt (text : String) (n : Int) : '\n' ∉ (ofText text).lineAt n := by
  unfold lineAt
  split
  · exact List.not_mem_nil
  · rw [List.getD_eq_getElem?_getD]
    cases hline : (ofText text).lines[n.toNat]? with
    | none => exact List.not_mem_nil
    | some line => exact newline_not_mem_splitLines text.toList line (List.mem_of_getElem? hline)

/-- A text in which a line was replaced by one without line feeds is still a text. -/
theorem exists_ofText_set (text : String) (c : Nat) {line : Line} (h : '\n' ∉ line) :
    ∃ edited, ofText edited = ⟨(ofText text).lines.set c line⟩ := by
  have hne : (ofText text).lines.set c line ≠ [] := by
    rw [Ne, List.set_eq_nil_iff]
    exact splitLines_ne_nil text.toList
  obtain ⟨edited, hedited⟩ := exists_ofText hne (by
    intro other hother
    rcases List.mem_or_eq_of_mem_set hother with hold | rfl
    · exact newline_not_mem_splitLines text.toList other hold
    · exact h)
  exact ⟨edited, congrArg Document.mk hedited⟩

end Document

end SchemaAssist
