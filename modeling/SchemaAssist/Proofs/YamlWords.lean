/-
  Plain words and how they are scanned.

  A word is made of ASCII letters, digits, underscores and dots.  Whatever it looks like (a truth
  value, a number, null, even the mark at the end of a document), the scan of a plain scalar takes
  it as it stands: up to the mark right behind it (`plainScalar_inline`), or up to the end of its
  line if the next line is not indented deeper (`plainScalar_break`).

  Cursors are described by what lies ahead of them (`Cursor.Before`), so that a scan is followed
  through a text of which only the beginning is known.
-/
import Mathlib.Data.List.TakeWhile
import SchemaAssist.Yaml.Scalar

namespace SchemaAssist.Yaml

/-! ### The characters of a word -/

/-- The ASCII letters and digits, the underscore and the dot. -/
def isWordChar (c : Char) : Bool := c.isAlphanum || c == '_' || c == '.'

/-- Characters that cannot be taken for a gap, a comment or a byte order mark. -/
def isSolid (c : Char) : Bool := !isBreak c && c != ' ' && c != '#' && c != '\ufeff'

/-- A character that takes one column. -/
def isInline (c : Char) : Bool := !isBreak c && c != '\ufeff'

section WordChars

variable {c : Char}

theorem ne_of_isWordChar (h : isWordChar c = true) {x : Char} (hx : isWordChar x = false) :
    c ≠ x := by
  rintro rfl
  rw [h] at hx
  cases hx

theorem isBreak_of_isWordChar (h : isWordChar c = true) : isBreak c = false := by
  have hne {x : Char} (hx : isWordChar x = false) : (c == x) = false :=
    beq_false_of_ne (ne_of_isWordChar h hx)
  simp only [isBreak, hne (x := '\n') (by decide), hne (x := '\x85') (by decide),
    hne (x := '\u2028') (by decide),
    hne (x := '\u2029') (by decide), Bool.or_self]

theorem isGap_of_isWordChar (h : isWordChar c = true) : isGap c = false := by
  have hne {x : Char} (hx : isWordChar x = false) : (c == x) = false :=
    beq_false_of_ne (ne_of_isWordChar h hx)
  simp only [isGap, isSpaceOrEnd, isBreakOrEnd, isBreak_of_isWordChar h, endOfText,
    hne (x := '\t') (by decide),
    hne (x := ' ') (by decide), hne (x := '\x00') (by decide), Bool.or_self]

theorem isSolid_of_isWordChar (h : isWordChar c = true) : isSolid c = true := by
  have hne {x : Char} (hx : isWordChar x = false) : (c != x) = true :=
    bne_iff_ne.mpr (ne_of_isWordChar h hx)
  simp only [isSolid, isBreak_of_isWordChar h, hne (x := ' ') (by decide),
    hne (x := '#') (by decide),
    hne (x := '\ufeff') (by decide), Bool.not_false, Bool.and_self]

theorem isInline_of_isSolid (h : isSolid c = true) : isInline c = true := by
  simp only [isSolid, Bool.and_eq_true] at h
  simp only [isInline, h.1.1.1, h.2, Bool.and_self]

/-- No character of a word starts anything but a plain scalar. -/
theorem ne_mark_of_isWordChar (h : isWordChar c = true) :
    ∀ x ∈ "-?:,[]\x7b\x7d#&*!|>'\"%@`".toList, c ≠ x := by
  have hmarks : ("-?:,[]\x7b\x7d#&*!|>'\"%@`".toList.all fun x => !isWordChar x) = true := by decide
  intro x hx
  have hmark := List.all_eq_true.mp hmarks x hx
  exact ne_of_isWordChar h (by simpa using hmark)

theorem isFlowMark_of_isWordChar (h : isWordChar c = true) : isFlowMark c = false := by
  have hne := ne_mark_of_isWordChar h
  simp only [isFlowMark, beq_false_of_ne (hne ',' (by decide)),
    beq_false_of_ne (hne '[' (by decide)),
    beq_false_of_ne (hne ']' (by decide)), beq_false_of_ne (hne '\x7b' (by decide)),
    beq_false_of_ne (hne '\x7d' (by decide)), Bool.or_self]

theorem printable_of_isWordChar (h : isWordChar c = true) : 0x20 ≤ c.toNat ∧ c.toNat ≤ 0x7E := by
  have hclass : (((decide (c.val ≥ 'A'.val ∧ c.val ≤ 'Z'.val) ||
      (decide (c.val ≥ 'a'.val) && decide (c.val ≤ 'z'.val))) ||
      (decide (c.val ≥ '0'.val) && decide (c.val ≤ '9'.val))) || c == '_' || c == '.') = true := h
  simp only [Bool.or_eq_true, Bool.and_eq_true, decide_eq_true_eq, beq_iff_eq,
    UInt32.le_iff_toNat_le,
    ge_iff_le] at hclass
  rcases hclass with ((hletter | hdigit) | rfl) | rfl
  · change (65 ≤ c.toNat ∧ c.toNat ≤ 90) ∨ (97 ≤ c.toNat ∧ c.toNat ≤ 122) at hletter
    omega
  · change 48 ≤ c.toNat ∧ c.toNat ≤ 57 at hdigit
    omega
  · decide
  · decide

end WordChars

/-! ### Cursors before a known text -/

/-- A text that starts with neither a gap nor a comment. -/
def Solid (text : List Char) : Prop := ∀ ch ∈ text.head?, isSolid ch = true

theorem solid_cons {ch : Char} (h : isSolid ch = true) (rest : List Char) : Solid (ch :: rest) := by
  rintro x ⟨⟩
  exact h

theorem Solid.head {rest : List Char} (h : Solid rest) :
    isBreak (rest.headD endOfText) = false ∧ rest.headD endOfText ≠ ' ' ∧
      rest.headD endOfText ≠ '#' ∧
      rest.headD endOfText ≠ '\ufeff' := by
  cases rest with
  | nil => decide
  | cons ch rest =>
    have hch : isSolid ch = true := h ch rfl
    simpa [isSolid, and_assoc] using hch

theorem Solid.takeWhile_spaces {rest : List Char} (h : Solid rest) (n : Nat) :
    (List.replicate n ' ' ++ rest).takeWhile (· == ' ') = List.replicate n ' ' := by
  have hstop : rest.takeWhile (· == ' ') = [] := by
    cases rest with
    | nil => rfl
    | cons ch rest =>
      have hne : (ch == ' ') = false := beq_false_of_ne h.head.2.1
      simp [hne]
  rw [List.takeWhile_append_of_pos (by simp), hstop, List.append_nil]

namespace Cursor

/-- A cursor before the given text, at the given column. -/
structure Before (c : Cursor) (rest : List Char) (column : Nat) : Prop where
  rest_eq : c.rest = rest
  left_eq : c.left = rest.length
  column_eq : c.column = column

section Before

variable {c : Cursor} {rest : List Char} {column : Nat}

theorem Before.head_eq (h : c.Before rest column) : c.head = rest.headD endOfText := by
  rw [Cursor.head, h.rest_eq]

theorem Before.skip {run : List Char} (h : c.Before (run ++ rest) column)
    (hrun : ∀ ch ∈ run, isInline ch = true) :
    (c.skip run.length).Before rest (column + run.length) ∧ (c.skip run.length).line = c.line ∧
      (c.skip run.length).index = c.index + run.length := by
  induction run generalizing c column with
  | nil => exact ⟨h, rfl, rfl⟩
  | cons ch run ih =>
    have hch : isBreak ch = false ∧ ch ≠ '\ufeff' := by
      simpa [isInline] using hrun ch List.mem_cons_self
    have hrest : c.rest = ch :: (run ++ rest) := h.rest_eq
    have hnext : c.next = ⟨run ++ rest, c.index + 1, c.line, c.column + 1, c.size⟩ := by
      rw [Cursor.next, hrest]
      simp only [hch.1, if_neg hch.2, Bool.false_eq_true, if_false]
    have hleft : c.size - c.index = (run ++ rest).length + 1 := h.left_eq
    have hbefore : c.next.Before (run ++ rest) (column + 1) := by
      rw [hnext]
      exact ⟨rfl, by simp only [Cursor.left]; omega, by simp only [h.column_eq]⟩
    obtain ⟨hskip, hline, hindex⟩ := ih hbefore (fun x hx => hrun x (List.mem_cons_of_mem ch hx))
    rw [List.length_cons, Cursor.skip]
    refine ⟨?_, ?_, ?_⟩
    · rwa [show column + 1 + run.length = column + (run.length + 1) by omega] at hskip
    · rw [hline, hnext]
    · rw [hindex, hnext]
      simp only
      omega

theorem Before.next {ch : Char} (h : c.Before (ch :: rest) column) (hch : isInline ch = true) :
    c.next.Before rest (column + 1) := by
  have hone : c.Before ([ch] ++ rest) column := h
  exact (hone.skip (by simpa using hch)).1

theorem Before.next_break (h : c.Before ('\n' :: rest) column) : c.next.Before rest 0 := by
  have hrest : c.rest = '\n' :: rest := h.rest_eq
  have hleft : c.size - c.index = rest.length + 1 := h.left_eq
  have hnext : c.next = ⟨rest, c.index + 1, c.line + 1, 0, c.size⟩ := by
    rw [Cursor.next, hrest]
    rfl
  rw [hnext]
  exact ⟨rfl, by simp only [Cursor.left]; omega, rfl⟩

theorem Before.skip_spaces {n : Nat} (h : c.Before (List.replicate n ' ' ++ rest) column) :
    (c.skip n).Before rest (column + n) := by
  have hinline : ∀ ch ∈ List.replicate n ' ', isInline ch = true := by
    intro ch hch
    rw [List.eq_of_mem_replicate hch]
    decide
  have hskip := (h.skip hinline).1
  rwa [List.length_replicate] at hskip

theorem Before.span_spaces {n : Nat} (h : c.Before (List.replicate n ' ' ++ rest) column)
    (hrest : Solid rest) :
    c.span (· == ' ') = (List.replicate n ' ', c.skip n) := by
  rw [Cursor.span, h.rest_eq, hrest.takeWhile_spaces, List.length_replicate]

end Before

/-! ### Going forward -/

theorem left_next_le (c : Cursor) : c.next.left ≤ c.left := by
  unfold Cursor.next
  split
  · exact Nat.le_refl _
  · split
    · simp only [Cursor.left]
      omega
    · simp only [Cursor.left]
      omega

theorem left_skip_le (c : Cursor) (n : Nat) : (c.skip n).left ≤ c.left := by
  induction n generalizing c with
  | zero => exact Nat.le_refl _
  | succ n ih => exact Nat.le_trans (ih c.next) (left_next_le c)

theorem left_lineBreak_le (c : Cursor) : c.lineBreak.2.left ≤ c.left := by
  unfold Cursor.lineBreak
  dsimp only
  split
  · exact left_next_le c
  · split
    · exact left_next_le c
    · exact Nat.le_refl _

theorem atMark_eq_false {c : Cursor} {ch : Char} {rest : List Char} (hrest : c.rest = ch :: rest)
    (mark : Char) (hne : ch ≠ mark) : c.atMark mark = false := by
  simp [Cursor.atMark, hrest, hne]

end Cursor

/-- A text that starts with no document mark. -/
def Unmarked (text : List Char) : Prop := ∀ c : Cursor, c.rest = text → c.atDocumentMark = false

/-- A line that may follow an entry: it starts with no gap, comment or document mark. -/
structure Clear (text : List Char) : Prop where
  solid : Solid text
  unmarked : Unmarked text

theorem Clear.spaces {text : List Char} (h : Clear text) (n : Nat) :
    Unmarked (List.replicate n ' ' ++ text) := by
  cases n with
  | zero => exact h.unmarked
  | succ n =>
    intro c hrest
    have hcons : c.rest = ' ' :: (List.replicate n ' ' ++ text) := hrest
    rw [Cursor.atDocumentMark, Cursor.atMark_eq_false hcons '-' (by decide),
      Cursor.atMark_eq_false hcons '.' (by decide)]
    rfl

/-! ### Words -/

/-- A word. -/
structure Word where
  chars : List Char
  nonempty : chars ≠ []
  plain : ∀ c ∈ chars, isWordChar c = true

namespace Word

def text (w : Word) : String := String.ofList w.chars

variable (w : Word)

theorem exists_cons : ∃ c rest, w.chars = c :: rest ∧ isWordChar c = true := by
  cases h : w.chars with
  | nil => exact (w.nonempty h).elim
  | cons c rest => exact ⟨c, rest, rfl, w.plain c (by rw [h]; exact List.mem_cons_self)⟩

theorem inline : ∀ c ∈ w.chars, isInline c = true := by
  intro c hc
  exact isInline_of_isSolid (isSolid_of_isWordChar (w.plain c hc))

theorem solid (rest : List Char) : Solid (w.chars ++ rest) := by
  obtain ⟨c, more, hchars, hc⟩ := w.exists_cons
  rw [hchars]
  exact solid_cons (isSolid_of_isWordChar hc) _

/-- Not even three dots are a document mark if something follows at once. -/
theorem unmarked {mark : Char} (hgap : isGap mark = false) (hmark : mark ≠ '.') (rest : List Char) :
    Unmarked (w.chars ++ mark :: rest) := by
  intro c hrest
  have hhyphen : c.atMark '-' = false := by
    obtain ⟨first, more, hchars, hfirst⟩ := w.exists_cons
    rw [hchars] at hrest
    exact Cursor.atMark_eq_false hrest '-' (ne_of_isWordChar hfirst (by decide))
  have hdot : c.atMark '.' = false := by
    have hplain := w.plain
    match hchars : w.chars with
    | [] => exact (w.nonempty hchars).elim
    | [a] => simp [Cursor.atMark, hrest, hchars, hmark]
    | [a, b] => simp [Cursor.atMark, hrest, hchars, hmark]
    | [a, b, d] => simp [Cursor.atMark, Cursor.peek, hrest, hchars, hgap]
    | a :: b :: d :: e :: more =>
      have he : isGap e = false := isGap_of_isWordChar (hplain e (by simp [hchars]))
      simp [Cursor.atMark, Cursor.peek, hrest, hchars, he]
  rw [Cursor.atDocumentMark, hhyphen, hdot]
  rfl

end Word

/-! ### The gap behind a word -/

section Gap

variable {c : Cursor} {n column : Nat} {rest : List Char}

theorem plainBreaks_spaces {fuel : Nat} (h : c.Before (List.replicate n ' ' ++ rest) column)
    (hrest : Solid rest) (hfuel : n < fuel) : plainBreaks fuel c = (some [], c.skip n) := by
  induction n generalizing c column fuel with
  | zero =>
    obtain ⟨fuel, rfl⟩ : ∃ more, fuel = more + 1 := ⟨fuel - 1, by omega⟩
    have hhead : c.head = rest.headD endOfText := h.head_eq
    have hspace : ¬ c.head = ' ' := by rw [hhead]; exact hrest.head.2.1
    have hbreak : isBreak c.head = false := by rw [hhead]; exact hrest.head.1
    rw [plainBreaks, if_neg hspace, hbreak]
    rfl
  | succ n ih =>
    obtain ⟨fuel, rfl⟩ : ∃ more, fuel = more + 1 := ⟨fuel - 1, by omega⟩
    have hhead : c.head = ' ' := h.head_eq
    have hnext : c.next.Before (List.replicate n ' ' ++ rest) (column + 1) :=
      Cursor.Before.next h (by decide)
    rw [plainBreaks, if_pos hhead, ih hnext (by omega)]
    rfl

theorem plainGap_solid (h : c.Before rest column) (hrest : Solid rest) :
    plainGap c = ([], c, false) := by
  have hspan : c.span (· == ' ') = ([], c) := Cursor.Before.span_spaces (n := 0) h hrest
  have hbreak : isBreak c.head = false := by rw [h.head_eq]; exact hrest.head.1
  simp only [plainGap, hspan, hbreak, Bool.false_eq_true, if_false]

theorem plainGap_break (h : c.Before ('\n' :: (List.replicate n ' ' ++ rest)) column)
    (hrest : Clear rest) :
    plainGap c = ([' '], c.next.skip n, true) := by
  have hhead : c.head = '\n' := h.head_eq
  have hspan : c.span (· == ' ') = ([], c) := by
    rw [Cursor.span, h.rest_eq]
    rfl
  have hbreak : isBreak c.head = true := by rw [hhead]; decide
  have hline : c.lineBreak = (['\n'], c.next) := by simp [Cursor.lineBreak, hhead]
  have hunmarked : c.next.atDocumentMark = false := hrest.spaces n c.next h.next_break.rest_eq
  have hfuel : n < c.next.left + 1 := by
    rw [h.next_break.left_eq, List.length_append, List.length_replicate]
    omega
  simp only [plainGap, hspan, hbreak, if_true, hline, hunmarked, Bool.false_eq_true, if_false,
    plainBreaks_spaces h.next_break hrest.solid hfuel]
  rfl

end Gap

/-! ### A word as a plain scalar -/

theorem plainLength_word {flow : Bool} {word rest : List Char}
    (hword : ∀ c ∈ word, isWordChar c = true) (hstop : plainLength flow rest = 0) :
    plainLength flow (word ++ rest) = word.length := by
  induction word with
  | nil => exact hstop
  | cons c word ih =>
    have hc : isWordChar c = true := hword c List.mem_cons_self
    have hne := ne_mark_of_isWordChar hc
    rw [List.cons_append, plainLength]
    simp only [isGap_of_isWordChar hc, isFlowMark_of_isWordChar hc, hne ':' (by decide),
      hne '?' (by decide),
      false_and, or_self, and_false, if_false, Bool.false_eq_true, List.length_cons,
      ih fun x hx => hword x (List.mem_cons_of_mem c hx)]

section PlainScalar

variable {c : Cursor} {column : Nat} {rest : List Char} {flow : Bool} {indent : Int} (w : Word)

/-- The first stretch of a plain scalar that starts with a word is the word; the gap behind it
decides whether the scalar goes on. -/
theorem plainScalar_eq (h : c.Before (w.chars ++ rest) column) (hstop : plainLength flow rest = 0) :
    plainScalar flow indent c =
      (let gap := plainGap (c.skip w.chars.length)
      if gap.1.isEmpty ∨ gap.2.1.head = '#' ∨ (¬ flow ∧ (gap.2.1.column : Int) < indent) then
        (w.chars, gap.2.1, gap.2.2)
      else
        let more := plainStretches flow indent c.left gap.2.1 gap.1 gap.2.2
        (w.chars ++ more.1, more.2.1, more.2.2)) := by
  obtain ⟨first, others, hchars, hfirst⟩ := w.exists_cons
  have hcomment : ¬ c.head = '#' := by
    rw [h.head_eq, hchars]
    exact ne_of_isWordChar hfirst (by decide)
  have hlength : plainLength flow c.rest = w.chars.length := by
    rw [h.rest_eq]
    exact plainLength_word w.plain hstop
  have hnonzero : ¬ w.chars.length = 0 := by simp [hchars]
  have htake : c.rest.take w.chars.length = w.chars := by rw [h.rest_eq, List.take_left]
  rw [plainScalar, plainStretches]
  simp only [if_neg hcomment, hlength, if_neg hnonzero, htake, List.nil_append]

/-- A word that is followed at once by a mark is read as it stands. -/
theorem plainScalar_inline (h : c.Before (w.chars ++ rest) column)
    (hstop : plainLength flow rest = 0) (hrest : Solid rest) :
    plainScalar flow indent c = (w.chars, c.skip w.chars.length, false) := by
  rw [plainScalar_eq w h hstop, plainGap_solid (h.skip w.inline).1 hrest]
  simp

/-- A word at the end of a line is read as it stands, if the next line is not indented deeper. -/
theorem plainScalar_break {n : Nat}
    (h : c.Before (w.chars ++ '\n' :: (List.replicate n ' ' ++ rest)) column) (hrest : Clear rest)
    (hindent : (n : Int) < indent) :
    plainScalar false indent c = (w.chars, (c.skip w.chars.length).next.skip n, true) := by
  have hstop : plainLength false ('\n' :: (List.replicate n ' ' ++ rest)) = 0 := rfl
  have hcolumn : ((c.skip w.chars.length).next.skip n).column = n := by
    have hafter := (h.skip w.inline).1.next_break.skip_spaces.column_eq
    omega
  rw [plainScalar_eq w h hstop, plainGap_break (h.skip w.inline).1 hrest]
  simp [hcolumn, hindent]

end PlainScalar

end SchemaAssist.Yaml
