/-
  Scanning a document of nested blocks.

  An outline is what stands behind a key: a word, a list of words in brackets, or a block of further
  entries two columns deeper.  `Block.written` is its text and `Block.tokens` its tokens, and the
  scanner turns the one into the other (`tokens_written`).

  The scan is followed from state to state: `Leads s t` says that scanning from `s` goes on as
  scanning from `t`.  Before the next entry the scanner is `Ready` for a key; behind a value it is
  `Between` two lines, and how many blocks the next line closes is not known until its column is.
  One lemma for each kind of value and one for a key carry the induction over the outline.
-/
import SchemaAssist.Proofs.YamlScanning
import SchemaAssist.Proofs.YamlWords

namespace SchemaAssist.Yaml

/-! ### Outlines -/

/-- A word that is written before a colon: it must end in time to be recognised as a key. -/
structure Label extends Word where
  short : chars.length ≤ 1024

mutual

/-- A document of nested blocks: what stands behind a key. -/
inductive Outline where
  /-- A word on the line of the key. -/
  | word (w : Word)
  /-- A list of words in brackets on the line of the key. -/
  | words (ws : List Word)
  /-- A block below the key. -/
  | block (b : Block)

/-- The entries of a block, of which there is at least one. -/
inductive Block where
  | last (key : Label) (value : Outline)
  | entry (key : Label) (value : Outline) (rest : Block)

end

/-- The text of words that are separated by commas. -/
def listed : List Word → List Char
  | [] => []
  | w :: ws => w.chars ++ ws.flatMap fun w => ',' :: ' ' :: w.chars

mutual

/-- The text behind the colon of a key at a column, with the end of the line. -/
def Outline.written (column : Nat) : Outline → List Char
  | .word w => ' ' :: (w.chars ++ ['\n'])
  | .words ws => ' ' :: '[' :: (listed ws ++ [']', '\n'])
  | .block b => '\n' :: (List.replicate (column + 2) ' ' ++ b.written (column + 2))

/-- The text of a block at a column, from its first key on. -/
def Block.written (column : Nat) : Block → List Char
  | .last key value => key.chars ++ ':' :: value.written column
  | .entry key value rest =>
    key.chars ++ ':' :: (value.written column ++ (List.replicate column ' ' ++ rest.written column))

end

def listedTokens : List Word → List Token
  | [] => []
  | w :: ws => .scalar w.text :: ws.flatMap fun w => [.flowEntry, .scalar w.text]

mutual

/-- The tokens of what stands behind a key. -/
def Outline.tokens : Outline → List Token
  | .word w => [.scalar w.text]
  | .words ws => .flowSequenceStart :: (listedTokens ws ++ [.flowSequenceEnd])
  | .block b => .blockMappingStart :: (b.tokens ++ [.blockEnd])

/-- The tokens of the entries of a block. -/
def Block.tokens : Block → List Token
  | .last key value => .key :: .scalar key.text :: .value :: value.tokens
  | .entry key value rest => .key :: .scalar key.text :: .value :: (value.tokens ++ rest.tokens)

end

theorem Outline.written_cons (o : Outline) (column : Nat) :
    ∃ ahead rest, o.written column = ahead :: rest ∧ isGap ahead = true := by
  cases o with
  | word w => exact ⟨' ', _, by rw [Outline.written], by decide⟩
  | words ws => exact ⟨' ', _, by rw [Outline.written], by decide⟩
  | block b => exact ⟨'\n', _, by rw [Outline.written], by decide⟩

theorem Block.clear (b : Block) (column : Nat) (rest : List Char) :
    Clear (b.written column ++ rest) := by
  cases b with
  | last key value =>
    rw [Block.written, List.append_assoc, List.cons_append]
    exact ⟨key.solid _, key.unmarked (by decide) (by decide) _⟩
  | entry key value more =>
    rw [Block.written, List.append_assoc, List.cons_append]
    exact ⟨key.solid _, key.unmarked (by decide) (by decide) _⟩

namespace Scanner

open Cursor

/-! ### Gaps -/

/-- The scanner past the gaps before its next token. -/
def rested (s : Scanner) :
    Except Error Scanner := (skipGaps (s.cursor.left + 1) s.skipByteOrderMark).dropExpired

theorem step_of_rested {s u : Scanner} (h : s.rested = .ok u) :
    s.step = (u.unwind u.cursor.column).tokenAt := by
  have hstep : s.step = s.rested >>= fun u => (u.unwind u.cursor.column).tokenAt := rfl
  rw [hstep, h]
  rfl

/-- A scanner between tokens that has no key in mind. -/
def idle (c : Cursor) (done : List Token) (flow : Nat) (indent : Int) (indents : List Int)
    (allowed : Bool) : Scanner :=
  ⟨c, done, done.length, flow, indent, indents, allowed, []⟩

theorem close_of_rested {s u : Scanner} {c : Cursor} {done : List Token} {flow : Nat} {indent : Int}
    {indents : List Int} {allowed : Bool} (h : s.rested = .ok u)
    (hu : u.unwind (-1) = idle c done flow indent indents allowed) : s.close = done.reverse := by
  have hfinish : s.finish = .ok done.reverse := by
    unfold rested at h
    simp only [finish, h, bind, Except.bind, hu]
    rfl
  unfold close
  split
  · rename_i ts hts
    rw [hfinish] at hts
    exact (Except.ok.inj hts).symm
  · rename_i e he
    rw [hfinish] at he
    cases he

section Gaps

variable {s : Scanner} {rest : List Char} {column n : Nat}

theorem skipByteOrderMark_of_head (h : s.cursor.head ≠ '\ufeff') : s.skipByteOrderMark = s :=
  if_neg fun hmark => h hmark.2

theorem skipGaps_spaces (h : s.cursor.Before (List.replicate n ' ' ++ rest) column)
    (hrest : Solid rest) (fuel : Nat) :
    skipGaps (fuel + 1) s = s.moveTo (s.cursor.skip n) := by
  have hhead : (s.cursor.skip n).head = rest.headD endOfText := h.skip_spaces.head_eq
  have hsolid := hrest.head
  rw [← hhead] at hsolid
  simp only [skipGaps, Cursor.skipWhile, h.span_spaces hrest, if_neg hsolid.2.2.1, hsolid.1,
    Bool.false_eq_true,
    if_false]

theorem skipGaps_break (h : s.cursor.Before ('\n' :: (List.replicate n ' ' ++ rest)) column)
    (hrest : Solid rest) (fuel : Nat) :
    skipGaps (fuel + 2) s =
      { s with cursor := s.cursor.next.skip n, keyAllowed := s.keyAllowed || s.flow == 0 } := by
  have hhead : s.cursor.head = '\n' := h.head_eq
  have hstay : s.cursor.skipWhile (· == ' ') = s.cursor := by
    rw [Cursor.skipWhile, Cursor.span, h.rest_eq]
    rfl
  have hcomment : ¬ s.cursor.head = '#' := by rw [hhead]; decide
  have hbreak : isBreak s.cursor.head = true := by rw [hhead]; decide
  have hnext : s.cursor.lineBreak.2 = s.cursor.next := by simp [Cursor.lineBreak, hhead]
  rw [skipGaps]
  simp only [hstay, if_neg hcomment, hbreak, if_true, hnext]
  rw [skipGaps_spaces h.next_break hrest]
  rfl

theorem rested_eq (h : s.cursor.Before (List.replicate n ' ' ++ rest) column) (hrest : Solid rest) :
    s.rested = (s.moveTo (s.cursor.skip n)).dropExpired := by
  have hmark : s.skipByteOrderMark = s := by
    apply skipByteOrderMark_of_head
    rw [h.head_eq]
    cases n with
    | zero => exact hrest.head.2.2.2
    | succ n =>
      change ' ' ≠ '\ufeff'
      decide
  rw [rested, hmark, skipGaps_spaces h hrest]

variable {c : Cursor} {done : List Token} {flow : Nat} {indent : Int} {indents : List Int}
    {allowed : Bool}

theorem rested_spaces (h : c.Before (List.replicate n ' ' ++ rest) column) (hrest : Solid rest) :
    (idle c done flow indent indents allowed).rested =
      .ok (idle (c.skip n) done flow indent indents allowed) := by
  rw [rested_eq h hrest]
  rfl

theorem rested_break (h : c.Before ('\n' :: (List.replicate n ' ' ++ rest)) column)
    (hrest : Solid rest) :
    (idle c done 0 indent indents allowed).rested =
      .ok (idle (c.next.skip n) done 0 indent indents true) := by
  have hmark : (idle c done 0 indent indents allowed).skipByteOrderMark =
      idle c done 0 indent indents allowed := by
    apply skipByteOrderMark_of_head
    change c.head ≠ '\ufeff'
    rw [h.head_eq]
    change '\n' ≠ '\ufeff'
    decide
  have hfuel : (idle c done 0 indent indents allowed).cursor.left + 1 =
      (List.replicate n ' ' ++ rest).length + 2 := by
    change c.left + 1 = _
    rw [h.left_eq]
    rfl
  rw [rested, hmark, hfuel, skipGaps_break h hrest]
  simp only [idle, Bool.or_true, beq_self_eq_true]
  rfl

end Gaps

/-! ### Closing blocks -/

theorem unwindTo_of_le {column indent : Int} (h : indent ≤ column) (indents : List Int) :
    unwindTo column indent indents = (0, indent, indents) := by
  cases indents with
  | nil => rfl
  | cons outer rest => rw [unwindTo, if_neg (Int.not_lt.mpr h)]

theorem unwindTo_of_lt {column indent : Int} (h : column < indent) (outer : Int) (rest : List Int) :
    unwindTo column indent (outer :: rest) =
      ((unwindTo column outer rest).1 + 1, (unwindTo column outer rest).2) := by
  rw [unwindTo, if_pos h]

theorem unwindTo_unwindTo {a b : Int} (h : a ≤ b) (indent : Int) (indents : List Int) :
    unwindTo a indent indents =
      ((unwindTo a (unwindTo b indent indents).2.1 (unwindTo b indent indents).2.2).1 +
        (unwindTo b indent indents).1,
        (unwindTo a (unwindTo b indent indents).2.1 (unwindTo b indent indents).2.2).2) := by
  induction indents generalizing indent with
  | nil => rfl
  | cons outer rest ih =>
    by_cases hb : b < indent
    · rw [unwindTo_of_lt hb, unwindTo_of_lt (Int.lt_of_le_of_lt h hb), ih outer]
      rfl
    · rw [unwindTo_of_le (Int.not_lt.mp hb)]
      rfl

theorem unwind_of_le {s : Scanner} {column : Int} (h : s.indent ≤ column) :
    s.unwind column = s := by
  unfold unwind
  split
  · rw [unwindTo_of_le h]
    rfl
  · rfl

theorem unwind_unwind {a b : Int} (h : a ≤ b) (s : Scanner) :
    (s.unwind b).unwind a = s.unwind a := by
  by_cases hflow : s.flow = 0
  · have hb : s.unwind b =
        { s with
          emitted := List.replicate (unwindTo b s.indent s.indents).1 .blockEnd ++ s.emitted
          count := s.count + (unwindTo b s.indent s.indents).1
          indent := (unwindTo b s.indent s.indents).2.1
          indents := (unwindTo b s.indent s.indents).2.2 } := if_pos hflow
    rw [hb, unwind, unwind, if_pos hflow, if_pos hflow, unwindTo_unwindTo h s.indent s.indents]
    simp only [← List.append_assoc, List.replicate_append_replicate, Nat.add_assoc]
    rw [Nat.add_comm (unwindTo a _ _).1]
  · have hsame : s.unwind b = s := if_neg hflow
    rw [hsame]

/-- A block that is one level deeper than the given column is closed. -/
theorem unwind_idle {a b : Int} (h : a < b) (c : Cursor) (done : List Token) (indents : List Int)
    (allowed : Bool) :
    (idle c done 0 b (a :: indents) allowed).unwind a =
      idle c (.blockEnd :: done) 0 a indents allowed := by
  have hto : unwindTo a b (a :: indents) = (1, a, indents) := by
    rw [unwindTo_of_lt h, unwindTo_of_le (Int.le_refl a)]
  simp only [unwind, idle, hto, if_true]
  rfl

/-! ### Runs -/

/-- Scanning from one scanner goes on as scanning from the other, with steps to spare. -/
def Leads (s t : Scanner) : Prop :=
  ∀ fuel, s.cursor.left < fuel → ∃ fuel', t.cursor.left < fuel' ∧ s.run none fuel = t.run none fuel'

theorem Leads.trans {s t u : Scanner} (hst : Leads s t) (htu : Leads t u) : Leads s u := by
  intro fuel hfuel
  obtain ⟨fuel', hfuel', hrun⟩ := hst fuel hfuel
  obtain ⟨fuel'', hfuel'', hrun'⟩ := htu fuel' hfuel'
  exact ⟨fuel'', hfuel'', hrun.trans hrun'⟩

theorem Leads.of_step {s t : Scanner} (hstep : s.step = .ok (some t))
    (hlt : t.cursor.left < s.cursor.left) :
    Leads s t := by
  intro fuel hfuel
  obtain ⟨more, rfl⟩ : ∃ more, fuel = more + 1 := ⟨fuel - 1, by omega⟩
  refine ⟨more, by omega, ?_⟩
  rw [run_succ, hstep]
  rfl

theorem left_skipGaps_le (fuel : Nat) (s : Scanner) :
    (skipGaps fuel s).cursor.left ≤ s.cursor.left := by
  induction fuel generalizing s with
  | zero => exact Nat.le_refl _
  | succ fuel ih =>
    unfold skipGaps
    dsimp only
    generalize hspaces : s.cursor.skipWhile (· == ' ') = spaces
    generalize hc : (if spaces.head = '#' then spaces.skipWhile (!isBreakOrEnd ·) else spaces) = c
    have hline : c.left ≤ s.cursor.left := by
      have hle : spaces.left ≤ s.cursor.left := by
        rw [← hspaces]
        exact left_skip_le s.cursor _
      rw [← hc]
      split
      · exact Nat.le_trans (left_skip_le spaces _) hle
      · exact hle
    split
    · exact Nat.le_trans (ih _) (Nat.le_trans (left_lineBreak_le c) hline)
    · exact hline

theorem left_rested_le {s u : Scanner} (h : s.rested = .ok u) : u.cursor.left ≤ s.cursor.left := by
  have hgaps := left_skipGaps_le (s.cursor.left + 1) s.skipByteOrderMark
  have hmark : s.skipByteOrderMark.cursor.left ≤ s.cursor.left := by
    unfold skipByteOrderMark
    split
    · exact left_next_le s.cursor
    · exact Nat.le_refl _
  unfold rested dropExpired at h
  split at h
  · cases h
  · cases h
    exact Nat.le_trans hgaps hmark

theorem cursor_unwind (s : Scanner) (column : Int) : (s.unwind column).cursor = s.cursor := by
  unfold unwind
  split
  · rfl
  · rfl

/-! ### The token at the cursor -/

variable {s u : Scanner} {c : Cursor} {rest : List Char} {column : Nat} {done : List Token}
    {flow : Nat} {indent : Int}
  {indents : List Int}

theorem tokenAt_word {ch : Char} (hrest : s.cursor.rest = ch :: rest) (hword : isWordChar ch = true)
    (hmark : s.cursor.column = 0 → s.cursor.atDocumentMark = false) :
    s.tokenAt = some <$> s.plainToken := by
  have hne := ne_mark_of_isWordChar hword
  have hgap := isGap_of_isWordChar hword
  have hhead : s.cursor.head = ch := by rw [Cursor.head, hrest]; rfl
  have hhyphen : s.cursor.atMark '-' = false := by
    simp [Cursor.atMark, hrest, hne '-' (by decide)]
  have hdots : ¬ (s.cursor.column = 0 ∧ s.cursor.atMark '.' = true) := by
    rintro ⟨hcolumn, hdots⟩
    have hnone := hmark hcolumn
    simp [Cursor.atDocumentMark, hdots] at hnone
  have hplain : s.startsPlain = true := by
    have hstarts : "-?:,[]\x7b\x7d#&*!|>'\"%@`".toList.contains ch = false := by
      rw [← Bool.not_eq_true, List.contains_iff_mem]
      exact fun hmem => hne ch hmem rfl
    simp only [startsPlain, hhead, hgap, hstarts, Bool.or_self, Bool.not_false, Bool.true_or]
  simp only [tokenAt, hhead, hrest, hhyphen, hplain, List.isEmpty_cons, hne '%' (by decide),
    hne '[' (by decide),
    hne '\x7b' (by decide), hne ']' (by decide), hne '\x7d' (by decide), hne ',' (by decide),
      hne '-' (by decide),
    hne '?' (by decide), hne ':' (by decide), hne '*' (by decide), hne '&' (by decide),
      hne '!' (by decide),
    hne '|' (by decide), hne '>' (by decide), hne '\'' (by decide), hne '"' (by decide), false_and,
      and_false,
    or_self, if_false, if_true, if_neg hdots, Bool.false_eq_true]

theorem tokenAt_colon {ahead : Char} (hrest : s.cursor.rest = ':' :: ahead :: rest)
    (hgap : isGap ahead = true) :
    s.tokenAt = some <$> s.valueToken := by
  have hhead : s.cursor.head = ':' := by rw [Cursor.head, hrest]; rfl
  have hpeek : s.cursor.peek 1 = ahead := by rw [Cursor.peek, hrest]; rfl
  simp [tokenAt, hhead, hrest, hpeek, hgap, Cursor.atMark_eq_false hrest '-' (by decide),
    Cursor.atMark_eq_false hrest '.' (by decide)]

theorem tokenAt_bracket (hrest : s.cursor.rest = '[' :: rest) :
    s.tokenAt = some <$> s.openBracket .flowSequenceStart := by
  have hhead : s.cursor.head = '[' := by rw [Cursor.head, hrest]; rfl
  simp [tokenAt, hhead, hrest, Cursor.atMark_eq_false hrest '-' (by decide),
    Cursor.atMark_eq_false hrest '.' (by decide)]

theorem tokenAt_closing (hrest : s.cursor.rest = ']' :: rest) :
    s.tokenAt = some <$> s.closeBracket .flowSequenceEnd := by
  have hhead : s.cursor.head = ']' := by rw [Cursor.head, hrest]; rfl
  simp [tokenAt, hhead, hrest, Cursor.atMark_eq_false hrest '-' (by decide),
    Cursor.atMark_eq_false hrest '.' (by decide)]

theorem tokenAt_comma (hrest : s.cursor.rest = ',' :: rest) :
    s.tokenAt = some <$> s.flowEntryToken := by
  have hhead : s.cursor.head = ',' := by rw [Cursor.head, hrest]; rfl
  simp [tokenAt, hhead, hrest, Cursor.atMark_eq_false hrest '-' (by decide),
    Cursor.atMark_eq_false hrest '.' (by decide)]

theorem tokenAt_end (hrest : s.cursor.rest = []) : s.tokenAt = .ok none := by
  rw [tokenAt, hrest]
  rfl

/-! ### One step -/

/-- A scanner after a token that may turn out to be a key. -/
def marked (c : Cursor) (done : List Token) (flow : Nat) (indent : Int) (indents : List Int)
    (key : PossibleKey) :
    Scanner :=
  ⟨c, done, done.length, flow, indent, indents, false, [(flow, key)]⟩

theorem markKey_idle (c : Cursor) (done : List Token) (flow : Nat) (indent : Int)
    (indents : List Int) :
    (idle c done flow indent indents true).markKey =
      .ok ⟨c, done, done.length, flow, indent, indents, true,
        [(flow, ⟨done.length, flow == 0 &&
          indent == (c.column : Int), c.index, c.line, c.column⟩)]⟩ := rfl

theorem plainToken_eq {text : List Char} {after : Cursor} {broken : Bool}
    (hmark : s.markKey = .ok u)
    (hplain : plainScalar (decide (0 < u.flow)) (u.indent + 1) u.cursor = (text, after, broken)) :
    s.plainToken = .ok (((u.allowKey broken).emit (.scalar (String.ofList text))).moveTo
      after) := by
  have hbind : s.plainToken = s.markKey >>= fun u =>
      let scan := plainScalar (decide (0 < u.flow)) (u.indent + 1) u.cursor
      pure (((u.allowKey scan.2.2).emit (.scalar (String.ofList scan.1))).moveTo scan.2.1) := rfl
  rw [hbind, hmark]
  simp only [bind, Except.bind, hplain]
  rfl

theorem step_word (w : Word) (hrested : s.rested = .ok u)
    (hu : u.unwind u.cursor.column = idle c done flow indent indents true)
    (h : c.Before (w.chars ++ rest) column) (hmark : column = 0 → Unmarked (w.chars ++ rest))
    (hstop : plainLength (decide (0 < flow)) rest = 0) (hrest : Solid rest) :
    s.step = .ok (some (marked (c.skip w.chars.length) (.scalar w.text :: done) flow indent indents
      ⟨done.length, flow == 0 && indent == (c.column : Int), c.index, c.line, c.column⟩)) := by
  obtain ⟨ch, others, hchars, hch⟩ := w.exists_cons
  have hword : (idle c done flow indent indents true).cursor.rest = ch :: (others ++ rest) := by
    rw [← List.cons_append, ← hchars]
    exact h.rest_eq
  have hplain : plainScalar (decide (0 < flow)) (indent + 1) c =
      (w.chars, c.skip w.chars.length, false) :=
    plainScalar_inline w h hstop hrest
  rw [step_of_rested hrested, hu, tokenAt_word hword hch
    fun hcolumn => hmark (h.column_eq ▸ hcolumn) c h.rest_eq]
  rw [plainToken_eq (markKey_idle c done flow indent indents) hplain]
  rfl

/-- A colon after a word that started deeper than the block opens a block. -/
theorem valueToken_deeper {t : Token} {required : Bool} {index line : Nat} (h : indent < column) :
    (marked c (t :: done) 0 indent indents
      ⟨done.length, required, index, line, column⟩).valueToken =
      .ok (idle c.next (.value :: t :: .key :: .blockMappingStart :: done) 0 column
        (indent :: indents) false) := by
  have hone : done.length + 1 - done.length = 1 := by omega
  have htwo : done.length + 1 + 1 - done.length = 2 := by omega
  simp [valueToken, marked, idle, emitAt, openBlock, h, hone, htwo, allowKey, emit, moveTo, pure,
    Except.pure]

theorem valueToken_same {t : Token} {required : Bool} {index line : Nat} :
    (marked c (t :: done) 0 column indents
      ⟨done.length, required, index, line, column⟩).valueToken =
      .ok (idle c.next (.value :: t :: .key :: done) 0 column indents false) := by
  have hone : done.length + 1 - done.length = 1 := by omega
  simp [valueToken, marked, idle, emitAt, openBlock, hone, allowKey, emit, moveTo, pure,
    Except.pure]

theorem rested_marked {key : PossibleKey} (h : c.Before rest column) (hrest : Solid rest)
    (hline : key.line = c.line) (hindex : c.index ≤ key.index + 1024) :
    (marked c done flow indent indents key).rested =
      .ok (marked c done flow indent indents key) := by
  have hfresh : (marked c done flow indent indents key).expired key = false := by
    have hnear : ¬ 1024 < c.index - key.index := by omega
    simp [expired, marked, hline, hnear]
  have hstay : (marked c done flow indent indents key).rested =
      (marked c done flow indent indents key).dropExpired :=
    rested_eq (n := 0) h hrest
  rw [hstay, dropExpired]
  simp [marked] at hfresh ⊢
  simp [hfresh]

/-! ### A key of a block -/

/-- The scanner stands before an entry of a block at a column.  The block is open, or the entry
opens it; the tokens and columns are those after it is open. -/
inductive Ready (s : Scanner) (rest : List Char) (column : Nat) : List Token → List Int → Prop where
  | same {u : Scanner} {c : Cursor} {done : List Token} {indents : List Int} (hrested : s.rested =
    .ok u)
      (hu : u.unwind column = idle c done 0 column indents true) (h : c.Before rest column) :
      Ready s rest column done indents
  | deeper {u : Scanner} {c : Cursor} {done : List Token} {indent : Int} {indents : List Int}
      (hrested : s.rested = .ok u) (hu : u.unwind column = idle c done 0 indent indents true)
      (h : c.Before rest column) (hlt : indent < column) :
      Ready s rest column (.blockMappingStart :: done) (indent :: indents)

theorem cursor_of_unwind {back : Int} {allowed : Bool}
    (hu : u.unwind back = idle c done flow indent indents allowed) :
    u.cursor = c := by
  rw [← cursor_unwind u back, hu]
  rfl

/-- A word is read, and may be a key. -/
theorem leads_word (w : Word) (hrested : s.rested = .ok u)
    (hu : u.unwind column = idle c done flow indent indents true)
    (h : c.Before (w.chars ++ rest) column) (hmark : column = 0 → Unmarked (w.chars ++ rest))
    (hstop : plainLength (decide (0 < flow)) rest = 0) (hrest : Solid rest) :
    Leads s (marked (c.skip w.chars.length) (.scalar w.text :: done) flow indent indents
      ⟨done.length, flow == 0 && indent == (c.column : Int), c.index, c.line, c.column⟩) := by
  have hcursor : u.cursor = c := cursor_of_unwind hu
  have hcolumn : (u.cursor.column : Int) = column := by rw [hcursor, h.column_eq]
  apply Leads.of_step (step_word w hrested (by rw [hcolumn, hu]) h hmark hstop hrest)
  have hleft : c.left ≤ s.cursor.left := by
    rw [← hcursor]
    exact left_rested_le hrested
  have hlength : 0 < w.chars.length := List.length_pos_iff.mpr w.nonempty
  change (c.skip w.chars.length).left < s.cursor.left
  rw [(h.skip w.inline).1.left_eq]
  rw [h.left_eq, List.length_append] at hleft
  omega

theorem step_colon {t : Token} {ahead : Char} {key : PossibleKey} {next : Scanner}
    (h : c.Before (':' :: ahead :: rest) column) (hgap : isGap ahead = true)
    (hline : key.line = c.line) (hindex : c.index ≤ key.index + 1024) (hindent : indent ≤ column)
    (hvalue : (marked c (t :: done) 0 indent indents key).valueToken = .ok next) :
    (marked c (t :: done) 0 indent indents key).step = .ok (some next) := by
  have hsolid : Solid (':' :: ahead :: rest) := solid_cons (by decide) _
  have hunwind : (marked c (t :: done) 0 indent indents key).unwind c.column =
      marked c (t :: done) 0 indent indents key := by
    apply unwind_of_le
    rw [h.column_eq]
    exact hindent
  rw [step_of_rested (rested_marked h hsolid hline hindex)]
  change ((marked c (t :: done) 0 indent indents key).unwind c.column).tokenAt = _
  rw [hunwind, tokenAt_colon h.rest_eq hgap, hvalue]
  rfl

/-- A key with its colon is read, if the colon is known to give the next scanner. -/
theorem leads_colon (k : Label) {ahead : Char} {done' : List Token} {indents' : List Int}
    (hrested : s.rested = .ok u)
    (hu : u.unwind column = idle c done' 0 indent indents' true)
      (h : c.Before (k.chars ++ ':' :: ahead :: rest) column)
    (hindent : indent ≤ column) (hgap : isGap ahead = true)
    (hvalue : ∀ c' required index line,
      (marked c' (.scalar k.text :: done') 0 indent indents'
        ⟨done'.length, required, index, line, column⟩).valueToken =
        .ok (idle c'.next done 0 column indents false)) :
    ∃ c', c'.Before (ahead :: rest) (column + k.chars.length + 1) ∧
      Leads s (idle c' done 0 column indents false) := by
  have hsolid : Solid (':' :: ahead :: rest) := solid_cons (by decide) _
  have hstop : plainLength false (':' :: ahead :: rest) = 0 := by
    have hcolon : isGap ':' = false := by decide
    simp [plainLength, hgap, hcolon]
  obtain ⟨hbefore, hline, hindex⟩ := h.skip k.inline
  have hafter := hbefore.next (by decide)
  have hunmarked : Unmarked (k.chars ++ ':' :: ahead :: rest) :=
    k.unmarked (by decide) (by decide) _
  refine ⟨_, hafter, (leads_word k.toWord hrested hu h (fun _ => hunmarked) hstop hsolid).trans ?_⟩
  apply Leads.of_step
  · apply step_colon hbefore hgap hline.symm
    · change (c.skip k.chars.length).index ≤ c.index + 1024
      have hshort := k.short
      omega
    · omega
    · rw [h.column_eq]
      exact hvalue _ _ _ _
  · change (c.skip k.chars.length).next.left < (c.skip k.chars.length).left
    rw [hafter.left_eq, hbefore.left_eq]
    simp

/-- A key is read up to what stands behind its colon. -/
theorem leads_key (k : Label) (o : Outline)
    (hready : Ready s (k.chars ++ ':' :: (o.written column ++ rest)) column done indents) :
    ∃ c, c.Before (o.written column ++ rest) (column + k.chars.length + 1) ∧
      Leads s (idle c (.value :: .scalar k.text :: .key :: done) 0 column indents false) := by
  obtain ⟨ahead, behind, hwritten, hgap⟩ := o.written_cons column
  rw [hwritten, List.cons_append] at hready ⊢
  cases hready with
  | same hrested hu h =>
    exact leads_colon k hrested hu h (Int.le_refl _) hgap fun _ _ _ _ => valueToken_same
  | deeper hrested hu h hlt =>
    exact leads_colon k hrested hu h (Int.le_of_lt hlt) hgap fun _ _ _ _ => valueToken_deeper hlt

/-! ### A value on the line of its key -/

/-- The scanner stands before a line at a column, where the blocks up to `indent` are open once
those that are deeper have been closed. -/
def Between (s : Scanner) (rest : List Char) (column : Nat) (done : List Token) (indent : Int)
    (indents : List Int) :
    Prop :=
  ∃ u c, s.rested = .ok u ∧ u.unwind indent = idle c done 0 indent indents true ∧
    c.Before rest column

theorem Between.ready (h : Between s rest column done column indents) :
    Ready s rest column done indents := by
  obtain ⟨u, c, hrested, hu, hbefore⟩ := h
  exact .same hrested hu hbefore

/-- The block of a line that is further out is reached by closing one block more. -/
theorem Between.close {outer : Int} (h : Between s rest column done indent (outer :: indents))
    (hlt : outer < indent) :
    Between s rest column (.blockEnd :: done) outer indents := by
  obtain ⟨u, c, hrested, hu, hbefore⟩ := h
  refine ⟨u, c, hrested, ?_, hbefore⟩
  rw [← unwind_unwind (Int.le_of_lt hlt) u, hu, unwind_idle hlt]

/-- At the end of a line the scanner stands before the next one. -/
theorem between_break {n : Nat} {allowed : Bool}
    (h : c.Before ('\n' :: (List.replicate n ' ' ++ rest)) column) (hrest : Solid rest) :
    Between (idle c done 0 indent indents allowed) rest n done indent indents := by
  have hbefore := h.next_break.skip_spaces
  rw [Nat.zero_add] at hbefore
  refine ⟨_, _, rested_break h hrest, ?_, hbefore⟩
  exact unwind_of_le (Int.le_refl indent)

/-- A line that is indented deeper opens a block. -/
theorem ready_break {n : Nat} {allowed : Bool}
    (h : c.Before ('\n' :: (List.replicate n ' ' ++ rest)) column) (hrest : Solid rest)
    (hlt : indent < n) :
    Ready (idle c done 0 indent indents allowed) rest n (.blockMappingStart :: done)
      (indent :: indents) := by
  have hbefore := h.next_break.skip_spaces
  rw [Nat.zero_add] at hbefore
  exact .deeper (rested_break h hrest) (unwind_of_le (Int.le_of_lt hlt)) hbefore hlt

/-- Behind the colon of a key no block is closed, so that the next token on the line is read at
once. -/
theorem step_on_line {n : Nat} {allowed : Bool} (h : c.Before (List.replicate n ' ' ++ rest) column)
    (hrest : Solid rest) (hindent : indent ≤ column) :
    (idle c done 0 indent indents allowed).step =
      (idle (c.skip n) done 0 indent indents allowed).tokenAt := by
  have hcolumn : indent ≤ ((c.skip n).column : Int) := by
    rw [h.skip_spaces.column_eq]
    omega
  have hunwind : (idle (c.skip n) done 0 indent indents allowed).unwind (c.skip n).column =
      idle (c.skip n) done 0 indent indents allowed := unwind_of_le hcolumn
  rw [step_of_rested (rested_spaces h hrest)]
  exact congrArg tokenAt hunwind

/-- A word on the line of its key is read up to the next line, if that is not indented deeper. -/
theorem leads_word_value (w : Word) {n : Nat}
    (h : c.Before (' ' :: (w.chars ++ '\n' :: (List.replicate n ' ' ++ rest))) column)
    (hindent : indent ≤ column) (hn : n ≤ indent) (hrest : Clear rest) :
    ∃ t, Leads (idle c done 0 indent indents false) t ∧
      Between t rest n (.scalar w.text :: done) indent indents := by
  have hspace : c.Before (List.replicate 1 ' ' ++
      (w.chars ++ '\n' :: (List.replicate n ' ' ++ rest))) column := h
  have hword := hspace.skip_spaces
  obtain ⟨ch, others, hchars, hch⟩ := w.exists_cons
  have hcons : (idle (c.skip 1) done 0 indent indents false).cursor.rest =
      ch :: (others ++ '\n' :: (List.replicate n ' ' ++ rest)) := by
    rw [← List.cons_append, ← hchars]
    exact hword.rest_eq
  have hplain : plainScalar false (indent + 1) (c.skip 1) =
      (w.chars, ((c.skip 1).skip w.chars.length).next.skip n, true) :=
    plainScalar_break w hword hrest (by omega)
  have hafter := (hword.skip w.inline).1.next_break.skip_spaces
  rw [Nat.zero_add] at hafter
  have hstep : (idle c done 0 indent indents false).step =
      .ok (some (idle (((c.skip 1).skip w.chars.length).next.skip n)
        (.scalar w.text :: done) 0 indent indents
        true)) := by
    rw [step_on_line hspace (w.solid _) hindent, tokenAt_word hcons hch,
      plainToken_eq (u := idle (c.skip 1) done 0 indent indents false) rfl hplain]
    · rfl
    · intro hcolumn
      have hpos := hword.column_eq
      change (c.skip 1).column = 0 at hcolumn
      omega
  refine ⟨_, Leads.of_step hstep ?_, _, _, rested_spaces (n := 0) hafter hrest.solid,
    unwind_of_le (Int.le_refl indent), hafter⟩
  change (((c.skip 1).skip w.chars.length).next.skip n).left < c.left
  rw [hafter.left_eq, h.left_eq]
  simp only [List.length_cons, List.length_append]
  omega

/-! ### A list in brackets -/

/-- A scanner inside brackets with some keys in mind. -/
def inBrackets (c : Cursor) (done : List Token) (indent : Int) (indents : List Int) (allowed : Bool)
    (keys : List (Nat × PossibleKey)) : Scanner :=
  ⟨c, done, done.length, 1, indent, indents, allowed, keys⟩

/-- Inside brackets nothing has to be a key. -/
def Optional (keys : List (Nat × PossibleKey)) : Prop := ∀ e ∈ keys, e.1 = 1 ∧ e.2.required = false

theorem rested_inBrackets {allowed : Bool} {keys : List (Nat × PossibleKey)}
    (h : c.Before rest column) (hrest : Solid rest) (hkeys : Optional keys) :
    ∃ keys', Optional keys' ∧
      (inBrackets c done indent indents allowed keys).rested =
        .ok (inBrackets c done indent indents allowed keys') := by
  -- On a long line keys expire, but none of them has to be one.
  have hnone : (keys.any fun e => (inBrackets c done indent indents allowed keys).expired e.2 &&
      e.2.required) =
      false := by
    rw [List.any_eq_false]
    intro e he
    simp [(hkeys e he).2]
  refine ⟨keys.filter fun e => !(inBrackets c done indent indents allowed keys).expired e.2,
    fun e he => hkeys e (List.mem_filter.mp he).1, ?_⟩
  have hstay : (inBrackets c done indent indents allowed keys).rested =
      (inBrackets c done indent indents allowed keys).dropExpired := rested_eq (n := 0) h hrest
  rw [hstay, dropExpired]
  change (if (keys.any fun e => (inBrackets c done indent indents allowed keys).expired e.2 &&
    e.2.required) = true
    then _ else _) = _
  rw [hnone]
  rfl

theorem dropKey_inBrackets {allowed : Bool} {keys : List (Nat × PossibleKey)}
    (hkeys : Optional keys) :
    (inBrackets c done indent indents allowed keys).dropKey =
      .ok (idle c done 1 indent indents allowed) := by
  have hnone : (keys.any fun e => e.1 == 1 && e.2.required) = false := by
    rw [List.any_eq_false]
    intro e he
    simp [(hkeys e he).2]
  have hall : (keys.filter fun e => e.1 != 1) = [] := by
    rw [List.filter_eq_nil_iff]
    intro e he
    simp [(hkeys e he).1]
  rw [dropKey]
  change (if (keys.any fun e => e.1 == 1 && e.2.required) = true then _ else _) = _
  rw [hnone]
  simp only [inBrackets, hall]
  rfl

theorem step_inBrackets {allowed : Bool} {keys : List (Nat × PossibleKey)} {next : Option Scanner}
    (h : c.Before rest column) (hrest : Solid rest) (hkeys : Optional keys)
    (htoken : ∀ keys', Optional keys' →
      (inBrackets c done indent indents allowed keys').tokenAt = .ok next) :
    (inBrackets c done indent indents allowed keys).step = .ok next := by
  obtain ⟨keys', hkeys', hrested⟩ := rested_inBrackets h hrest hkeys
  rw [step_of_rested hrested]
  exact htoken keys' hkeys'

theorem step_comma {allowed : Bool} {keys : List (Nat × PossibleKey)}
    (h : c.Before (',' :: rest) column) (hkeys : Optional keys) :
    (inBrackets c done indent indents allowed keys).step =
      .ok (some (idle c.next (.flowEntry :: done) 1 indent indents true)) := by
  have hsolid : Solid (',' :: rest) := solid_cons (by decide) _
  apply step_inBrackets h hsolid hkeys
  intro keys' hkeys'
  have hdrop : ((inBrackets c done indent indents allowed keys').allowKey true).dropKey =
      .ok (idle c done 1 indent indents true) := dropKey_inBrackets hkeys'
  rw [tokenAt_comma h.rest_eq, flowEntryToken, hdrop]
  rfl

theorem step_closing {allowed : Bool} {keys : List (Nat × PossibleKey)}
    (h : c.Before (']' :: rest) column) (hkeys : Optional keys) :
    (inBrackets c done indent indents allowed keys).step =
      .ok (some (idle c.next (.flowSequenceEnd :: done) 0 indent indents false)) := by
  have hsolid : Solid (']' :: rest) := solid_cons (by decide) _
  apply step_inBrackets h hsolid hkeys
  intro keys' hkeys'
  have hflow : ¬ (inBrackets c done indent indents allowed keys').flow = 0 := Nat.one_ne_zero
  rw [tokenAt_closing h.rest_eq, closeBracket, if_neg hflow, dropKey_inBrackets hkeys']
  rfl

theorem optional_marked {key : PossibleKey} (h : key.required = false) : Optional [(1, key)] := by
  intro e he
  rw [List.mem_singleton.mp he]
  exact ⟨rfl, h⟩

/-- A word inside brackets is read up to the mark behind it. -/
theorem leads_item (w : Word) {n : Nat} {mark : Char}
    (h : c.Before (List.replicate n ' ' ++ (w.chars ++ mark :: rest)) column)
    (hmark : mark = ',' ∨ mark = ']') :
    ∃ c' keys column', Optional keys ∧ c'.Before (mark :: rest) column' ∧
      Leads (idle c done 1 indent indents true)
        (inBrackets c' (.scalar w.text :: done) indent indents false keys) := by
  have hword := h.skip_spaces
  have hafter := (hword.skip w.inline).1
  obtain ⟨hsolid, hgap, hdot, hstop⟩ :
      isSolid mark = true ∧ isGap mark = false ∧ mark ≠ '.' ∧
        plainLength true (mark :: rest) = 0 := by
    rcases hmark with rfl | rfl
    · exact ⟨by decide, by decide, by decide, rfl⟩
    · exact ⟨by decide, by decide, by decide, rfl⟩
  exact ⟨_, _, _, optional_marked rfl, hafter,
    leads_word w (rested_spaces h (w.solid _)) rfl hword (fun _ => w.unmarked hgap hdot rest) hstop
      (solid_cons hsolid rest)⟩

theorem leads_mark {keys : List (Nat × PossibleKey)} {allowed : Bool} {ch : Char} {next : Scanner}
    (h : c.Before (ch :: rest) column) (hch : isInline ch = true) (hnext : next.cursor = c.next)
    (hstep : (inBrackets c done indent indents allowed keys).step = .ok (some next)) :
    Leads (inBrackets c done indent indents allowed keys) next := by
  apply Leads.of_step hstep
  change next.cursor.left < c.left
  rw [hnext, (h.next hch).left_eq, h.left_eq]
  simp

/-- The words of a list are read one by one, up to the closing bracket. -/
theorem leads_listed (w : Word) (ws : List Word) {n : Nat}
    (h : c.Before (List.replicate n ' ' ++ (listed (w :: ws) ++ ']' :: rest)) column) :
    ∃ c' column', c'.Before rest column' ∧ Leads (idle c done 1 indent indents true)
      (idle c' (.flowSequenceEnd :: ((listedTokens (w :: ws)).reverse ++ done)) 0 indent indents
        false) := by
  induction ws generalizing w c n column done with
  | nil =>
    have hitem : c.Before (List.replicate n ' ' ++ (w.chars ++ ']' :: rest)) column := by
      simpa [listed] using h
    obtain ⟨c', keys, column', hkeys, hbefore, hword⟩ := leads_item w hitem (Or.inr rfl)
    refine ⟨c'.next, column' + 1, hbefore.next (by decide), hword.trans ?_⟩
    exact leads_mark hbefore (by decide) rfl (step_closing hbefore hkeys)
  | cons next ws ih =>
    have hitem : c.Before (List.replicate n ' ' ++
        (w.chars ++ ',' :: (' ' :: (listed (next :: ws) ++ ']' :: rest))))
        column := by
      simpa [listed] using h
    obtain ⟨c', keys, column', hkeys, hbefore, hword⟩ := leads_item w hitem (Or.inl rfl)
    have hcomma : Leads (inBrackets c' (.scalar w.text :: done) indent indents false keys)
        (idle c'.next (.flowEntry :: .scalar w.text :: done) 1 indent indents true) :=
      leads_mark hbefore (by decide) rfl (step_comma hbefore hkeys)
    obtain ⟨c'', column'', hbefore'', hrest⟩ := ih next (n := 1) (hbefore.next (by decide))
    refine ⟨c'', column'', hbefore'', hword.trans (hcomma.trans ?_)⟩
    simpa [listedTokens] using hrest

theorem leads_words (ws : List Word)
    (h : c.Before (' ' :: '[' :: (listed ws ++ ']' :: rest)) column) (hindent : indent ≤ column) :
    ∃ c' column', c'.Before rest column' ∧ Leads (idle c done 0 indent indents false)
      (idle c' (.flowSequenceEnd :: ((listedTokens ws).reverse ++ .flowSequenceStart :: done)) 0
        indent indents false) := by
  have hspace : c.Before (List.replicate 1 ' ' ++ '[' :: (listed ws ++ ']' :: rest)) column := h
  have hbracket := hspace.skip_spaces
  have hsolid : Solid ('[' :: (listed ws ++ ']' :: rest)) := solid_cons (by decide) _
  have hstep : (idle c done 0 indent indents false).step =
      .ok (some (idle (c.skip 1).next (.flowSequenceStart :: done) 1 indent indents true)) := by
    rw [step_on_line hspace hsolid hindent, tokenAt_bracket hbracket.rest_eq]
    rfl
  have hinside := hbracket.next (by decide)
  have hopen : Leads (idle c done 0 indent indents false)
      (idle (c.skip 1).next (.flowSequenceStart :: done) 1 indent indents true) := by
    apply Leads.of_step hstep
    change (c.skip 1).next.left < c.left
    rw [hinside.left_eq, h.left_eq]
    simp only [List.length_cons]
    omega
  cases ws with
  | nil =>
    have hnone : Optional [] := fun e he => by cases he
    refine ⟨_, _, hinside.next (by decide), hopen.trans ?_⟩
    exact leads_mark hinside (by decide) rfl (step_closing hinside hnone)
  | cons w ws =>
    obtain ⟨c', column', hbefore, hwords⟩ := leads_listed w ws (n := 0) hinside
    exact ⟨c', column', hbefore, hopen.trans hwords⟩

mutual

/-- What stands behind a key is read up to the next line that is not indented deeper than the key.
-/
theorem leads_outline (o : Outline) {c : Cursor} {rest : List Char} {column n m : Nat}
    {done : List Token} {indents : List Int}
    (h : c.Before (o.written n ++ (List.replicate m ' ' ++ rest)) column) (hcolumn : n ≤ column)
    (hm : m ≤ n) (hrest : Clear rest) :
    ∃ t, Leads (idle c done 0 n indents false) t ∧
      Between t rest m (o.tokens.reverse ++ done) n indents := by
  cases o with
  | word w =>
    rw [Outline.written, List.cons_append, List.append_assoc] at h
    rw [Outline.tokens]
    exact leads_word_value w h (by omega) (by omega) hrest
  | words ws =>
    rw [Outline.written, List.cons_append, List.cons_append, List.append_assoc] at h
    rw [Outline.tokens]
    have hindent : (n : Int) ≤ column := by omega
    obtain ⟨c', column', hbefore, hleads⟩ := leads_words ws h hindent
    exact ⟨_, hleads, by simpa using between_break hbefore hrest.solid⟩
  | block b =>
    rw [Outline.written, List.cons_append, List.append_assoc] at h
    rw [Outline.tokens]
    have hlt : (n : Int) < (n + 2 : Nat) := by omega
    have hready : Ready (idle c done 0 n indents false) _ (n + 2) (.blockMappingStart :: done)
        (n :: indents) :=
      ready_break h (b.clear (n + 2) _).solid hlt
    obtain ⟨t, hleads, hbetween⟩ := leads_block b hready (by omega) hrest
    -- The next line is further out than the block, which is therefore closed.
    exact ⟨t, hleads, by simpa using hbetween.close hlt⟩

/-- A block is read up to the next line that is not indented deeper. -/
theorem leads_block (b : Block) {s : Scanner} {rest : List Char} {n m : Nat} {done : List Token}
    {indents : List Int}
    (h : Ready s (b.written n ++ (List.replicate m ' ' ++ rest)) n done indents) (hm : m ≤ n)
    (hrest : Clear rest) :
    ∃ t, Leads s t ∧ Between t rest m (b.tokens.reverse ++ done) n indents := by
  cases b with
  | last key value =>
    rw [Block.written, List.append_assoc, List.cons_append] at h
    obtain ⟨c, hbefore, hkey⟩ := leads_key key value h
    obtain ⟨t, hvalue, hbetween⟩ := leads_outline value hbefore (by omega) hm hrest
    exact ⟨t, hkey.trans hvalue, by simpa [Block.tokens] using hbetween⟩
  | entry key value more =>
    rw [Block.written, List.append_assoc, List.cons_append, List.append_assoc,
      List.append_assoc] at h
    obtain ⟨c, hbefore, hkey⟩ := leads_key key value h
    obtain ⟨t, hvalue, hbetween⟩ :=
      leads_outline value hbefore (by omega) (Nat.le_refl n) (more.clear n _)
    obtain ⟨t', hmore, hbetween'⟩ := leads_block more hbetween.ready hm hrest
    exact ⟨t', hkey.trans (hvalue.trans hmore), by simpa [Block.tokens] using hbetween'⟩

end

end Scanner

/-! ### The tokens of a written block -/

/-- The characters of a word, and the few marks between words. -/
def isOutlineChar (c : Char) : Bool := isWordChar c || " \n:,[]".toList.contains c

theorem Word.outlineChars (w : Word) : ∀ c ∈ w.chars, isOutlineChar c = true := by
  intro c hc
  rw [isOutlineChar, w.plain c hc, Bool.true_or]

theorem listed_outlineChars (ws : List Word) : ∀ c ∈ listed ws, isOutlineChar c = true := by
  have hother (w : Word) : ∀ c ∈ ',' :: ' ' :: w.chars, isOutlineChar c = true := by
    simp only [List.forall_mem_cons]
    exact ⟨by decide, by decide, w.outlineChars⟩
  intro c hc
  cases ws with
  | nil => cases hc
  | cons w ws =>
    rcases List.mem_append.mp hc with hc | hc
    · exact w.outlineChars c hc
    · obtain ⟨v, -, hc⟩ := List.mem_flatMap.mp hc
      exact hother v c hc

theorem spaces_outlineChars (n : Nat) : ∀ c ∈ List.replicate n ' ', isOutlineChar c = true := by
  intro c hc
  rw [List.eq_of_mem_replicate hc]
  decide

mutual

theorem Outline.outlineChars (o : Outline) (column : Nat) :
    ∀ c ∈ o.written column, isOutlineChar c = true := by
  cases o with
  | word w =>
    have hword := w.outlineChars
    simp only [Outline.written, List.forall_mem_cons, List.forall_mem_append]
    exact ⟨by decide, hword, by decide, by simp⟩
  | words ws =>
    have hwords := listed_outlineChars ws
    simp only [Outline.written, List.forall_mem_cons, List.forall_mem_append]
    exact ⟨by decide, by decide, hwords, by decide, by decide, by simp⟩
  | block b =>
    have hblock := b.outlineChars (column + 2)
    simp only [Outline.written, List.forall_mem_cons, List.forall_mem_append]
    exact ⟨by decide, spaces_outlineChars _, hblock⟩

theorem Block.outlineChars (b : Block) (column : Nat) :
    ∀ c ∈ b.written column, isOutlineChar c = true := by
  cases b with
  | last key value =>
    have hvalue := value.outlineChars column
    simp only [Block.written, List.forall_mem_cons, List.forall_mem_append]
    exact ⟨key.outlineChars, by decide, hvalue⟩
  | entry key value rest =>
    have hvalue := value.outlineChars column
    have hrest := rest.outlineChars column
    simp only [Block.written, List.forall_mem_cons, List.forall_mem_append]
    exact ⟨key.outlineChars, by decide, hvalue, spaces_outlineChars _, hrest⟩

end

/-- An outline is written in ASCII, without carriage returns or characters that no document may
have. -/
theorem plain_of_isOutlineChar {c : Char} (h : isOutlineChar c = true) :
    isAllowed c = true ∧ c.toNat < 0x80 ∧ c ≠ '\r' := by
  have hmarks : (" \n:,[]".toList.all fun c => isAllowed c && decide (c.toNat < 0x80) &&
      c != '\r') = true := by decide
  rcases Bool.or_eq_true_iff.mp h with hword | hmark
  · have hbounds := printable_of_isWordChar hword
    have hprintable : (decide (0x20 ≤ c.toNat) && decide (c.toNat ≤ 0x7E)) = true := by
      simpa using hbounds
    refine ⟨?_, by omega, ne_of_isWordChar hword (by decide)⟩
    simp only [isAllowed, hprintable, Bool.or_true, Bool.true_or]
  · have hplain := List.all_eq_true.mp hmarks c (List.contains_iff_mem.mp hmark)
    simpa [and_assoc] using hplain

open Scanner in
/-- A block that is written from the first column on is cut into its tokens. -/
theorem tokens_written (b : Block) :
    tokens ⟨b.written 0, none⟩ = .blockMappingStart :: (b.tokens ++ [.blockEnd]) := by
  have hstart : (Cursor.start (b.written 0)).Before
      (b.written 0 ++ (List.replicate 0 ' ' ++ [])) 0 :=
    ⟨by simp [Cursor.start], by simp [Cursor.start, Cursor.left], rfl⟩
  have hready : Ready (Scanner.start (b.written 0)) (b.written 0 ++ (List.replicate 0 ' ' ++ [])) 0
      [.blockMappingStart] [-1] :=
    .deeper (rested_spaces (n := 0) hstart (b.clear 0 _).solid) rfl hstart (by decide)
  have hend : Clear [] :=
    ⟨by rintro ch ⟨⟩, fun c hrest => by simp [Cursor.atDocumentMark, Cursor.atMark, hrest]⟩
  obtain ⟨t, hleads, hbetween⟩ := leads_block b hready (Nat.le_refl 0) hend
  obtain ⟨u, c, hrested, hu, hbefore⟩ := hbetween
  obtain ⟨fuel, hfuel, hrun⟩ :=
    hleads ((b.written 0).length + 1) (by simp [Scanner.start, Cursor.start, Cursor.left])
  have hcolumn : (u.cursor.column : Int) = (0 : Nat) := by
    rw [cursor_of_unwind hu, hbefore.column_eq]
  have hstep : t.step = .ok none := by
    rw [step_of_rested hrested, hcolumn, hu]
    exact tokenAt_end hbefore.rest_eq
  have hclose : t.close = .blockMappingStart :: (b.tokens ++ [.blockEnd]) := by
    have hall : u.unwind (-1) =
        idle c (.blockEnd :: (b.tokens.reverse ++ [.blockMappingStart])) 0 (-1) [] true := by
      rw [← unwind_unwind (a := -1) (b := (0 : Nat)) (by decide) u, hu]
      exact unwind_idle (by decide) c _ [] true
    rw [close_of_rested hrested hall]
    simp
  obtain ⟨more, rfl⟩ : ∃ more, fuel = more + 1 := ⟨fuel - 1, by omega⟩
  rw [tokens, hrun, run_succ, hstep]
  exact hclose

end SchemaAssist.Yaml