/-
  What the tokens of a document tell about its text.

  A scan goes forward in the text (`Cursor.Within`), whichever way it ends.  So a character that a
  token needs stands in the text: an exclamation mark for a tag, an asterisk for an alias, a
  backslash for an escape that no character has the number of, a percent sign for a version
  directive with too many digits (`tokens_justified`).
-/
import SchemaAssist.Yaml.Tokens

namespace SchemaAssist.Yaml

/-! ### Contracts -/

/-- What a computation comes to: a result or an error as promised. -/
def Keeps {ε α : Type} (errors : ε → Prop) (post : α → Prop) : Except ε α → Prop
  | .ok a => post a
  | .error e => errors e

namespace Keeps

variable {ε α β : Type} {errors : ε → Prop} {post : α → Prop}

theorem bind {r : Except ε α} {next : α → Except ε β} {post' : β → Prop}
    (h : Keeps errors post r) (hnext : ∀ a, post a → Keeps errors post' (next a)) :
    Keeps errors post' (r >>= next) := by
  cases r with
  | ok a => exact hnext a h
  | error e => exact h

theorem map {r : Except ε α} {g : α → β} {post' : β → Prop} (h : Keeps errors post r)
    (hg : ∀ a, post a → post' (g a)) : Keeps errors post' (g <$> r) := by
  cases r with
  | ok a => exact hg a h
  | error e => exact h

theorem ite {p : Prop} [Decidable p] {yes no : Except ε α} (hyes : p → Keeps errors post yes)
    (hno : ¬ p → Keeps errors post no) : Keeps errors post (if p then yes else no) := by
  by_cases h : p
  · rw [if_pos h]
    exact hyes h
  · rw [if_neg h]
    exact hno h

theorem mapM {f : α → Except ε β} {post' : β → Prop} {items : List α}
    (h : ∀ a ∈ items, Keeps errors post' (f a)) :
    Keeps errors (fun results => ∀ b ∈ results, post' b) (items.mapM f) := by
  induction items with
  | nil =>
    intro b hb
    cases hb
  | cons a rest ih =>
    rw [List.mapM_cons]
    refine (h a List.mem_cons_self).bind fun b hb => ?_
    refine (ih fun a' ha' => h a' (List.mem_cons_of_mem a ha')).bind fun results hresults => ?_
    exact List.forall_mem_cons.mpr ⟨hb, hresults⟩

theorem mono {errors' : ε → Prop} {post' : α → Prop} {r : Except ε α} (h : Keeps errors post r)
    (herrors : ∀ e, errors e → errors' e) (hpost : ∀ a, post a → post' a) :
    Keeps errors' post' r := by
  cases r with
  | ok a => exact hpost a h
  | error e => exact herrors e h

end Keeps

/-- An error that is a fault as promised, or the finding that the document is invalid or not UTF-8,
which is always allowed. -/
def Error.Among (faults : Fault → Prop) : Error → Prop
  | .fault f => faults f
  | _ => True

theorem Error.Among.mono {faults faults' : Fault → Prop} (h : ∀ f, faults f → faults' f)
    (e : Error) (he : e.Among faults) : e.Among faults' := by
  cases e with
  | fault f => exact h f he
  | invalid problem line column => trivial
  | undecodable error => trivial

/-- What a reading of a document comes to. -/
abbrev Meets {α : Type} (faults : Fault → Prop) (post : α → Prop) (r : Except Error α) : Prop :=
  Keeps (Error.Among faults) post r

namespace Cursor

/-- What lies ahead of a cursor is the end of a text. -/
def Within (text : List Char) (c : Cursor) : Prop := c.rest <:+ text

namespace Within

variable {text : List Char} {c : Cursor}

theorem next (h : c.Within text) : c.next.Within text := by
  unfold Cursor.next
  split
  · exact h
  · rename_i ch rest hrest
    have hrest' : rest <:+ text := (List.suffix_cons ch rest).trans (hrest ▸ h)
    split
    · exact hrest'
    · exact hrest'

theorem skip (h : c.Within text) (n : Nat) : (c.skip n).Within text := by
  induction n generalizing c with
  | zero => exact h
  | succ n ih => exact ih h.next

theorem span (h : c.Within text) (p : Char → Bool) : (c.span p).2.Within text := h.skip _

theorem skipWhile (h : c.Within text) (p : Char → Bool) : (c.skipWhile p).Within text := h.skip _

theorem lineBreak (h : c.Within text) : c.lineBreak.2.Within text := by
  unfold Cursor.lineBreak
  simp only
  split
  · exact h.next
  · split
    · exact h.next
    · exact h

/-- The character under a cursor stands in the text, unless it is the end of it. -/
theorem mem_of_head (h : c.Within text) {ch : Char} (hhead : c.head = ch) (hend : ch ≠ endOfText) :
    ch ∈ text := by
  unfold Cursor.head at hhead
  cases hrest : c.rest with
  | nil =>
    rw [hrest] at hhead
    exact absurd hhead.symm hend
  | cons first rest =>
    rw [hrest] at hhead
    obtain rfl : first = ch := hhead
    exact h.subset (hrest ▸ List.mem_cons_self)

end Within

end Cursor

/-- The faults that a text can be cut into tokens with, each with the character that stands in it.
-/
def ScanFault (text : List Char) : Fault → Prop
  | .codePoint | .codePointSize => '\\' ∈ text
  | .digitLimit _ => '%' ∈ text
  | _ => False

/-- A scan that moves on in a text. -/
abbrev Scans (text : List Char) {α : Type} (r : Except Error (α × Cursor)) : Prop :=
  Meets (ScanFault text) (fun found => found.2.Within text) r

section Scalars

variable {text : List Char} {c : Cursor}

/-! ### Plain scalars -/

theorem within_plainBreaks (fuel : Nat) (h : c.Within text) :
    (plainBreaks fuel c).2.Within text := by
  induction fuel generalizing c with
  | zero => exact h
  | succ fuel ih =>
    unfold plainBreaks
    split
    · exact ih h.next
    · split
      · dsimp only
        split
        · exact h.lineBreak
        · exact ih h.lineBreak
      · exact h

theorem within_plainGap (h : c.Within text) : (plainGap c).2.1.Within text := by
  have hblanks := h.span (· == ' ')
  unfold plainGap
  dsimp only
  split
  · split
    · exact hblanks.lineBreak
    · have hbreaks :=
        within_plainBreaks ((c.span (· == ' ')).2.lineBreak.2.left + 1) hblanks.lineBreak
      split
      · rename_i final hrun
        rw [hrun] at hbreaks
        exact hbreaks
      · rename_i breaks final hrun
        rw [hrun] at hbreaks
        exact hbreaks
  · exact hblanks

theorem within_plainStretches (flow : Bool) (indent : Int) (fuel : Nat) (gap : List Char)
    (broken : Bool) (h : c.Within text) :
    (plainStretches flow indent fuel c gap broken).2.1.Within text := by
  induction fuel generalizing c gap broken with
  | zero => exact h
  | succ fuel ih =>
    unfold plainStretches
    split
    · exact h
    · dsimp only
      split
      · exact h
      · have hgap := within_plainGap (h.skip (plainLength flow c.rest))
        split
        · exact hgap
        · exact ih _ _ hgap

theorem within_plainScalar (flow : Bool) (indent : Int) (h : c.Within text) :
    (plainScalar flow indent c).2.1.Within text := within_plainStretches flow indent _ [] false h

/-! ### Quoted scalars -/

theorem scans_quotedBreaks (fuel : Nat) (h : c.Within text) : Scans text (quotedBreaks fuel c) := by
  induction fuel generalizing c with
  | zero => exact h
  | succ fuel ih =>
    have hblanks := h.skipWhile fun ch => ch == ' ' || ch == '\t'
    unfold quotedBreaks
    split
    · trivial
    · dsimp only
      split
      · exact (ih hblanks.lineBreak).bind fun found hfound => hfound
      · exact hblanks

theorem scans_quotedGap (h : c.Within text) : Scans text (quotedGap c) := by
  have hblanks := h.span fun ch => ch == ' ' || ch == '\t'
  unfold quotedGap
  dsimp only
  split
  · trivial
  · split
    · exact (scans_quotedBreaks _ hblanks.lineBreak).bind fun found hfound => hfound
    · exact hblanks

theorem meets_codeChar (hback : '\\' ∈ text) (n : Nat) :
    Meets (ScanFault text) (fun _ => True) (codeChar n) := by
  unfold codeChar
  split
  · trivial
  · split
    · exact hback
    · exact hback

theorem scans_escape (hback : '\\' ∈ text) (h : c.Within text) : Scans text (escape c) := by
  unfold escape
  split
  · exact h.next
  · rename_i n _ _
    dsimp only
    split
    · trivial
    · split
      · trivial
      · exact (meets_codeChar hback _).bind fun ch _ => h.next.skip n
  · split
    · exact scans_quotedBreaks _ h.lineBreak
    · trivial

theorem scans_quotedBody (double : Bool) (fuel : Nat) (h : c.Within text) :
    Scans text (quotedBody double fuel c) := by
  induction fuel generalizing c with
  | zero => trivial
  | succ fuel ih =>
    have hrun := h.span isQuotedPlain
    unfold quotedBody
    dsimp only
    generalize (if double = true then '"' else '\'') = quote
    split
    · exact (ih (hrun.skip 2)).bind fun found hfound => hfound
    · split
      · exact hrun.next
      · split
        · exact (ih hrun.next).bind fun found hfound => hfound
        · split
          · rename_i hescape
            have hback : '\\' ∈ text := hrun.mem_of_head (by simpa using hescape) (by decide)
            exact (scans_escape hback hrun.next).bind fun found hfound =>
              (ih hfound).bind fun more hmore => hmore
          · exact (scans_quotedGap hrun).bind fun found hfound => (ih hfound).bind fun more hmore =>
              hmore

theorem scans_quotedScalar (double : Bool) (h : c.Within text) :
    Scans text (quotedScalar double c) :=
  scans_quotedBody double _ h.next

/-! ### Block scalars -/

theorem meets_blockHeader (h : c.Within text) :
    Meets (ScanFault text) (fun found => found.2.2.Within text) (blockHeader c) := by
  have hchecked (found : Chomping × Option Nat × Cursor) (hfound : found.2.2.Within text) :
      Meets (ScanFault text) (fun found => found.2.2.Within text)
        (if found.2.1 = some 0 ∨ (!isSpaceOrEnd found.2.2.head) =
          true then found.2.2.fail .blockHeader
          else pure found) := by
    split
    · trivial
    · exact hfound
  unfold blockHeader
  dsimp only
  apply hchecked
  split
  · split
    · exact h.next.next
    · exact h.next
  · split
    · split
      · exact h.next.next
      · exact h.next
    · exact h

/-- Spaces and a comment. -/
theorem within_uncommented (h : c.Within text) :
    (if (c.skipWhile (· == ' ')).head =
      '#' then (c.skipWhile (· == ' ')).skipWhile (!isBreakOrEnd ·)
      else c.skipWhile (· == ' ')).Within text := by
  have hblanks := h.skipWhile (· == ' ')
  split
  · exact hblanks.skipWhile (!isBreakOrEnd ·)
  · exact hblanks

theorem meets_ignoredLine (problem : Problem) (h : c.Within text) :
    Meets (ScanFault text) (Cursor.Within text) (ignoredLine problem c) := by
  have hcomment := within_uncommented h
  unfold ignoredLine
  dsimp only
  generalize (if (c.skipWhile (· == ' ')).head =
    '#' then (c.skipWhile (· == ' ')).skipWhile (!isBreakOrEnd ·)
    else c.skipWhile (· == ' ')) = after at hcomment ⊢
  split
  · exact hcomment.lineBreak
  · trivial

theorem within_leadingLines (fuel deepest : Nat) (h : c.Within text) :
    (leadingLines fuel c deepest).2.2.Within text := by
  induction fuel generalizing c deepest with
  | zero => exact h
  | succ fuel ih =>
    unfold leadingLines
    split
    · exact ih _ h.next
    · split
      · exact ih _ h.lineBreak
      · exact h

theorem within_innerBreaks (indent fuel : Nat) (h : c.Within text) :
    (innerBreaks indent fuel c).2.Within text := by
  induction fuel generalizing c with
  | zero => exact h
  | succ fuel ih =>
    have hindent : (skipIndent indent c).Within text := h.skip _
    unfold innerBreaks
    dsimp only
    split
    · exact ih hindent.lineBreak
    · exact hindent

theorem within_blockLines (folded : Bool) (chomping : Chomping) (indent fuel : Nat)
    (breaks : List Char) (h : c.Within text) :
    (blockLines folded chomping indent fuel breaks c).2.Within text := by
  induction fuel generalizing c breaks with
  | zero => exact h
  | succ fuel ih =>
    have hinner := within_innerBreaks indent (((c.span (!isBreakOrEnd ·)).2.lineBreak.2).left + 1)
      (h.span (!isBreakOrEnd ·)).lineBreak
    unfold blockLines
    dsimp only
    split
    · exact ih _ hinner
    · exact hinner

theorem scans_blockScalar (folded : Bool) (parent : Int) (h : c.Within text) :
    Scans text (blockScalar folded parent c) := by
  have hbody (chomping : Chomping) (fuel : Nat) (found : Nat × List Char × Cursor)
      (hfound : found.2.2.Within text) :
      Scans text (if found.2.2.column = found.1 ∧ ¬ found.2.2.rest.isEmpty = true then
          pure (blockLines folded chomping found.1 fuel found.2.1 found.2.2)
        else pure (if chomping = .keep then found.2.1 else [], found.2.2)) := by
    split
    · exact within_blockLines folded chomping _ _ _ hfound
    · exact hfound
  unfold blockScalar
  refine (meets_blockHeader h.next).bind ?_
  rintro ⟨chomping, width, header⟩ hheader
  refine (meets_ignoredLine .blockHeader hheader).bind ?_
  intro body hline
  apply hbody
  cases width with
  | some n => exact within_innerBreaks _ _ hline
  | none => exact within_leadingLines _ 0 hline

end Scalars

/-! ### Directives and tags -/

/-- The text of a token stands in the text of the document. -/
def Token.Justified (text : List Char) : Token → Prop
  | .tag _ _ => '!' ∈ text
  | .alias _ => '*' ∈ text
  | .broken e => e.Among (ScanFault text)
  | _ => True

/-- A scan for a token. -/
abbrev ScansToken (text : List Char) (r : Except Error (Token × Cursor)) : Prop :=
  Meets (ScanFault text) (fun found => found.1.Justified text ∧ found.2.Within text) r

namespace Scanner

section Marks

variable {text : List Char} {c : Cursor}

theorem scans_scanName (problem : Problem) (ends : Char → Bool) (h : c.Within text) :
    Scans text (scanName problem ends c) := by
  unfold scanName
  dsimp only
  split
  · trivial
  · exact h.span isNameChar

theorem scans_scanVersionPart (hpercent : '%' ∈ text) (h : c.Within text) :
    Scans text (scanVersionPart c) := by
  unfold scanVersionPart
  dsimp only
  split
  · trivial
  · split
    · exact hpercent
    · exact h.span Char.isDigit

theorem scans_scanHandle (problem : Problem) (h : c.Within text) :
    Scans text (scanHandle problem c) := by
  unfold scanHandle
  split
  · trivial
  · split
    · exact h.next
    · dsimp only
      split
      · exact (h.next.span isNameChar).next
      · trivial

theorem scans_scanPercent (problem : Problem) (fuel : Nat) (h : c.Within text) :
    Scans text (scanPercent problem fuel c) := by
  induction fuel generalizing c with
  | zero => exact h
  | succ fuel ih =>
    unfold scanPercent
    split
    · split
      · exact (ih (h.skip 3)).bind fun found hfound => hfound
      · trivial
    · exact h

theorem scans_scanTagText (problem : Problem) (fuel : Nat) (h : c.Within text) :
    Scans text (scanTagText problem fuel c) := by
  induction fuel generalizing c with
  | zero => exact h
  | succ fuel ih =>
    unfold scanTagText
    split
    · refine (scans_scanPercent problem _ h).bind ?_
      intro found hfound
      dsimp only
      split
      · trivial
      · exact (ih hfound).bind fun more hmore => hmore
    · split
      · exact (ih (h.span isTagChar)).bind fun more hmore => hmore
      · exact h

theorem scans_scanTagUri (problem : Problem) (h : c.Within text) :
    Scans text (scanTagUri problem c) := by
  unfold scanTagUri
  split
  · exact scans_scanTagText problem _ h
  · trivial

theorem scansToken_scanDirective (hpercent : '%' ∈ text) (h : c.Within text) :
    ScansToken text (scanDirective c) := by
  unfold scanDirective
  refine (scans_scanName .directive isSpaceOrEnd h.next).bind ?_
  rintro ⟨name, after⟩ hname
  dsimp only
  split
  · refine (scans_scanVersionPart hpercent (hname.skipWhile (· == ' '))).bind ?_
    rintro ⟨major, c⟩ hmajor
    dsimp only
    split
    · trivial
    · refine (scans_scanVersionPart hpercent hmajor.next).bind ?_
      rintro ⟨minor, c⟩ hminor
      dsimp only
      split
      · exact (meets_ignoredLine .directive hminor).bind fun c hc => ⟨trivial, hc⟩
      · trivial
  · split
    · refine (scans_scanHandle .directive (hname.skipWhile (· == ' '))).bind ?_
      rintro ⟨handle, c⟩ hhandle
      dsimp only
      split
      · trivial
      · refine (scans_scanTagUri .directive (hhandle.skipWhile (· == ' '))).bind ?_
        rintro ⟨expansion, c⟩ hexpansion
        dsimp only
        split
        · exact (meets_ignoredLine .directive hexpansion).bind fun c hc => ⟨trivial, hc⟩
        · trivial
    · exact (meets_ignoredLine .directive (hname.skipWhile (!isBreakOrEnd ·))).bind fun c hc =>
        ⟨trivial, hc⟩

theorem scansToken_scanTag (hbang : '!' ∈ text) (h : c.Within text) :
    ScansToken text (scanTag c) := by
  have htag (handle : Option String) (suffix : String) : (Token.tag handle suffix).Justified text :=
    hbang
  have hended (found : Token × Cursor) (hfound : found.1.Justified text ∧ found.2.Within text) :
      ScansToken text (if isSpaceOrEnd found.2.head =
        true then pure (found.1, found.2) else found.2.fail .tag) := by
    split
    · exact hfound
    · trivial
  unfold scanTag
  dsimp only
  split
  · refine (scans_scanTagUri .tag (h.skip 2)).bind ?_
    intro found hfound
    split
    · exact hended (_, _) ⟨htag _ _, hfound.next⟩
    · trivial
  split
  · exact hended (_, _) ⟨htag _ _, h.next⟩
  split
  · refine (scans_scanHandle .tag h).bind ?_
    intro handle hhandle
    exact (scans_scanTagUri .tag hhandle).bind fun found hfound => hended (_, _) ⟨htag _ _, hfound⟩
  · exact (scans_scanTagUri .tag h.next).bind fun found hfound => hended (_, _) ⟨htag _ _, hfound⟩

end Marks

/-! ### Tokens -/

/-- A scanner that has gone forward in a text and found tokens of it. -/
structure Sound (text : List Char) (s : Scanner) : Prop where
  within : s.cursor.Within text
  justified : ∀ t ∈ s.emitted, t.Justified text

/-- A step of a scanner. -/
abbrev Steps (text : List Char) (r : Except Error Scanner) :
    Prop := Meets (ScanFault text) (Sound text) r

section Steps

variable {text : List Char} {s : Scanner}

namespace Sound

theorem moveTo (h : s.Sound text) {c : Cursor} (hc : c.Within text) :
    (s.moveTo c).Sound text := ⟨hc, h.justified⟩

theorem allowKey (h : s.Sound text) (allowed : Bool) :
    (s.allowKey allowed).Sound text := ⟨h.within, h.justified⟩

theorem emit (h : s.Sound text) (t : Token) (ht : t.Justified text) : (s.emit t).Sound text where
  within := h.within
  justified := by
    intro t' ht'
    rcases List.mem_cons.mp ht' with rfl | ht'
    · exact ht
    · exact h.justified t' ht'

theorem emitAt (h : s.Sound text) (number : Nat) (t : Token) (ht : t.Justified text) :
    (s.emitAt number t).Sound text where
  within := h.within
  justified := by
    intro t' ht'
    rcases List.mem_append.mp ht' with hlate | hearly
    · exact h.justified t' (List.mem_of_mem_take hlate)
    · rcases List.mem_cons.mp hearly with rfl | hearly
      · exact ht
      · exact h.justified t' (List.mem_of_mem_drop hearly)

theorem openBlock (h : s.Sound text) (column number : Nat) (t : Token) (ht : t.Justified text) :
    (s.openBlock column number t).Sound text := by
  unfold Scanner.openBlock
  split
  · exact ⟨(h.emitAt number t ht).within, (h.emitAt number t ht).justified⟩
  · exact h

theorem unwind (h : s.Sound text) (column : Int) : (s.unwind column).Sound text := by
  unfold Scanner.unwind
  split
  · refine ⟨h.within, ?_⟩
    intro t ht
    rcases List.mem_append.mp ht with hclosed | hearlier
    · rw [List.eq_of_mem_replicate hclosed]
      trivial
    · exact h.justified t hearlier
  · exact h

theorem dropExpired (h : s.Sound text) : Steps text s.dropExpired := by
  unfold Scanner.dropExpired
  split
  · trivial
  · exact ⟨h.within, h.justified⟩

theorem dropKey (h : s.Sound text) : Steps text s.dropKey := by
  unfold Scanner.dropKey
  split
  · trivial
  · exact ⟨h.within, h.justified⟩

theorem markKey (h : s.Sound text) : Steps text s.markKey := by
  unfold Scanner.markKey
  split
  · exact h.dropKey.bind fun s' hs' => ⟨hs'.within, hs'.justified⟩
  · exact h

theorem skipGaps (h : s.Sound text) (fuel : Nat) : (skipGaps fuel s).Sound text := by
  induction fuel generalizing s with
  | zero => exact h
  | succ fuel ih =>
    have hline := within_uncommented h.within
    unfold Scanner.skipGaps
    dsimp only
    generalize (if (s.cursor.skipWhile (· == ' ')).head = '#' then
      (s.cursor.skipWhile (· == ' ')).skipWhile (!isBreakOrEnd ·) else s.cursor.skipWhile
        (· == ' ')) = c at hline ⊢
    split
    · exact ih ⟨hline.lineBreak, h.justified⟩
    · exact h.moveTo hline

theorem skipByteOrderMark (h : s.Sound text) : s.skipByteOrderMark.Sound text := by
  unfold Scanner.skipByteOrderMark
  split
  · exact h.moveTo h.within.next
  · exact h

theorem documentToken (h : s.Sound text) {t : Token} (ht : t.Justified text) :
    Steps text (s.documentToken t) :=
  (h.unwind (-1)).dropKey.bind fun _ hs' =>
    ((hs'.allowKey false).emit t ht).moveTo (hs'.within.skip 3)

theorem openBracket (h : s.Sound text) {t : Token} (ht : t.Justified text) :
    Steps text (s.openBracket t) :=
  h.markKey.bind fun _ hs' => ⟨hs'.within.next, (hs'.emit t ht).justified⟩

theorem closeBracket (h : s.Sound text) {t : Token} (ht : t.Justified text) :
    Steps text (s.closeBracket t) := by
  unfold Scanner.closeBracket
  split
  · trivial
  · exact h.dropKey.bind fun _ hs' => ⟨hs'.within.next, (hs'.emit t ht).justified⟩

theorem flowEntryToken (h : s.Sound text) : Steps text s.flowEntryToken :=
  (h.allowKey true).dropKey.bind fun _ hs' => (hs'.emit .flowEntry trivial).moveTo hs'.within.next

/-- Outside of brackets a token may open a block. -/
theorem opened (h : s.Sound text) (column number : Nat) (t : Token) (ht : t.Justified text) :
    (if s.flow = 0 then s.openBlock column number t else s).Sound text := by
  split
  · exact h.openBlock column number t ht
  · exact h

theorem blockEntryToken (h : s.Sound text) : Steps text s.blockEntryToken := by
  unfold Scanner.blockEntryToken
  split
  · trivial
  · have hopen := h.opened s.cursor.column s.count .blockSequenceStart trivial
    exact (hopen.allowKey true).dropKey.bind fun _ hs' =>
      (hs'.emit .blockEntry trivial).moveTo hs'.within.next

theorem keyToken (h : s.Sound text) : Steps text s.keyToken := by
  unfold Scanner.keyToken
  split
  · trivial
  · have hopen := h.opened s.cursor.column s.count .blockMappingStart trivial
    exact (hopen.allowKey _).dropKey.bind fun _ hs' =>
      (hs'.emit .key trivial).moveTo hs'.within.next

theorem valueToken (h : s.Sound text) : Steps text s.valueToken := by
  unfold Scanner.valueToken
  split
  · rename_i k _
    have hdropped : { s with keys := s.keys.filter fun e => e.1 != s.flow }.Sound text :=
      ⟨h.within, h.justified⟩
    have hopen :=
      (hdropped.emitAt k.number .key trivial).opened k.column k.number .blockMappingStart trivial
    exact ((hopen.allowKey false).emit .value trivial).moveTo hopen.within.next
  · split
    · trivial
    · have hopen := h.opened s.cursor.column s.count .blockMappingStart trivial
      exact (hopen.allowKey _).dropKey.bind fun _ hs' =>
        (hs'.emit .value trivial).moveTo hs'.within.next

theorem nodeToken (h : s.Sound text) {scan : Cursor → Except Error (Token × Cursor)}
    (hscan : ∀ c, c.Within text → ScansToken text (scan c)) : Steps text (s.nodeToken scan) :=
  h.markKey.bind fun s' hs' => (hscan s'.cursor hs'.within).bind fun found hfound =>
    ((hs'.allowKey false).emit found.1 hfound.1).moveTo hfound.2

theorem plainToken (h : s.Sound text) : Steps text s.plainToken := by
  refine h.markKey.bind ?_
  intro s' hs'
  have hplain := within_plainScalar (decide (0 < s'.flow)) (s'.indent + 1) hs'.within
  generalize plainScalar (decide (0 < s'.flow)) (s'.indent + 1) s'.cursor = found at hplain ⊢
  exact ((hs'.allowKey _).emit (.scalar _) trivial).moveTo hplain

theorem blockToken (h : s.Sound text) (folded : Bool) : Steps text (s.blockToken folded) :=
  (h.allowKey true).dropKey.bind fun s' hs' => (scans_blockScalar folded s'.indent hs'.within).bind
    fun _ hfound => (hs'.emit (.scalar _) trivial).moveTo hfound

theorem tokenAt (h : s.Sound text) :
    Meets (ScanFault text) (fun next => ∀ s' ∈ next, s'.Sound text) s.tokenAt := by
  have hsome {r : Except Error Scanner} (hr : Steps text r) :
      Meets (ScanFault text) (fun next => ∀ s' ∈ next, s'.Sound text) (some <$> r) :=
    hr.map fun s' hs' => by
      rintro s'' ⟨⟩
      exact hs'
  have hname {c : Cursor} (hc : c.Within text) := scans_scanName .anchorName endsAnchor hc.next
  unfold Scanner.tokenAt
  extract_lets c ch spaced
  refine .ite (fun _ => ?_) fun _ => .ite (fun hdirective => ?_) fun _ =>
    .ite (fun _ => ?_) fun _ =>
    .ite (fun _ => ?_) fun _ => .ite (fun _ => ?_) fun _ => .ite (fun _ => ?_) fun _ =>
      .ite (fun _ => ?_) fun _ =>
    .ite (fun _ => ?_) fun _ => .ite (fun _ => ?_) fun _ => .ite (fun _ => ?_) fun _ =>
      .ite (fun _ => ?_) fun _ =>
    .ite (fun _ => ?_) fun _ => .ite (fun halias => ?_) fun _ => .ite (fun _ => ?_) fun _ =>
      .ite (fun hmark => ?_) fun _ =>
    .ite (fun _ => ?_) fun _ => .ite (fun _ => ?_) fun _ => .ite (fun _ => ?_) fun _ =>
      .ite (fun _ => ?_) fun _ => ?_
  · rintro s' ⟨⟩
  · have hpercent : '%' ∈ text := h.within.mem_of_head hdirective.1 (by decide)
    refine (h.unwind (-1)).dropKey.bind ?_
    intro s hs
    refine (scansToken_scanDirective hpercent hs.within).bind ?_
    rintro ⟨t, after⟩ hfound s' ⟨⟩
    exact ((hs.allowKey false).emit t hfound.1).moveTo hfound.2
  · exact hsome (h.documentToken trivial)
  · exact hsome (h.documentToken trivial)
  · exact hsome (h.openBracket trivial)
  · exact hsome (h.openBracket trivial)
  · exact hsome (h.closeBracket trivial)
  · exact hsome (h.closeBracket trivial)
  · exact hsome h.flowEntryToken
  · exact hsome h.blockEntryToken
  · exact hsome h.keyToken
  · exact hsome h.valueToken
  · have hstar : '*' ∈ text := h.within.mem_of_head halias (by decide)
    exact hsome (h.nodeToken fun c hc => (hname hc).bind fun found hfound => ⟨hstar, hfound⟩)
  · exact hsome (h.nodeToken fun c hc => (hname hc).bind fun found hfound => ⟨trivial, hfound⟩)
  · have hbang : '!' ∈ text := h.within.mem_of_head hmark (by decide)
    exact hsome (h.nodeToken fun c hc => scansToken_scanTag hbang hc)
  · exact hsome (h.blockToken false)
  · exact hsome (h.blockToken true)
  · exact hsome (h.nodeToken fun c hc => (scans_quotedScalar _ hc).bind
      fun found hfound => ⟨trivial, hfound⟩)
  · exact hsome h.plainToken
  · trivial

theorem step (h : s.Sound text) :
    Meets (ScanFault text) (fun next => ∀ s' ∈ next, s'.Sound text) s.step :=
  (h.skipByteOrderMark.skipGaps (s.cursor.left + 1)).dropExpired.bind fun s' hs' =>
    (hs'.unwind s'.cursor.column).tokenAt

theorem finish (h : s.Sound text) :
    Meets (ScanFault text) (fun ts => ∀ t ∈ ts, t.Justified text) s.finish := by
  refine (h.skipByteOrderMark.skipGaps (s.cursor.left + 1)).dropExpired.bind ?_
  intro s hs
  refine (hs.unwind (-1)).dropKey.bind ?_
  intro s hs t ht
  exact hs.justified t (List.mem_reverse.mp ht)

theorem breakOff (h : s.Sound text) {e : Error} (he : (Token.broken e).Justified text) :
    ∀ t ∈ s.breakOff e, t.Justified text := by
  intro t ht
  rcases List.mem_append.mp ht with hsettled | hbroken
  · exact h.justified t (List.mem_reverse.mp (List.mem_of_mem_take hsettled))
  · rw [List.mem_singleton.mp hbroken]
    exact he

end Sound

attribute [local irreducible] Scanner.step in
theorem run_succ (failure : Option Error) (s : Scanner) (fuel : Nat) :
    s.run failure (fuel + 1) =
      match s.step with
      | .ok (some next) =>
        if failure.isSome && next.cursor.rest.isEmpty then s.stop failure
        else next.run failure fuel
      | .ok none => s.stop failure
      | .error e => s.breakOff (firstError failure e) := rfl

end Steps

end Scanner

end SchemaAssist.Yaml
