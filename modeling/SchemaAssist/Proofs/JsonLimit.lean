/-
  When the digit limit is met.

  The reader gives up on an integer of more than 4300 digits, wherever it stands.  Such an integer
  is literally there: the text holds a run of that many digits (`longRun_of_parseChars`).  Every
  part of the reader keeps to one contract, `Reads`: what it leaves is an end of what it was given,
  and if it meets the limit, the digits stand in what it was given.
-/
import SchemaAssist.Json.Parser

namespace SchemaAssist.Json

open Number

/-- A run of digits that is too long for an integer. -/
def LongRun (n : Nat) (s : List Char) : Prop :=
  maxDigits < n ∧ ∃ digits, digits <:+: s ∧ digits.length = n ∧ ∀ c ∈ digits, c.isDigit = true

theorem LongRun.of_suffix {n : Nat} {s t : List Char} (h : LongRun n s) (hst : s <:+ t) :
    LongRun n t := by
  obtain ⟨hlong, digits, hinfix, hrest⟩ := h
  exact ⟨hlong, digits, hinfix.trans hst.isInfix, hrest⟩

/-- The contract of a reader on a text. -/
def Reads {α : Type} (s : List Char) : Except ParseError (α × List Char) → Prop
  | .ok (_, rest) => rest <:+ s
  | .error (.digitLimit n) => LongRun n s
  | .error (.flaw _ _) => True

variable {α β : Type} {s t : List Char}

theorem Reads.of_suffix {r : Except ParseError (α × List Char)} (h : Reads s r) (hst : s <:+ t) :
    Reads t r := by
  match r, h with
  | .ok (_, rest), h => exact List.IsSuffix.trans h hst
  | .error (.digitLimit n), h => exact LongRun.of_suffix h hst
  | .error (.flaw _ _), _ => trivial

theorem Reads.bind {r : Except ParseError (α × List Char)}
    {f : α × List Char → Except ParseError (β × List Char)} (hr : Reads s r)
    (hf : ∀ a rest, rest <:+ s → Reads s (f (a, rest))) : Reads s (r >>= f) := by
  match r, hr with
  | .ok (a, rest), hr => exact hf a rest hr
  | .error (.digitLimit n), hr => exact hr
  | .error (.flaw _ _), _ => trivial

theorem skipSpace_suffix (s : List Char) : skipSpace s <:+ s := List.dropWhile_suffix isSpace

/-! ### Strings -/

theorem hexUnit?_suffix {n : Nat} {rest : List Char} (h : hexUnit? s = some (n, rest)) :
    rest <:+ s := by
  unfold hexUnit? at h
  split at h
  · rename_i a b c d rest'
    split at h
    · cases h
      exact ⟨[a, b, c, d], rfl⟩
    · cases h
  · cases h

theorem unicodeEscape_reads (s : List Char) : Reads s (unicodeEscape s) := by
  unfold unicodeEscape
  split
  · trivial
  · trivial
  · rename_i high rest _ hhigh
    have hrest : rest <:+ s := hexUnit?_suffix hhigh
    split
    · rename_i more _ _
      split
      · split
        · trivial
        · rename_i low after hlow
          split
          · have hafter : after <:+ more := hexUnit?_suffix hlow
            have hmore : more <:+ '\\' :: 'u' :: more := ⟨['\\', 'u'], rfl⟩
            exact (hafter.trans hmore).trans hrest
          · exact hrest
      · exact hrest
    · exact hrest

theorem stringBody_reads (start fuel : Nat) (s : List Char) :
    Reads s (stringBody start fuel s) := by
  induction fuel generalizing s with
  | zero => trivial
  | succ fuel ih =>
    cases s with
    | nil => trivial
    | cons c rest =>
      have htail : rest <:+ c :: rest := List.suffix_cons c rest
      unfold stringBody
      split
      · exact htail
      · split
        · split
          · trivial
          · rename_i more
            have hmore : more <:+ c :: 'u' :: more := (List.suffix_cons 'u' more).trans htail
            apply ((unicodeEscape_reads more).of_suffix hmore).bind
            intro ch after hafter
            apply ((ih after).of_suffix hafter).bind
            intro body final hfinal
            exact hfinal
          · rename_i letter more _
            have hmore : more <:+ c :: letter :: more := (List.suffix_cons letter more).trans htail
            split
            · trivial
            · apply ((ih more).of_suffix hmore).bind
              intro body final hfinal
              exact hfinal
        · split
          · trivial
          · apply ((ih rest).of_suffix htail).bind
            intro body final hfinal
            exact hfinal

theorem stringFrom_reads (s : List Char) : Reads s (stringFrom s) := by
  apply (stringBody_reads _ _ s).bind
  intro body rest hrest
  exact hrest

/-! ### Numbers and words -/

theorem wholeDigits_spec (s : List Char) :
    (wholeDigits s).2 <:+ s ∧ (wholeDigits s).1 <+: s ∧
      ∀ c ∈ (wholeDigits s).1, c.isDigit = true := by
  unfold wholeDigits
  split
  · rename_i rest
    refine ⟨List.suffix_cons '0' rest, ⟨rest, rfl⟩, ?_⟩
    intro c hc
    rw [List.mem_singleton.mp hc]
    rfl
  · refine ⟨List.dropWhile_suffix _, List.takeWhile_prefix _, ?_⟩
    exact List.all_eq_true.mp List.all_takeWhile

theorem spanDigits_suffix (s : List Char) : (spanDigits s).2 <:+ s := List.dropWhile_suffix _

theorem fraction_suffix (s : List Char) : (fraction s).2 <:+ s := by
  unfold fraction
  split
  · rename_i rest
    simp only
    split
    · exact List.suffix_refl _
    · exact (spanDigits_suffix rest).trans (List.suffix_cons '.' rest)
  · exact List.suffix_refl _

theorem takeSign_suffix (s : List Char) : (takeSign s).2 <:+ s := by
  unfold takeSign
  split
  · exact List.suffix_cons _ _
  · exact List.suffix_cons _ _
  · exact List.suffix_refl _

theorem scanExponent_suffix (s : List Char) : (scanExponent s).2 <:+ s := by
  unfold scanExponent
  split
  · rename_i c rest
    split
    · simp only
      split
      · exact List.suffix_refl _
      · exact ((spanDigits_suffix _).trans (takeSign_suffix rest)).trans (List.suffix_cons c rest)
    · exact List.suffix_refl _
  · exact List.suffix_refl _

theorem number_reads (s : List Char) : Reads s (number s) := by
  unfold number
  split
  rename_i negative body hsign
  have hbody : body <:+ s := by
    split at hsign
    · cases hsign
      exact List.suffix_cons _ _
    · cases hsign
      exact List.suffix_refl _
  obtain ⟨hafter, hwhole, hdigits⟩ := wholeDigits_spec body
  have hrest :=
    (scanExponent_suffix (fraction (wholeDigits body).2).2).trans
      (fraction_suffix (wholeDigits body).2)
  simp only
  split
  · trivial
  · split
    · split
      · rename_i hlimit
        exact ⟨hlimit, _, hwhole.isInfix.trans hbody.isInfix, rfl, hdigits⟩
      · exact (hrest.trans hafter).trans hbody
    · exact (hrest.trans hafter).trans hbody

theorem atom_reads (s : List Char) : Reads s (atom s) := by
  unfold atom
  split
  · rename_i r hword
    obtain ⟨entry, _, hentry⟩ := List.exists_of_findSome?_eq_some hword
    obtain ⟨rest, hrest, rfl⟩ := Option.map_eq_some_iff.mp hentry
    unfold afterWord? at hrest
    split at hrest
    · cases hrest
      exact List.drop_suffix _ _
    · cases hrest
  · exact number_reads s

/-! ### Values -/

/-- What follows a mark behind white space. -/
theorem suffix_of_skipSpace {c : Char} {rest more : List Char} (h : skipSpace rest = c :: more)
    (hst : rest <:+ s) :
    more <:+ s := by
  have hskip := skipSpace_suffix rest
  rw [h] at hskip
  exact ((List.suffix_cons c more).trans hskip).trans hst

theorem elements_reads {fuel : Nat} (hvalue : ∀ s, Reads s (value fuel s))
    (helements : ∀ s, Reads s (elements fuel s)) (s : List Char) :
    Reads s (elements (fuel + 1) s) := by
  unfold elements
  apply (hvalue s).bind
  intro item rest hrest
  simp only
  split
  · rename_i more hmore
    exact suffix_of_skipSpace hmore hrest
  · rename_i more hmore
    have hskip : skipSpace more <:+ s :=
      (skipSpace_suffix more).trans (suffix_of_skipSpace hmore hrest)
    apply ((helements _).of_suffix hskip).bind
    intro items final hfinal
    exact hfinal
  · trivial

theorem members_reads {fuel : Nat} (hvalue : ∀ s, Reads s (value fuel s))
    (hmembers : ∀ s, Reads s (members fuel s)) (s : List Char) :
    Reads s (members (fuel + 1) s) := by
  unfold members
  split
  · rename_i rest
    apply ((stringFrom_reads rest).of_suffix (List.suffix_cons '"' rest)).bind
    intro name more hmore
    simp only
    split
    · rename_i tail htail
      have hskip := (skipSpace_suffix tail).trans (suffix_of_skipSpace htail hmore)
      apply ((hvalue _).of_suffix hskip).bind
      intro v final hfinal
      simp only
      split
      · rename_i after hafter
        exact suffix_of_skipSpace hafter hfinal
      · rename_i after hafter
        have hagain := (skipSpace_suffix after).trans (suffix_of_skipSpace hafter hfinal)
        apply ((hmembers _).of_suffix hagain).bind
        intro ms last hlast
        exact hlast
      · trivial
    · trivial
  · trivial

theorem value_reads {fuel : Nat} (helements : ∀ s, Reads s (elements fuel s))
    (hmembers : ∀ s, Reads s (members fuel s)) (s : List Char) : Reads s (value (fuel + 1) s) := by
  cases s with
  | nil => trivial
  | cons c rest =>
    have htail : rest <:+ c :: rest := List.suffix_cons c rest
    have hskip : skipSpace rest <:+ c :: rest := (skipSpace_suffix rest).trans htail
    unfold value
    split
    · apply ((stringFrom_reads rest).of_suffix htail).bind
      intro text more hmore
      exact hmore
    · split
      · split
        · rename_i more hmore
          exact suffix_of_skipSpace hmore htail
        · apply ((helements _).of_suffix hskip).bind
          intro items more hmore
          exact hmore
      · split
        · split
          · rename_i more hmore
            exact suffix_of_skipSpace hmore htail
          · apply ((hmembers _).of_suffix hskip).bind
            intro ms more hmore
            exact hmore
        · exact atom_reads _

theorem readers_read (fuel : Nat) :
    (∀ s, Reads s (value fuel s)) ∧ (∀ s, Reads s (elements fuel s)) ∧
      ∀ s, Reads s (members fuel s) := by
  induction fuel with
  | zero => exact ⟨fun s => trivial, fun s => trivial, fun s => trivial⟩
  | succ fuel ih =>
    obtain ⟨hvalue, helements, hmembers⟩ := ih
    exact ⟨value_reads helements hmembers, elements_reads hvalue helements,
      members_reads hvalue hmembers⟩

/-- The digit limit is met only on a text that holds so many digits in a row. -/
theorem longRun_of_parseChars {n : Nat} (h : parseChars s = .error (.digitLimit n)) :
    LongRun n s := by
  unfold parseChars at h
  split at h
  · cases h
  · have hread := ((readers_read (2 * s.length + 2)).1 (skipSpace s)).of_suffix (skipSpace_suffix s)
    cases hvalue : value (2 * s.length + 2) (skipSpace s) with
    | error e =>
      rw [hvalue] at h hread
      cases h
      exact hread
    | ok r =>
      rw [hvalue] at h
      simp only [bind, Except.bind] at h
      split at h
      · cases h
      · cases h

end SchemaAssist.Json
