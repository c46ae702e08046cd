/-
  The grammar of lines.

  Lines are recognised by runs of characters: a run of blanks, a run of key characters, a colon.
  Here each recogniser is given by what it accepts, as a decomposition of the line:

    * a key                `u key v : ...`       — `key?_eq_some_iff`;
    * a sequence element   `u - v id w : ...`    — `element?_eq_some_iff`;
    * a given name         `u name v : ...`      — `declares_iff`,

  with blanks for `u`, `v` and `w`.  A run stops where its class of characters does, so the parts
  are determined by the line (`recognisers_exact`), and a name that can be a key is declared exactly
  where it is the key (`declares_iff_key?`).
-/
import SchemaAssist.Proofs.Lines

namespace SchemaAssist.Document

open Text

/-! ### A line and its leading blanks -/

theorem takeWhile_append_trimStart (line : Line) :
    line.takeWhile isBlank ++ trimStart line = line :=
  List.takeWhile_append_dropWhile

theorem head_trimStart (s : List Char) : ∀ c ∈ (trimStart s).head?, isBlank c = false := by
  intro c hc
  have hnot := List.head?_dropWhile_not isBlank s
  rw [trimStart] at hc
  rw [hc] at hnot
  simpa using hnot

theorem trimStart_trimStart (s : List Char) : trimStart (trimStart s) = trimStart s :=
  trimStart_eq_self (head_trimStart s)

theorem blankLine_eq (line : Line) : blankLine line = (trimStart line).isEmpty := by
  rw [Bool.eq_iff_iff, blankLine, List.all_eq_true, List.isEmpty_iff, trimStart,
    List.dropWhile_eq_nil_iff]

/-! ### Runs of characters -/

/-- A run of blanks. -/
def Blanks (s : List Char) : Prop := ∀ c ∈ s, isBlank c = true

/-- A text that can be a key: at least one character, neither blank nor colon. -/
def IsKey (s : List Char) : Prop := s ≠ [] ∧ ∀ c ∈ s, isBlank c = false ∧ c ≠ ':'

/-- A colon after optional blanks, and then anything. -/
def ColonTail (s : List Char) : Prop := ∃ v rest, Blanks v ∧ s = v ++ ':' :: rest

/-- A line that declares a name: blanks, the name, blanks, a colon, and anything. -/
def KeyLine (name : List Char) (line : Line) : Prop :=
  ∃ u v rest, Blanks u ∧ Blanks v ∧ line = u ++ (name ++ (v ++ ':' :: rest))

/-- A line that opens a sequence element: blanks, the marker, blanks, the identifier, blanks, a
colon, and anything. -/
def ElementLine (id : List Char) (line : Line) : Prop :=
  ∃ u v w rest, Blanks u ∧ Blanks v ∧ Blanks w ∧
    line = u ++ '-' :: (v ++ (id ++ (w ++ ':' :: rest)))

theorem blanks_takeWhile (s : List Char) : Blanks (s.takeWhile isBlank) :=
  fun _ hc => List.mem_takeWhile_imp hc

theorem isKeyChar_iff {c : Char} : isKeyChar c = true ↔ isBlank c = false ∧ c ≠ ':' := by
  simp [isKeyChar]

instance (s : List Char) :
    Decidable (Blanks s) := decidable_of_iff (s.all isBlank = true) List.all_eq_true

theorem isKey_iff {s : List Char} : s ≠ [] ∧ s.all isKeyChar = true ↔ IsKey s := by
  simp only [IsKey, List.all_eq_true, isKeyChar_iff]

instance (s : List Char) : Decidable (IsKey s) := decidable_of_iff _ isKey_iff

theorem trimStart_append {u : List Char} (hu : Blanks u) (s : List Char) :
    trimStart (u ++ s) = trimStart s := by
  rw [trimStart, trimStart, List.dropWhile_append_of_pos hu]

theorem IsKey.head_not_blank {k : List Char} (hk : IsKey k) (s : List Char) :
    ∀ c ∈ (k ++ s).head?, isBlank c = false := by
  obtain ⟨hne, hchars⟩ := hk
  cases k with
  | nil => exact (hne rfl).elim
  | cons a k =>
    rintro c ⟨⟩
    exact (hchars _ List.mem_cons_self).1

theorem IsKey.trimStart_append {k : List Char} (hk : IsKey k) (s : List Char) :
    trimStart (k ++ s) = k ++ s :=
  trimStart_eq_self (hk.head_not_blank s)

/-- A beginning of a key can be a key. -/
theorem IsKey.take {name : List Char} (h : IsKey name) {k : Nat} (hk : 0 < k) :
    IsKey (name.take k) := by
  refine ⟨?_, fun c hc => h.2 c (List.mem_of_mem_take hc)⟩
  rw [Ne, List.take_eq_nil_iff]
  rintro (rfl | hnil)
  · exact Nat.lt_irrefl 0 hk
  · exact h.1 hnil

theorem startsColon_iff {s : List Char} : startsColon s = true ↔ ColonTail s := by
  constructor
  · intro h
    unfold startsColon at h
    split at h
    · rename_i c rest hrest
      obtain rfl : c = ':' := by simpa using h
      refine ⟨s.takeWhile isBlank, rest, blanks_takeWhile s, ?_⟩
      rw [← hrest, List.takeWhile_append_dropWhile]
    · cases h
  · rintro ⟨v, rest, hv, rfl⟩
    have hstop : (':' :: rest).dropWhile isBlank = ':' :: rest :=
      trimStart_eq_self (by rintro c ⟨⟩; decide)
    rw [startsColon, List.dropWhile_append_of_pos hv, hstop]
    rfl

/-- What follows a key does not go on with key characters. -/
theorem ColonTail.takeWhile_isKeyChar {s : List Char} (h : ColonTail s) :
    s.takeWhile isKeyChar = [] := by
  obtain ⟨v, rest, hv, rfl⟩ := h
  cases v with
  | nil => rfl
  | cons a v =>
    have ha : isKeyChar a = false := by simp [isKeyChar, hv a List.mem_cons_self]
    simp [ha]

/-! ### Keys and names -/

theorem leadingKey?_eq_some_iff {s : List Char} {k : String} :
    leadingKey? s = some k ↔ IsKey k.toList ∧ ∃ tail, ColonTail tail ∧ s = k.toList ++ tail := by
  constructor
  · intro h
    unfold leadingKey? at h
    simp only [Bool.and_eq_true, Bool.not_eq_true', List.isEmpty_eq_false_iff] at h
    split at h
    · rename_i hfound
      obtain rfl : String.ofList (s.takeWhile isKeyChar) = k := Option.some.inj h
      rw [String.toList_ofList]
      refine ⟨⟨hfound.1, ?_⟩, s.dropWhile isKeyChar, startsColon_iff.mp hfound.2,
        List.takeWhile_append_dropWhile.symm⟩
      intro c hc
      exact isKeyChar_iff.mp (List.mem_takeWhile_imp hc)
    · cases h
  · rintro ⟨⟨hne, hchars⟩, tail, htail, rfl⟩
    have hpos : ∀ c ∈ k.toList, isKeyChar c = true := fun c hc => isKeyChar_iff.mpr (hchars c hc)
    have hkey : (k.toList ++ tail).takeWhile isKeyChar = k.toList := by
      rw [List.takeWhile_append_of_pos hpos, htail.takeWhile_isKeyChar, List.append_nil]
    have hrest : (k.toList ++ tail).dropWhile isKeyChar = tail := by
      have hcut : (k.toList ++ tail).takeWhile isKeyChar ++ (k.toList ++ tail).dropWhile isKeyChar =
          k.toList ++ tail := List.takeWhile_append_dropWhile
      rw [hkey] at hcut
      exact List.append_cancel_left hcut
    have hcolon : startsColon tail = true := startsColon_iff.mpr htail
    simp only [leadingKey?, hkey, hrest, hcolon, String.ofList_toList]
    simp [hne]

/-- A line has a key exactly if it is blanks, the key, blanks, a colon, and anything. -/
theorem key?_eq_some_iff {line : Line} {k : String} :
    key? line = some k ↔ IsKey k.toList ∧ KeyLine k.toList line := by
  rw [key?, leadingKey?_eq_some_iff]
  constructor
  · rintro ⟨hk, tail, ⟨v, rest, hv, rfl⟩, hline⟩
    refine ⟨hk, line.takeWhile isBlank, v, rest, blanks_takeWhile line, hv, ?_⟩
    rw [← hline, takeWhile_append_trimStart]
  · rintro ⟨hk, u, v, rest, hu, hv, rfl⟩
    refine ⟨hk, v ++ ':' :: rest, ⟨v, rest, hv, rfl⟩, ?_⟩
    rw [trimStart_append hu, hk.trimStart_append]

/-- A line opens an element exactly if it is blanks, the marker, blanks, the identifier, blanks, a
colon, and anything. -/
theorem element?_eq_some_iff {line : Line} {id : String} :
    element? line = some id ↔ IsKey id.toList ∧ ElementLine id.toList line := by
  constructor
  · intro h
    unfold element? at h
    split at h
    · rename_i rest hline
      obtain ⟨hid, tail, ⟨w, after, hw, rfl⟩, hrest⟩ := leadingKey?_eq_some_iff.mp h
      refine ⟨hid, line.takeWhile isBlank, rest.takeWhile isBlank, w, after, blanks_takeWhile line,
        blanks_takeWhile rest, hw, ?_⟩
      rw [← hrest, takeWhile_append_trimStart, ← hline, takeWhile_append_trimStart]
    · cases h
  · rintro ⟨hid, u, v, w, rest, hu, hv, hw, rfl⟩
    have hmarker : trimStart (u ++ '-' :: (v ++ (id.toList ++ (w ++ ':' :: rest)))) =
        '-' :: (v ++ (id.toList ++ (w ++ ':' :: rest))) := by
      rw [trimStart_append hu]
      exact trimStart_eq_self (by rintro c ⟨⟩; decide)
    rw [element?, hmarker]
    apply leadingKey?_eq_some_iff.mpr
    refine ⟨hid, w ++ ':' :: rest, ⟨w, rest, hw, rfl⟩, ?_⟩
    rw [trimStart_append hv, hid.trimStart_append]

theorem dropFront?_eq_some_iff {front s rest : List Char} :
    dropFront? front s = some rest ↔ s = front ++ rest := by
  induction front generalizing s with
  | nil => simp [dropFront?]
  | cons a front ih =>
    cases s with
    | nil => simp [dropFront?]
    | cons c s =>
      by_cases hac : a = c
      · simp [dropFront?, hac, ih]
      · simp [dropFront?, hac, Ne.symm hac]

theorem startsWithKey_iff {name s : List Char} :
    startsWithKey name s = true ↔ ∃ tail, ColonTail tail ∧ s = name ++ tail := by
  unfold startsWithKey
  constructor
  · intro h
    split at h
    · rename_i rest hrest
      exact ⟨rest, startsColon_iff.mp h, dropFront?_eq_some_iff.mp hrest⟩
    · cases h
  · rintro ⟨tail, htail, rfl⟩
    rw [dropFront?_eq_some_iff.mpr rfl]
    exact startsColon_iff.mpr htail

/-- A name is declared on a line exactly if the line is blanks, the name, blanks, a colon, and
anything.  The name may hold any characters. -/
theorem declares_iff {name : List Char} {line : Line} :
    declares name line = true ↔ KeyLine name line := by
  induction line with
  | nil =>
    rw [declares, startsWithKey_iff]
    constructor
    · rintro ⟨tail, ⟨v, rest, hv, rfl⟩, hline⟩
      simp at hline
    · rintro ⟨u, v, rest, hu, hv, hline⟩
      simp at hline
  | cons c line ih =>
    rw [declares, Bool.or_eq_true, Bool.and_eq_true, startsWithKey_iff, ih]
    constructor
    · rintro (⟨tail, ⟨v, rest, hv, rfl⟩, hline⟩ | ⟨hc, u, v, rest, hu, hv, rfl⟩)
      · exact ⟨[], v, rest, by simp [Blanks], hv, hline⟩
      · refine ⟨c :: u, v, rest, ?_, hv, rfl⟩
        intro d hd
        rcases List.mem_cons.mp hd with rfl | hd
        · exact hc
        · exact hu d hd
    · rintro ⟨u, v, rest, hu, hv, hline⟩
      cases u with
      | nil => exact Or.inl ⟨v ++ ':' :: rest, ⟨v, rest, hv, rfl⟩, hline⟩
      | cons d u =>
        obtain ⟨rfl, rfl⟩ := List.cons.inj hline
        exact Or.inr ⟨hu c List.mem_cons_self, u, v, rest,
          fun d hd => hu d (List.mem_cons_of_mem c hd), hv, rfl⟩

/-- Without a colon nothing is declared. -/
theorem declares_of_not_mem {line : Line} (h : ':' ∉ line) (name : List Char) :
    declares name line = false := by
  by_contra hdeclares
  obtain ⟨u, v, rest, _, _, hline⟩ := declares_iff.mp (eq_true_of_ne_false hdeclares)
  exact h (by simp [hline])

/-- The two ways to find a declared name agree on every name that can be a key. -/
theorem declares_iff_key? {name : String} (hname : IsKey name.toList) {line : Line} :
    declares name.toList line = true ↔ key? line = some name := by
  rw [declares_iff, key?_eq_some_iff]
  exact ⟨fun h => ⟨hname, h⟩, fun h => h.2⟩

/-! ### The parts of a line -/

/-- A line that declares a key, cut into its parts. -/
structure KeyParts (line : Line) where
  lead : List Char
  key : List Char
  gap : List Char
  rest : List Char
  lead_blanks : Blanks lead
  key_isKey : IsKey key
  gap_blanks : Blanks gap
  line_eq : line = lead ++ (key ++ (gap ++ ':' :: rest))

/-- A line that opens a sequence element, cut into its parts. -/
structure ElementParts (line : Line) where
  lead : List Char
  space : List Char
  id : List Char
  gap : List Char
  rest : List Char
  lead_blanks : Blanks lead
  space_blanks : Blanks space
  id_isKey : IsKey id
  gap_blanks : Blanks gap
  line_eq : line = lead ++ '-' :: (space ++ (id ++ (gap ++ ':' :: rest)))

/-- Two runs of one class at the front of a text are the same run if each reaches as far as it can.
-/
theorem run_unique {p : Char → Bool} {run run' s s' : List Char} (hrun : ∀ c ∈ run, p c = true)
    (hrun' : ∀ c ∈ run', p c = true) (hs : s.takeWhile p = []) (hs' : s'.takeWhile p = [])
    (h : run ++ s = run' ++ s') : run = run' ∧ s = s' := by
  have hsame : run = run' := by
    have htake := congrArg (List.takeWhile p) h
    rw [List.takeWhile_append_of_pos hrun, List.takeWhile_append_of_pos hrun', hs, hs'] at htake
    simpa using htake
  refine ⟨hsame, ?_⟩
  rw [hsame] at h
  exact List.append_cancel_left h

theorem IsKey.takeWhile_isBlank {k : List Char} (hk : IsKey k) (s : List Char) :
    (k ++ s).takeWhile isBlank = [] :=
  takeWhile_isBlank_eq_nil (hk.head_not_blank s)

/-- A key, the blanks after it and the rest are determined by the text that they make up. -/
theorem keyed_unique {k k' gap gap' rest rest' : List Char} (hk : IsKey k) (hk' : IsKey k')
    (hgap : Blanks gap) (hgap' : Blanks gap')
    (h : k ++ (gap ++ ':' :: rest) = k' ++ (gap' ++ ':' :: rest')) :
    k = k' ∧ gap = gap' ∧ rest = rest' := by
  have hchars : ∀ t, IsKey t → ∀ c ∈ t, isKeyChar c = true :=
    fun t ht c hc => isKeyChar_iff.mpr (ht.2 c hc)
  have htail : ColonTail (gap ++ ':' :: rest) := ⟨gap, rest, hgap, rfl⟩
  have htail' : ColonTail (gap' ++ ':' :: rest') := ⟨gap', rest', hgap', rfl⟩
  obtain ⟨hkey, hsame⟩ := run_unique (hchars k hk) (hchars k' hk') htail.takeWhile_isKeyChar
    htail'.takeWhile_isKeyChar h
  obtain ⟨hgaps, hrest⟩ := run_unique hgap hgap' rfl rfl hsame
  exact ⟨hkey, hgaps, (List.cons.inj hrest).2⟩

/-- A line can be cut into a key and what surrounds it in one way only. -/
theorem KeyParts.unique {line : Line} (p q : KeyParts line) : p = q := by
  obtain ⟨lead, key, gap, rest, hlead, hkey, hgap, hline⟩ := p
  obtain ⟨lead', key', gap', rest', hlead', hkey', hgap', hline'⟩ := q
  obtain ⟨rfl, htail⟩ :=
    run_unique hlead hlead' (hkey.takeWhile_isBlank _) (hkey'.takeWhile_isBlank _)
    (hline.symm.trans hline')
  obtain ⟨rfl, rfl, rfl⟩ := keyed_unique hkey hkey' hgap hgap' htail
  rfl

theorem ElementParts.unique {line : Line} (p q : ElementParts line) : p = q := by
  obtain ⟨lead, space, id, gap, rest, hlead, hspace, hid, hgap, hline⟩ := p
  obtain ⟨lead', space', id', gap', rest', hlead', hspace', hid', hgap', hline'⟩ := q
  -- The marker is no blank, so the leading blanks end right before it.
  obtain ⟨rfl, htail⟩ := run_unique hlead hlead' rfl rfl (hline.symm.trans hline')
  obtain ⟨rfl, hkeyed⟩ :=
    run_unique hspace hspace' (hid.takeWhile_isBlank _) (hid'.takeWhile_isBlank _)
    (List.cons.inj htail).2
  obtain ⟨rfl, rfl, rfl⟩ := keyed_unique hid hid' hgap hgap' hkeyed
  rfl

theorem KeyParts.length_lead {line : Line} (p : KeyParts line) : p.lead.length = indent line := by
  have hindent := indent_append p.lead_blanks (p.key_isKey.head_not_blank (p.gap ++ ':' :: p.rest))
  rw [← p.line_eq] at hindent
  exact hindent.symm

theorem ElementParts.length_lead {line : Line} (p : ElementParts line) :
    p.lead.length = indent line := by
  have hmarker : ∀ c ∈ ('-' :: (p.space ++ (p.id ++ (p.gap ++ ':' :: p.rest)))).head?,
      isBlank c = false := by
    rintro c ⟨⟩
    decide
  have hindent := indent_append p.lead_blanks hmarker
  rw [← p.line_eq] at hindent
  exact hindent.symm

theorem exists_keyParts_iff {line : Line} {k : List Char} :
    (∃ p : KeyParts line, p.key = k) ↔ IsKey k ∧ KeyLine k line := by
  constructor
  · rintro ⟨p, rfl⟩
    exact ⟨p.key_isKey, p.lead, p.gap, p.rest, p.lead_blanks, p.gap_blanks, p.line_eq⟩
  · rintro ⟨hk, u, v, rest, hu, hv, hline⟩
    exact ⟨⟨u, k, v, rest, hu, hk, hv, hline⟩, rfl⟩

theorem exists_elementParts_iff {line : Line} {id : List Char} :
    (∃ p : ElementParts line, p.id = id) ↔ IsKey id ∧ ElementLine id line := by
  constructor
  · rintro ⟨p, rfl⟩
    exact ⟨p.id_isKey, p.lead, p.space, p.gap, p.rest, p.lead_blanks, p.space_blanks, p.gap_blanks,
      p.line_eq⟩
  · rintro ⟨hid, u, v, w, rest, hu, hv, hw, hline⟩
    exact ⟨⟨u, v, id, w, rest, hu, hv, hid, hw, hline⟩, rfl⟩

theorem not_blanks_of_colon {line : Line} (h : ':' ∈ line) : ¬ Blanks line := fun hblank =>
  absurd (hblank ':' h) (by decide)

theorem KeyParts.colon_mem {line : Line} (p : KeyParts line) : ':' ∈ line := by
  rw [p.line_eq]
  simp

theorem ElementParts.colon_mem {line : Line} (p : ElementParts line) : ':' ∈ line := by
  rw [p.line_eq]
  simp

/-- The recognisers accept exactly their grammars.  A line has the key `k` exactly if it can be cut
into blanks, `k`, blanks, a colon and anything; it opens the element `id` exactly if it can be cut
into blanks, the marker, blanks, `id`, blanks, a colon and anything.  There is at most one such cut,
it starts with the indentation of the line, and a blank line has none. -/
theorem recognisers_exact (line : Line) :
    (∀ k : String, key? line = some k ↔ ∃ p : KeyParts line, p.key = k.toList) ∧
      (∀ id : String, element? line = some id ↔ ∃ p : ElementParts line, p.id = id.toList) ∧
      (∀ p q : KeyParts line, p = q) ∧ (∀ p q : ElementParts line, p = q) ∧
      (∀ p : KeyParts line, p.lead.length = indent line) ∧
      (∀ p : ElementParts line, p.lead.length = indent line) ∧
      (Blanks line → key? line = none ∧ element? line = none) := by
  have hkey : ∀ k : String, key? line = some k ↔ ∃ p : KeyParts line, p.key = k.toList := fun k =>
    key?_eq_some_iff.trans exists_keyParts_iff.symm
  have helement : ∀ id : String, element? line = some id ↔
      ∃ p : ElementParts line, p.id = id.toList := fun id =>
    element?_eq_some_iff.trans exists_elementParts_iff.symm
  refine ⟨hkey, helement, KeyParts.unique, ElementParts.unique, KeyParts.length_lead,
    ElementParts.length_lead, ?_⟩
  intro hblank
  constructor
  · apply Option.eq_none_iff_forall_ne_some.mpr
    intro k hk
    obtain ⟨p, _⟩ := (hkey k).mp hk
    exact not_blanks_of_colon p.colon_mem hblank
  · apply Option.eq_none_iff_forall_ne_some.mpr
    intro id hid
    obtain ⟨p, _⟩ := (helement id).mp hid
    exact not_blanks_of_colon p.colon_mem hblank

/-- Dashes inside an identifier, two colons, and blanks of other scripts; and a line of such blanks.
-/
theorem recognisers_exact_dashes :
    let line := "\u3000 - -x-y\u00a0: a: b".toList
    (∃ p : ElementParts line, p.id = "-x-y".toList) ∧ (∀ p : ElementParts line, p.lead.length = 2) ∧
      ¬ (∃ p : KeyParts line, p.key = "-".toList) ∧ key? "\t\u3000".toList = none := by
  intro line
  obtain ⟨hkey, helement, _, _, _, hlead, _⟩ := recognisers_exact line
  refine ⟨(helement "-x-y").mp (by decide), hlead, ?_, ?_⟩
  · intro hparts
    exact absurd ((hkey "-").mpr hparts) (by decide)
  · exact ((recognisers_exact "\t\u3000".toList).2.2.2.2.2.2 (by decide)).1

end SchemaAssist.Document
