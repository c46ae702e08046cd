/-
  Reading back what was written.

  A value without doubles, whose integers have at most 4300 digits and whose objects name no member
  twice, is read back from its text as it was (`parse_render`).  The reader works on what is left of
  a text, so the statements below have a text behind the written one; for a number that text must
  not go on with it.
-/
import SchemaAssist.Json.Parser
import SchemaAssist.Proofs.JsonText

namespace SchemaAssist.Json

open Number Text

/-- A value that survives being written and read: its integers are within the digit limit, its
objects name no member twice, and it holds no double. -/
inductive Plain : Json → Prop where
  | null : Plain null
  | bool (b : Bool) : Plain (bool b)
  | int {n : Int} (h : (Nat.toDigits 10 n.natAbs).length ≤ maxDigits) : Plain (int n)
  | str (s : String) : Plain (str s)
  | arr {items : List Json} (h : ∀ v ∈ items, Plain v) : Plain (arr items)
  | obj {members : List (String × Json)} (hnames : (members.map (·.1)).Nodup)
      (h : ∀ m ∈ members, Plain m.2) : Plain (obj members)

/-! ### Escapes -/

theorem hexValue?_digitChar : ∀ d < 16, hexValue? d.digitChar = some d := by decide

theorem hexDigits_succ {k : Nat} (hk : 0 < k) (n : Nat) :
    hexDigits (k + 1) n = hexDigits k (n / 16) ++ [(n % 16).digitChar] := by
  simp only [hexDigits]
  by_cases h : n < 16
  · have hzero : n / 16 = 0 := by omega
    have hmod : n % 16 = n := by omega
    have hpad : List.replicate k '0' = List.replicate (k - 1) '0' ++ ['0'] := by
      rw [← List.replicate_succ', Nat.sub_add_cancel hk]
    rw [hzero, hmod, Nat.toDigits_of_lt_base h, Nat.toDigits_zero]
    simp only [List.length_cons, List.length_nil, Nat.zero_add, Nat.add_sub_cancel, hpad]
  · rw [Nat.toDigits_of_base_le (by decide) (Nat.le_of_not_lt h), List.length_append,
      List.length_singleton,
      Nat.add_sub_add_right, List.append_assoc]

theorem hexUnit?_hexDigits {n : Nat} (h : n < 0x10000) (rest : List Char) :
    hexUnit? (hexDigits 4 n ++ rest) = some (n, rest) := by
  have hlead : hexDigits 1 (n / 16 / 16 / 16) = [(n / 16 / 16 / 16).digitChar] := by
    rw [hexDigits, Nat.toDigits_of_lt_base (by omega)]
    rfl
  rw [hexDigits_succ (by decide), hexDigits_succ (by decide), hexDigits_succ (by decide), hlead]
  simp only [List.cons_append, List.nil_append, hexUnit?]
  rw [hexValue?_digitChar _ (by omega), hexValue?_digitChar _ (by omega),
    hexValue?_digitChar _ (by omega),
    hexValue?_digitChar _ (by omega)]
  simp only [Option.some.injEq, Prod.mk.injEq, and_true]
  omega

theorem unitEscape_append (n : Nat) (rest : List Char) :
    unitEscape n ++ rest = '\\' :: 'u' :: (hexDigits 4 n ++ rest) := rfl

theorem length_hexDigits_four {n : Nat} (h : n < 0x10000) : (hexDigits 4 n).length = 4 := by
  have hdigits : (Nat.toDigits 16 n).length ≤ 4 :=
    (Nat.length_toDigits_le_iff (by decide) (by decide)).mpr h
  rw [hexDigits, List.length_append, List.length_replicate]
  omega

/-- A character is no half of a surrogate pair. -/
theorem toNat_scalar (c : Char) :
    c.toNat < 0xD800 ∨ 0xDFFF < c.toNat ∧ c.toNat < 0x110000 := c.valid

/-- The escape of a character of the basic plane. -/
theorem unicodeEscape_unit {c : Char} (h : c.toNat ≤ 0xFFFF) {rest : List Char}
    (hrest : rest ≠ []) :
    unicodeEscape (hexDigits 4 c.toNat ++ rest) = .ok (c, rest) := by
  have hscalar := toNat_scalar c
  have hhigh : isHigh c.toNat = false := by
    simp only [isHigh, Bool.and_eq_false_iff, decide_eq_false_iff_not]
    omega
  have hlow : isLow c.toNat = false := by
    simp only [isLow, Bool.and_eq_false_iff, decide_eq_false_iff_not]
    omega
  have hchar : unitChar c.toNat = c := by
    rw [unitChar, hhigh, hlow]
    exact Char.ofNat_toNat c
  unfold unicodeEscape
  rw [hexUnit?_hexDigits (by omega)]
  cases rest with
  | nil => exact (hrest rfl).elim
  | cons x more => simp only [hhigh, hchar]

theorem unicodeEscape_surrogates {high low : Nat} (hhigh : isHigh high = true)
    (hlow : isLow low = true) {rest : List Char} (hrest : rest ≠ []) :
    unicodeEscape (hexDigits 4 high ++ (unitEscape low ++ rest)) =
      .ok (Char.ofNat (0x10000 + (high - 0xD800) * 0x400 + (low - 0xDC00)), rest) := by
  have hhigh' : high < 0x10000 := by
    simp only [isHigh, Bool.and_eq_true, decide_eq_true_eq] at hhigh
    omega
  have hlow' : low < 0x10000 := by
    simp only [isLow, Bool.and_eq_true, decide_eq_true_eq] at hlow
    omega
  have hlong : 4 < (hexDigits 4 low ++ rest).length := by
    have hpos := List.length_pos_iff.mpr hrest
    rw [List.length_append, length_hexDigits_four hlow']
    omega
  unfold unicodeEscape
  rw [hexUnit?_hexDigits hhigh']
  simp only [unitEscape_append, hhigh]
  rw [if_pos hlong, hexUnit?_hexDigits hlow']
  simp only [hlow, if_true]

/-- The two escapes of a character beyond the basic plane. -/
theorem unicodeEscape_pair {c : Char} (h : 0xFFFF < c.toNat) {rest : List Char}
    (hrest : rest ≠ []) :
    unicodeEscape (hexDigits 4 (0xD800 + (c.toNat - 0x10000) / 0x400) ++
      (unitEscape (0xDC00 + (c.toNat - 0x10000) % 0x400) ++ rest)) = .ok (c, rest) := by
  have hscalar := toNat_scalar c
  have hhigh : isHigh (0xD800 + (c.toNat - 0x10000) / 0x400) = true := by
    simp only [isHigh, Bool.and_eq_true, decide_eq_true_eq]
    omega
  have hlow : isLow (0xDC00 + (c.toNat - 0x10000) % 0x400) = true := by
    simp only [isLow, Bool.and_eq_true, decide_eq_true_eq]
    omega
  have hchar : 0x10000 + (0xD800 + (c.toNat - 0x10000) / 0x400 - 0xD800) * 0x400 +
      (0xDC00 + (c.toNat - 0x10000) % 0x400 - 0xDC00) = c.toNat := by omega
  rw [unicodeEscape_surrogates hhigh hlow hrest, hchar, Char.ofNat_toNat]

/-! ### Strings -/

theorem stringBody_unicodeEscape {start fuel : Nat} {c : Char} {s rest body final : List Char}
    (hescape : unicodeEscape s = .ok (c, rest))
    (h : stringBody start fuel rest = .ok (body, final)) :
    stringBody start (fuel + 1) ('\\' :: 'u' :: s) = .ok (c :: body, final) := by
  simp [stringBody, hescape, h, bind, Except.bind, pure, Except.pure]

theorem stringBody_escapeChar {start fuel : Nat} (c : Char) {rest body final : List Char}
    (hrest : rest ≠ []) (h : stringBody start fuel rest = .ok (body, final)) :
    stringBody start (fuel + 1) (escapeChar c ++ rest) = .ok (c :: body, final) := by
  unfold escapeChar
  iterate 7
    split
    · rename_i hc
      subst hc
      simp [stringBody, simpleEscape?, h, bind, Except.bind, pure, Except.pure]
  split
  · rename_i hquote hslash _ _ _ _ _ hprintable
    have hcontrol : ¬ c.toNat ≤ 0x1F := by omega
    simp [stringBody, hquote, hslash, hcontrol, h, bind, Except.bind, pure, Except.pure]
  · split
    · rename_i hunit
      rw [unitEscape_append]
      exact stringBody_unicodeEscape (unicodeEscape_unit hunit hrest) h
    · rename_i hunit
      simp only
      rw [List.append_assoc, unitEscape_append]
      exact stringBody_unicodeEscape (unicodeEscape_pair (Nat.lt_of_not_le hunit) hrest) h

theorem stringBody_written (start : Nat) (s rest : List Char) {fuel : Nat}
    (hfuel : s.length < fuel) :
    stringBody start fuel (s.flatMap escapeChar ++ '"' :: rest) = .ok (s, rest) := by
  induction s generalizing fuel with
  | nil =>
    obtain ⟨fuel, rfl⟩ : ∃ k, fuel = k + 1 := ⟨fuel - 1, by simp at hfuel; omega⟩
    simp [stringBody]
  | cons c s ih =>
    obtain ⟨fuel, rfl⟩ : ∃ k, fuel = k + 1 := ⟨fuel - 1, by simp at hfuel; omega⟩
    have hrest : s.flatMap escapeChar ++ '"' :: rest ≠ [] := by simp
    rw [List.flatMap_cons, List.append_assoc]
    exact stringBody_escapeChar c hrest (ih (by simp at hfuel; omega))

theorem escapeChar_ne_nil (c : Char) : escapeChar c ≠ [] := by
  have hunit (n : Nat) : unitEscape n ≠ [] := List.cons_ne_nil _ _
  unfold escapeChar
  iterate 8
    split
    · exact List.cons_ne_nil _ _
  split
  · exact hunit _
  · exact List.append_ne_nil_of_left_ne_nil (hunit _) _

theorem length_le_flatMap_escapeChar (s : List Char) :
    s.length ≤ (s.flatMap escapeChar).length := by
  induction s with
  | nil => simp
  | cons c s ih =>
    have hpos := List.length_pos_iff.mpr (escapeChar_ne_nil c)
    rw [List.flatMap_cons, List.length_append, List.length_cons]
    omega

/-- A string is read back from after its opening quote. -/
theorem stringFrom_written (s : String) (rest : List Char) :
    stringFrom (s.toList.flatMap escapeChar ++ '"' :: rest) = .ok (s, rest) := by
  have hfuel : s.toList.length < (s.toList.flatMap escapeChar ++ '"' :: rest).length + 1 := by
    have hle := length_le_flatMap_escapeChar s.toList
    rw [List.length_append]
    omega
  unfold stringFrom
  rw [stringBody_written _ _ _ hfuel]
  simp [bind, Except.bind, pure, Except.pure]

/-! ### Numbers -/

theorem natOfDigits_toDigits (n : Nat) : natOfDigits (Nat.toDigits 10 n) = n := by
  have hcore : Nat.ofDigitChars 10 (Nat.toDigits 10 n) 0 = n := Nat.ofDigitChars_ten_toDigits
  rw [Nat.ofDigitChars_eq_foldl] at hcore
  simpa only [natOfDigits, Nat.mul_comm] using hcore

theorem toDigits_head_ne_zero {n : Nat} (hn : n ≠ 0) :
    ∃ d ds, Nat.toDigits 10 n = d :: ds ∧ d ≠ '0' := by
  induction n using Nat.strongRecOn with
  | ind n ih =>
    by_cases h : n < 10
    · refine ⟨n.digitChar, [], Nat.toDigits_of_lt_base h, ?_⟩
      exact fun hzero => hn (Nat.digitChar_eq_zero.mp hzero)
    · obtain ⟨d, ds, hds, hd⟩ := ih (n / 10) (by omega) (by omega)
      refine ⟨d, ds ++ [(n % 10).digitChar], ?_, hd⟩
      rw [Nat.toDigits_of_base_le (by decide) (Nat.le_of_not_lt h), hds, List.cons_append]

/-- A text that does not go on with a number. -/
def EndsNumber (rest : List Char) : Prop :=
  ∀ c ∈ rest.head?, c.isDigit = false ∧ c ≠ '.' ∧ c ≠ 'e' ∧ c ≠ 'E'

theorem spanDigits_toDigits (n : Nat) {rest : List Char} (hrest : EndsNumber rest) :
    spanDigits (Nat.toDigits 10 n ++ rest) = (Nat.toDigits 10 n, rest) := by
  have hdigits : ∀ c ∈ Nat.toDigits 10 n, c.isDigit = true := fun c hc =>
    Nat.isDigit_of_mem_toDigits (by decide) (by decide) hc
  rw [spanDigits, List.takeWhile_append_of_pos hdigits, List.dropWhile_append_of_pos hdigits]
  cases rest with
  | nil => simp
  | cons c more => simp [(hrest c rfl).1]

theorem wholeDigits_toDigits (n : Nat) {rest : List Char} (hrest : EndsNumber rest) :
    wholeDigits (Nat.toDigits 10 n ++ rest) = (Nat.toDigits 10 n, rest) := by
  by_cases hn : n = 0
  · subst hn
    rfl
  · obtain ⟨d, ds, hds, hd⟩ := toDigits_head_ne_zero hn
    rw [← spanDigits_toDigits n hrest, hds, List.cons_append]
    unfold wholeDigits
    split
    · rename_i more heq
      exact (hd (List.cons.inj heq).1).elim
    · rfl

theorem fraction_of_endsNumber {rest : List Char} (hrest : EndsNumber rest) :
    fraction rest = ([], rest) := by
  unfold fraction
  split
  · exact ((hrest '.' rfl).2.1 rfl).elim
  · rfl

theorem scanExponent_of_endsNumber {rest : List Char} (hrest : EndsNumber rest) :
    scanExponent rest = (0, rest) := by
  cases rest with
  | nil => rfl
  | cons c more =>
    obtain ⟨_, _, he, hE⟩ := hrest c rfl
    simp [scanExponent, he, hE]

/-- The first digit of a number, which no word starts with. -/
theorem toDigits_cons (n : Nat) : ∃ d ds, Nat.toDigits 10 n = d :: ds ∧ d.isDigit = true := by
  cases hds : Nat.toDigits 10 n with
  | nil => exact (Nat.toDigits_ne_nil hds).elim
  | cons d ds =>
    refine ⟨d, ds, rfl, Nat.isDigit_of_mem_toDigits (b := 10) (n := n) (by decide) (by decide) ?_⟩
    rw [hds]
    exact List.mem_cons_self

theorem ne_of_isDigit {d c : Char} (hd : d.isDigit = true) (hc : c.isDigit = false) : d ≠ c := by
  rintro rfl
  rw [hd] at hc
  cases hc

theorem number_renderInt {n : Int} (hn : (Nat.toDigits 10 n.natAbs).length ≤ maxDigits)
    {rest : List Char} (hrest : EndsNumber rest) :
    number (renderInt n ++ rest) = .ok (int n, rest) := by
  obtain ⟨d, ds, hds, hd⟩ := toDigits_cons n.natAbs
  have hwhole := wholeDigits_toDigits n.natAbs hrest
  have hvalue := natOfDigits_toDigits n.natAbs
  rw [hds] at hn hwhole hvalue
  rw [List.cons_append] at hwhole
  have hlimit : ¬ maxDigits < (d :: ds).length := Nat.not_lt.mpr hn
  have hplain := fraction_of_endsNumber hrest
  have hpower := scanExponent_of_endsNumber hrest
  unfold number
  by_cases hneg : n < 0
  · have htext : renderInt n ++ rest = '-' :: d :: (ds ++ rest) := by
      rw [renderInt, if_pos hneg, hds]
      rfl
    have hsigned : -(n.natAbs : Int) = n := by omega
    rw [htext]
    simp only [hwhole, hplain, hpower, hvalue, List.isEmpty_cons, List.isEmpty_nil, Bool.true_and,
      beq_self_eq_true,
      if_true, hlimit, if_false, hsigned]
    rfl
  · have htext : renderInt n ++ rest = d :: (ds ++ rest) := by
      rw [renderInt, if_neg hneg, hds]
      rfl
    have hminus : d ≠ '-' := ne_of_isDigit hd rfl
    have hunsigned : (n.natAbs : Int) = n := by omega
    rw [htext]
    simpa [hminus, hwhole, hplain, hpower, hvalue, hunsigned] using hn

/-- The text of an integer starts with a digit, behind a sign or not. -/
theorem renderInt_cons (n : Int) :
    ∃ d ds, d.isDigit = true ∧ (renderInt n = d :: ds ∨ renderInt n = '-' :: d :: ds) := by
  obtain ⟨d, ds, hds, hd⟩ := toDigits_cons n.natAbs
  refine ⟨d, ds, hd, ?_⟩
  rw [renderInt, hds]
  split
  · exact Or.inr rfl
  · exact Or.inl rfl

theorem atom_renderInt {n : Int} (hn : (Nat.toDigits 10 n.natAbs).length ≤ maxDigits)
    {rest : List Char} (hrest : EndsNumber rest) :
    atom (renderInt n ++ rest) = .ok (int n, rest) := by
  have hwords : (words.findSome? fun e => (afterWord? e.1 (renderInt n ++ rest)).map (e.2, ·)) =
      none := by
    obtain ⟨d, ds, hd, htext⟩ := renderInt_cons n
    have hne {c : Char} (hc : c.isDigit = false) : c ≠ d := (ne_of_isDigit hd hc).symm
    rcases htext with htext | htext
    · rw [htext]
      simp [words, afterWord?, hne]
    · rw [htext]
      simp [words, afterWord?, hne]
  unfold atom
  split
  · rename_i found hfound
    have hnone : none = some found := hwords.symm.trans hfound
    cases hnone
  · exact number_renderInt hn hrest

/-! ### Values -/

theorem skipSpace_cons {c : Char} (hc : isSpace c = false) (s : List Char) :
    skipSpace (c :: s) = c :: s := by
  simp [skipSpace, hc]

theorem skipSpace_blank (s : List Char) : skipSpace (' ' :: s) = skipSpace s := rfl

theorem renderChars_cons {v : Json} (hv : Plain v) :
    ∃ c s, renderChars v = c :: s ∧ isSpace c = false ∧ c ≠ ']' := by
  cases hv with
  | null => exact ⟨'n', _, rfl, rfl, by decide⟩
  | bool b =>
    cases b
    · exact ⟨'f', _, rfl, rfl, by decide⟩
    · exact ⟨'t', _, rfl, rfl, by decide⟩
  | @int n hn =>
    obtain ⟨d, ds, hd, htext | htext⟩ := renderInt_cons n
    · refine ⟨d, ds, htext, ?_, ne_of_isDigit hd rfl⟩
      have hspace {c : Char} (hc : c.isDigit = false) : d ≠ c := ne_of_isDigit hd hc
      simp [isSpace, hspace]
    · exact ⟨'-', _, htext, rfl, by decide⟩
  | str s => exact ⟨'"', _, rfl, rfl, by decide⟩
  | arr h => exact ⟨'[', _, rfl, rfl, by decide⟩
  | obj hnames h => exact ⟨'\x7b', _, rfl, rfl, by decide⟩

theorem skipSpace_renderChars {v : Json} (hv : Plain v) (rest : List Char) :
    skipSpace (renderChars v ++ rest) = renderChars v ++ rest := by
  obtain ⟨c, s, htext, hspace, _⟩ := renderChars_cons hv
  rw [htext]
  exact skipSpace_cons hspace _

theorem put_of_not_mem {name : String} {members : List (String × Json)}
    (h : name ∉ members.map (·.1)) (v : Json) :
    put name v members = members ++ [(name, v)] := by
  induction members with
  | nil => rfl
  | cons m rest ih =>
    obtain ⟨hne, hrest⟩ : name ≠ m.1 ∧ name ∉ rest.map (·.1) := by simpa using h
    rw [put, if_neg hne.symm, ih hrest, List.cons_append]

/-- Members of distinct names are kept as they come. -/
theorem foldl_put {acc members : List (String × Json)} (h : ((acc ++ members).map (·.1)).Nodup) :
    members.foldl (fun acc m => put m.1 m.2 acc) acc = acc ++ members := by
  induction members generalizing acc with
  | nil => simp
  | cons m rest ih =>
    have hnew : m.1 ∉ acc.map (·.1) := by
      rw [List.map_append, List.nodup_append] at h
      intro hmem
      exact h.2.2 _ hmem _ (by simp) rfl
    rw [List.foldl_cons, put_of_not_mem hnew, ih (by simpa using h), List.append_assoc,
      List.singleton_append]

theorem endsNumber_cons {c : Char} (hc : c.isDigit = false ∧ c ≠ '.' ∧ c ≠ 'e' ∧ c ≠ 'E')
    (s : List Char) :
    EndsNumber (c :: s) := by
  rintro x ⟨⟩
  exact hc

theorem value_atom {c : Char} (hquote : c ≠ '"') (hbracket : c ≠ '[') (hbrace : c ≠ '\x7b')
    (fuel : Nat) (s : List Char) : value (fuel + 1) (c :: s) = atom (c :: s) := by
  rw [value, if_neg hquote, if_neg hbracket, if_neg hbrace]

theorem value_word {word : String} {v : Json}
    (h : (word, v) = ("null", null) ∨ (word, v) = ("true", bool true) ∨
      (word, v) = ("false", bool false))
    (fuel : Nat) (rest : List Char) : value (fuel + 1) (word.toList ++ rest) = .ok (v, rest) := by
  rcases h with ⟨⟨⟩⟩ | ⟨⟨⟩⟩ | ⟨⟨⟩⟩
  · have hlength : "null".length = 4 := rfl
    simp [value, atom, words, afterWord?, hlength]
  · have hlength : "true".length = 4 := rfl
    simp [value, atom, words, afterWord?, hlength]
  · have hlength : "false".length = 5 := rfl
    simp [value, atom, words, afterWord?, hlength]

theorem exists_fuel {v : Json} (hv : Plain v) {fuel : Nat} (h : (renderChars v).length ≤ fuel) :
    ∃ k, fuel = k + 1 := by
  obtain ⟨c, s, htext, _, _⟩ := renderChars_cons hv
  rw [htext, List.length_cons] at h
  exact ⟨fuel - 1, by omega⟩

theorem joinWith_items_cons {v : Json} (hv : Plain v) (items : List Json) :
    ∃ c s, joinWith [',', ' '] (renderItems (v :: items)) = c :: s ∧ isSpace c = false ∧
      c ≠ ']' := by
  obtain ⟨c, s, htext, hspace, hclose⟩ := renderChars_cons hv
  cases items with
  | nil => exact ⟨c, s, htext, hspace, hclose⟩
  | cons w more =>
    refine ⟨c, s ++ [',', ' '] ++ joinWith [',', ' '] (renderItems (w :: more)), ?_, hspace, hclose⟩
    simp [renderItems, joinWith, htext]

theorem joinWith_items (v w : Json) (items : List Json) (tail : List Char) :
    joinWith [',', ' '] (renderItems (v :: w :: items)) ++ tail =
      renderChars v ++ ',' :: ' ' :: (joinWith [',', ' '] (renderItems (w :: items)) ++ tail) := by
  simp [renderItems, joinWith]

theorem joinWith_members_cons (m : String × Json) (members : List (String × Json)) :
    ∃ s, joinWith [',', ' '] (renderMembers (m :: members)) = '"' :: s := by
  cases members with
  | nil => exact ⟨_, rfl⟩
  | cons n more => exact ⟨_, rfl⟩

theorem joinWith_member (name : String) (v : Json) (tail : List Char) :
    joinWith [',', ' '] (renderMembers [(name, v)]) ++ tail =
      '"' :: (name.toList.flatMap escapeChar ++ '"' :: ':' :: ' ' :: (renderChars v ++ tail)) := by
  simp [renderMembers, joinWith, renderString]

theorem joinWith_members (name : String) (v : Json) (m : String × Json)
    (members : List (String × Json)) (tail : List Char) :
    joinWith [',', ' '] (renderMembers ((name, v) :: m :: members)) ++ tail =
      '"' :: (name.toList.flatMap escapeChar ++ '"' :: ':' :: ' ' ::
        (renderChars v ++ ',' :: ' ' ::
          (joinWith [',', ' '] (renderMembers (m :: members)) ++ tail))) := by
  simp [renderMembers, joinWith, renderString]

-- The fuel is measured by the text, which every step of the reader shortens.
mutual

theorem value_renderChars : ∀ v : Json, Plain v → ∀ (fuel : Nat) (rest : List Char),
    (renderChars v).length ≤ fuel → EndsNumber rest →
      value fuel (renderChars v ++ rest) = .ok (v, rest)
  | null, hv, fuel, rest, hfuel, _ => by
    obtain ⟨k, rfl⟩ := exists_fuel hv hfuel
    exact value_word (Or.inl rfl) k rest
  | bool true, hv, fuel, rest, hfuel, _ => by
    obtain ⟨k, rfl⟩ := exists_fuel hv hfuel
    exact value_word (Or.inr (Or.inl rfl)) k rest
  | bool false, hv, fuel, rest, hfuel, _ => by
    obtain ⟨k, rfl⟩ := exists_fuel hv hfuel
    exact value_word (Or.inr (Or.inr rfl)) k rest
  | int n, hv, fuel, rest, hfuel, hrest => by
    obtain ⟨k, rfl⟩ := exists_fuel hv hfuel
    cases hv with
    | int hn =>
      have hatom := atom_renderInt hn hrest
      rw [renderChars]
      obtain ⟨d, ds, hd, htext | htext⟩ := renderInt_cons n
      · rw [htext] at hatom ⊢
        rw [← hatom]
        exact value_atom (ne_of_isDigit hd rfl) (ne_of_isDigit hd rfl) (ne_of_isDigit hd rfl) k _
      · rw [htext] at hatom ⊢
        rw [← hatom]
        exact value_atom (by decide) (by decide) (by decide) k _
  | str s, hv, fuel, rest, hfuel, _ => by
    obtain ⟨k, rfl⟩ := exists_fuel hv hfuel
    have hstring := stringFrom_written s rest
    simp [renderChars, renderString, value, hstring, bind, Except.bind, pure, Except.pure]
  | arr [], hv, fuel, rest, hfuel, _ => by
    obtain ⟨k, rfl⟩ := exists_fuel hv hfuel
    simp [renderChars, renderItems, joinWith, value, skipSpace, isSpace]
  | arr (v :: items), hv, fuel, rest, hfuel, _ => by
    obtain ⟨k, rfl⟩ := exists_fuel hv hfuel
    cases hv with
    | arr hitems =>
      have helements := elements_renderItems (v :: items) (List.cons_ne_nil _ _) hitems k rest
        (by simp [renderChars] at hfuel; omega)
      obtain ⟨c, s, htext, hspace, hclose⟩ :=
        joinWith_items_cons (hitems v List.mem_cons_self) items
      rw [htext, List.cons_append] at helements
      simp [renderChars, htext, value, skipSpace_cons hspace, hclose, helements, bind, Except.bind,
        pure, Except.pure]
  | obj [], hv, fuel, rest, hfuel, _ => by
    obtain ⟨k, rfl⟩ := exists_fuel hv hfuel
    simp [renderChars, renderMembers, joinWith, value, skipSpace, isSpace]
  | obj (m :: members), hv, fuel, rest, hfuel, _ => by
    obtain ⟨k, rfl⟩ := exists_fuel hv hfuel
    cases hv with
    | obj hnames hmembers =>
      have hread := members_renderMembers (m :: members) (List.cons_ne_nil _ _) hmembers k rest
        (by simp [renderChars] at hfuel; omega)
      have hput := @foldl_put [] _ hnames
      obtain ⟨s, htext⟩ := joinWith_members_cons m members
      rw [htext, List.cons_append] at hread
      simp [renderChars, htext, value, skipSpace, isSpace, hread, hput, bind, Except.bind, pure,
        Except.pure]

theorem elements_renderItems : ∀ items : List Json, items ≠ [] → (∀ v ∈ items, Plain v) →
    ∀ (fuel : Nat) (rest : List Char), (joinWith [',', ' '] (renderItems items)).length < fuel →
      elements fuel (joinWith [',', ' '] (renderItems items) ++ ']' :: rest) = .ok (items, rest)
  | [], hne, _, _, _, _ => (hne rfl).elim
  | [v], _, hitems, fuel, rest, hfuel => by
    obtain ⟨k, rfl⟩ : ∃ k, fuel = k + 1 := ⟨fuel - 1, by omega⟩
    have hv := value_renderChars v (hitems v List.mem_cons_self) k (']' :: rest)
      (by simpa [renderItems, joinWith, Nat.lt_succ_iff] using hfuel)
        (endsNumber_cons (by decide) _)
    simp [renderItems, joinWith, elements, hv, skipSpace, isSpace, bind, Except.bind, pure,
      Except.pure]
  | v :: w :: items, _, hitems, fuel, rest, hfuel => by
    obtain ⟨k, rfl⟩ : ∃ k, fuel = k + 1 := ⟨fuel - 1, by omega⟩
    have hlength := congrArg List.length (joinWith_items v w items [])
    simp only [List.append_nil, List.length_append, List.length_cons] at hlength
    have hrest := elements_renderItems (w :: items) (List.cons_ne_nil _ _)
      (fun x hx => hitems x (List.mem_cons_of_mem v hx)) k rest (by omega)
    have hv := value_renderChars v (hitems v List.mem_cons_self) k
      (',' :: ' ' :: (joinWith [',', ' '] (renderItems (w :: items)) ++ ']' :: rest)) (by omega)
      (endsNumber_cons (by decide) _)
    obtain ⟨c, s, htext, hspace, _⟩ := joinWith_items_cons (hitems w (by simp)) items
    rw [joinWith_items, elements, hv]
    rw [htext, List.cons_append] at hrest ⊢
    have hcomma (t : List Char) : skipSpace (',' :: t) = ',' :: t := skipSpace_cons rfl t
    simp [hcomma, skipSpace_blank, skipSpace_cons hspace, hrest, bind, Except.bind, pure,
      Except.pure]

theorem members_renderMembers : ∀ ms : List (String × Json), ms ≠ [] → (∀ m ∈ ms, Plain m.2) →
    ∀ (fuel : Nat) (rest : List Char), (joinWith [',', ' '] (renderMembers ms)).length < fuel →
      members fuel (joinWith [',', ' '] (renderMembers ms) ++ '\x7d' :: rest) = .ok (ms, rest)
  | [], hne, _, _, _, _ => (hne rfl).elim
  | [(name, v)], _, hms, fuel, rest, hfuel => by
    obtain ⟨k, rfl⟩ : ∃ k, fuel = k + 1 := ⟨fuel - 1, by omega⟩
    have hplain := hms _ List.mem_cons_self
    have hlength := congrArg List.length (joinWith_member name v [])
    simp only [List.append_nil, List.length_append, List.length_cons] at hlength
    have hv :=
      value_renderChars v hplain k ('\x7d' :: rest) (by omega) (endsNumber_cons (by decide) _)
    have hname := stringFrom_written name (':' :: ' ' :: (renderChars v ++ '\x7d' :: rest))
    have hclose (t : List Char) : skipSpace ('\x7d' :: t) = '\x7d' :: t := skipSpace_cons rfl t
    have hcolon (t : List Char) : skipSpace (':' :: t) = ':' :: t := skipSpace_cons rfl t
    rw [joinWith_member, members, hname]
    simp [hcolon, hclose, skipSpace_blank, skipSpace_renderChars hplain, hv, bind, Except.bind,
      pure, Except.pure]
  | (name, v) :: m :: ms, _, hms, fuel, rest, hfuel => by
    obtain ⟨k, rfl⟩ : ∃ k, fuel = k + 1 := ⟨fuel - 1, by omega⟩
    have hplain := hms _ List.mem_cons_self
    have hlength := congrArg List.length (joinWith_members name v m ms [])
    simp only [List.append_nil, List.length_append, List.length_cons] at hlength
    have hrest := members_renderMembers (m :: ms) (List.cons_ne_nil _ _)
      (fun x hx => hms x (List.mem_cons_of_mem _ hx)) k rest (by omega)
    have hv := value_renderChars v hplain k
      (',' :: ' ' :: (joinWith [',', ' '] (renderMembers (m :: ms)) ++ '\x7d' :: rest)) (by omega)
      (endsNumber_cons (by decide) _)
    have hname := stringFrom_written name (':' :: ' ' ::
      (renderChars v ++ ',' :: ' ' ::
        (joinWith [',', ' '] (renderMembers (m :: ms)) ++ '\x7d' :: rest)))
    have hcomma (t : List Char) : skipSpace (',' :: t) = ',' :: t := skipSpace_cons rfl t
    have hcolon (t : List Char) : skipSpace (':' :: t) = ':' :: t := skipSpace_cons rfl t
    have hquote (t : List Char) : skipSpace ('"' :: t) = '"' :: t := skipSpace_cons rfl t
    obtain ⟨s, htext⟩ := joinWith_members_cons m ms
    rw [joinWith_members, members, hname]
    rw [htext, List.cons_append] at hrest hv ⊢
    simp [hcolon, hcomma, hquote, skipSpace_blank, skipSpace_renderChars hplain, hv, hrest, bind,
      Except.bind, pure,
      Except.pure]

end

end SchemaAssist.Json
