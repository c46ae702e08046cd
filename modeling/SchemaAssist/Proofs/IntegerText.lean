/-
  The grammar of integers.

  A decimal integer is written as padding, a sign or none, digits of any script with single
  underscores between them, and padding; it has at most 4300 digits.  These texts are read, each
  with the value of its digits, and no others (`readInteger_eq_ok_iff`).
-/
import Mathlib.Data.List.TakeWhile
import SchemaAssist.Number.Reading

namespace SchemaAssist.Number

open Text

/-! ### The grammar -/

/-- Digits with single underscores between them, and the values of the digits. -/
inductive DigitGroups : List Char → List Nat → Prop where
  | single {c : Char} {d : Nat} (digit : decimalDigit? c = some d) : DigitGroups [c] [d]
  | cons {c : Char} {d : Nat} {s : List Char} {ds : List Nat} (digit : decimalDigit? c = some d)
      (rest : DigitGroups s ds) : DigitGroups (c :: s) (d :: ds)
  | underscore {c : Char} {d : Nat} {s : List Char} {ds : List Nat} (digit : decimalDigit? c =
    some d)
      (rest : DigitGroups s ds) : DigitGroups (c :: '_' :: s) (d :: ds)

/-- The signs, and whether they make a number negative. -/
def signs : List (List Char × Bool) := [([], false), (['+'], false), (['-'], true)]

/-- A text that is written as an integer, and the integer. -/
def IntegerText (s : List Char) (n : Int) : Prop :=
  ∃ pad sign negative digits ds pad', s = pad ++ (sign ++ (digits ++ pad')) ∧
    (∀ c ∈ pad, isPadding c = true) ∧ (sign, negative) ∈ signs ∧ DigitGroups digits ds ∧
    ds.length ≤ maxDigits ∧ (∀ c ∈ pad', isPadding c = true) ∧
    n = if negative then -(ofDigits 10 ds : Int) else ofDigits 10 ds

/-! ### Digits and padding -/

/-- Where the runs of digits lie among the blanks. -/
theorem digitZeros_ranges :
    ∀ z ∈ digitZeros, z = 0x30 ∨ (0x660 ≤ z ∧ z + 9 < 0x1680) ∨ (0x1680 < z ∧ z + 9 < 0x2000) ∨
      0x3000 < z := by
  decide

theorem decimalDigit?_eq_none {c : Char} (h : ∀ z ∈ digitZeros, ¬ (z ≤ c.toNat ∧ c.toNat ≤ z + 9)) :
    decimalDigit? c = none := by
  have hnone : (digitZeros.find? fun z => decide (z ≤ c.toNat) && decide (c.toNat ≤ z + 9)) =
      none := by
    rw [List.find?_eq_none]
    intro z hz hrange
    rw [Bool.and_eq_true, decide_eq_true_eq, decide_eq_true_eq] at hrange
    exact h z hz hrange
  rw [decimalDigit?, hnone]
  rfl

theorem decimalDigit?_lt {c : Char} {d : Nat} (h : decimalDigit? c = some d) : d < 10 := by
  obtain ⟨z, hz, rfl⟩ := Option.map_eq_some_iff.mp h
  have hrange := List.find?_some hz
  rw [Bool.and_eq_true, decide_eq_true_eq, decide_eq_true_eq] at hrange
  omega

/-- Between the ASCII digits and the first digits of another script there are none. -/
theorem decimalDigit?_of_letter {c : Char} (hlow : 0x3A ≤ c.toNat) (hhigh : c.toNat < 0x660) :
    decimalDigit? c = none := by
  apply decimalDigit?_eq_none
  intro z hz
  have hrange := digitZeros_ranges z hz
  omega

theorem decimalDigit?_of_isPadding {c : Char} (h : isPadding c = true) :
    decimalDigit? c = none := by
  have hblank : isBlank c = true := (Bool.and_eq_true_iff.mp h).1
  simp only [isBlank, Bool.or_eq_true, Bool.and_eq_true, decide_eq_true_eq, beq_iff_eq] at hblank
  apply decimalDigit?_eq_none
  intro z hz
  have hrange := digitZeros_ranges z hz
  omega

/-- In base ten a digit is a decimal digit. -/
theorem baseDigit?_ten (c : Char) : baseDigit? 10 c = decimalDigit? c := by
  unfold baseDigit? digitValue?
  split
  · rename_i hletter
    have hbounds : 97 ≤ c.toNat ∧ c.toNat ≤ 102 := hletter
    rw [decimalDigit?_of_letter (by omega) (by omega)]
    simp
  · split
    · rename_i hletter
      have hbounds : 65 ≤ c.toNat ∧ c.toNat ≤ 70 := hletter
      rw [decimalDigit?_of_letter (by omega) (by omega)]
      simp
    · cases hdigit : decimalDigit? c with
      | none => rfl
      | some d => simp [decimalDigit?_lt hdigit]

/-! ### Reading digits -/

/-- Where a run of digits stops: at a character that is no digit and no underscore. -/
def EndsDigits (s : List Char) : Prop := ∀ c ∈ s.head?, decimalDigit? c = none ∧ c ≠ '_'

theorem endsDigits_of_padding {s : List Char} (h : ∀ c ∈ s, isPadding c = true) : EndsDigits s := by
  intro c hc
  have hpadding : isPadding c = true := h c (List.mem_of_mem_head? hc)
  refine ⟨decimalDigit?_of_isPadding hpadding, ?_⟩
  rintro rfl
  exact absurd hpadding (by decide)

theorem scanDigits_digit {c : Char} {d : Nat} (h : decimalDigit? c = some d) (afterDigit : Bool)
    (rest : List Char) :
    scanDigits 10 afterDigit (c :: rest) =
      ⟨d :: (scanDigits 10 true rest).digits, (scanDigits 10 true rest).broken,
        (scanDigits 10 true rest).rest⟩ := by
  rw [← baseDigit?_ten] at h
  rw [scanDigits, h]

theorem scanDigits_underscore (afterDigit : Bool) (rest : List Char) :
    scanDigits 10 afterDigit ('_' :: rest) =
      if afterDigit then scanDigits 10 false rest else ⟨[], true, rest⟩ := by
  have hnone : baseDigit? 10 '_' = none := by decide
  rw [scanDigits, hnone]
  rfl

theorem scanDigits_stop {s : List Char} (h : EndsDigits s) (afterDigit : Bool) :
    scanDigits 10 afterDigit s = ⟨[], !afterDigit, s⟩ := by
  cases s with
  | nil => rfl
  | cons c rest =>
    obtain ⟨hdigit, hunderscore⟩ := h c rfl
    rw [← baseDigit?_ten] at hdigit
    rw [scanDigits, hdigit]
    exact if_neg hunderscore

/-- Groups of digits are read to their end. -/
theorem scanDigits_groups {s tail : List Char} {ds : List Nat} (h : DigitGroups s ds)
    (htail : EndsDigits tail) (afterDigit : Bool) :
    scanDigits 10 afterDigit (s ++ tail) = ⟨ds, false, tail⟩ := by
  induction h generalizing afterDigit with
  | single digit =>
    rw [List.cons_append, List.nil_append, scanDigits_digit digit, scanDigits_stop htail]
    rfl
  | cons digit rest ih => rw [List.cons_append, scanDigits_digit digit, ih]
  | underscore digit rest ih =>
    rw [List.cons_append, List.cons_append, scanDigits_digit digit, scanDigits_underscore,
      if_pos rfl, ih]

/-- What can follow a digit: nothing more, more digits, or an underscore and more digits. -/
def Continues (s : List Char) (ds : List Nat) : Prop :=
  (s = [] ∧ ds = []) ∨ DigitGroups s ds ∨ ∃ more, s = '_' :: more ∧ DigitGroups more ds

theorem DigitGroups.of_continues {c : Char} {d : Nat} (hc : decimalDigit? c = some d)
    {s : List Char} {ds : List Nat} (h : Continues s ds) : DigitGroups (c :: s) (d :: ds) := by
  rcases h with ⟨rfl, rfl⟩ | hmore | ⟨more, rfl, hmore⟩
  · exact .single hc
  · exact .cons hc hmore
  · exact .underscore hc hmore

/-- What was read without a break is groups of digits. -/
theorem groups_of_scanDigits (afterDigit : Bool) (s : List Char)
    (h : (scanDigits 10 afterDigit s).broken = false) :
    ∃ front, s = front ++ (scanDigits 10 afterDigit s).rest ∧
      (DigitGroups front (scanDigits 10 afterDigit s).digits ∨
        afterDigit = true ∧ Continues front (scanDigits 10 afterDigit s).digits) := by
  -- The flag decides what may come first: behind a digit also the end or an underscore.
  induction s generalizing afterDigit with
  | nil =>
    have hafter : afterDigit = true := by simpa [scanDigits] using h
    exact ⟨[], rfl, Or.inr ⟨hafter, Or.inl ⟨rfl, rfl⟩⟩⟩
  | cons c rest ih =>
    cases hdigit : decimalDigit? c with
    | some d =>
      rw [scanDigits_digit hdigit] at h ⊢
      obtain ⟨front, hrest, hfront⟩ := ih true h
      refine ⟨c :: front, congrArg (c :: ·) hrest, Or.inl ?_⟩
      rcases hfront with hgroups | ⟨_, hcontinues⟩
      · exact .cons hdigit hgroups
      · exact .of_continues hdigit hcontinues
    | none =>
      by_cases hunderscore : c = '_'
      · subst hunderscore
        rw [scanDigits_underscore] at h ⊢
        cases afterDigit with
        | false => cases h
        | true =>
          obtain ⟨front, hrest, hfront⟩ := ih false h
          rcases hfront with hgroups | ⟨hafter, _⟩
          · exact ⟨'_' :: front, congrArg ('_' :: ·) hrest,
              Or.inr ⟨rfl, Or.inr (Or.inr ⟨front, rfl, hgroups⟩)⟩⟩
          · cases hafter
      · have hstop : EndsDigits (c :: rest) := by
          rintro x ⟨⟩
          exact ⟨hdigit, hunderscore⟩
        rw [scanDigits_stop hstop] at h ⊢
        have hafter : afterDigit = true := by simpa using h
        exact ⟨[], rfl, Or.inr ⟨hafter, Or.inl ⟨rfl, rfl⟩⟩⟩

/-! ### Signs -/

theorem mem_signs {sign : List Char} {negative : Bool} :
    (sign, negative) ∈ signs ↔
      (sign = [] ∧ negative = false) ∨ (sign = ['+'] ∧ negative = false) ∨
        (sign = ['-'] ∧ negative = true) := by
  simp [signs]

theorem takeSign_append {sign : List Char} {negative : Bool} (hsign : (sign, negative) ∈ signs)
    {body : List Char} (hminus : body.head? ≠ some '-') (hplus : body.head? ≠ some '+') :
    takeSign (sign ++ body) = (negative, body) := by
  rcases mem_signs.mp hsign with ⟨rfl, rfl⟩ | ⟨rfl, rfl⟩ | ⟨rfl, rfl⟩
  · rw [List.nil_append]
    unfold takeSign
    split
    · exact (hminus rfl).elim
    · exact (hplus rfl).elim
    · rfl
  · rfl
  · rfl

theorem exists_sign (s : List Char) :
    ∃ sign, (sign, (takeSign s).1) ∈ signs ∧ s = sign ++ (takeSign s).2 := by
  unfold takeSign
  split
  · exact ⟨['-'], by simp [signs], rfl⟩
  · exact ⟨['+'], by simp [signs], rfl⟩
  · exact ⟨[], by simp [signs], rfl⟩

theorem DigitGroups.exists_head {s : List Char} {ds : List Nat} (h : DigitGroups s ds) :
    ∃ c rest, s = c :: rest ∧ (decimalDigit? c).isSome = true := by
  cases h with
  | single digit => exact ⟨_, _, rfl, by rw [digit]; rfl⟩
  | cons digit rest => exact ⟨_, _, rfl, by rw [digit]; rfl⟩
  | underscore digit rest => exact ⟨_, _, rfl, by rw [digit]; rfl⟩

/-- What comes after the padding of an integer is no padding. -/
theorem dropWhile_isPadding {sign digits : List Char} {negative : Bool} {ds : List Nat}
    (hsign : (sign, negative) ∈ signs) (hdigits : DigitGroups digits ds) (tail : List Char) :
    (sign ++ (digits ++ tail)).dropWhile isPadding = sign ++ (digits ++ tail) := by
  obtain ⟨c, rest, rfl, hc⟩ := hdigits.exists_head
  have hpadding : isPadding c = false := by
    by_contra hpadding
    rw [decimalDigit?_of_isPadding (eq_true_of_ne_false hpadding)] at hc
    cases hc
  rcases mem_signs.mp hsign with ⟨rfl, rfl⟩ | ⟨rfl, rfl⟩ | ⟨rfl, rfl⟩
  · simp [hpadding]
  · rfl
  · rfl

/-! ### Reading integers -/

/-- The steps of reading a decimal integer. -/
theorem readInteger_ten (s : List Char) :
    let run := scanDigits 10 false (takeSign (s.dropWhile isPadding)).2
    readInteger 10 s =
      if run.broken then .error (.integerText 10 (String.ofList s))
      else if maxDigits < run.digits.length then .error (.digitLimit run.digits.length)
      else if run.rest.all isPadding then
        .ok (if (takeSign (s.dropWhile isPadding)).1 then -(ofDigits 10 run.digits : Int)
          else ofDigits 10 run.digits)
      else .error (.integerText 10 (String.ofList s)) := by
  have hbase : ∀ body, dropBase 10 body = body := by
    intro body
    unfold dropBase
    split
    · contradiction
    · rfl
  simp only [readInteger, hbase, true_and]

/-- A text reads as a decimal integer exactly if it is written as one. -/
theorem readInteger_eq_ok_iff {s : List Char} {n : Int} :
    readInteger 10 s = .ok n ↔ IntegerText s n := by
  rw [readInteger_ten]
  constructor
  · intro h
    split at h
    · cases h
    rename_i hbroken
    split at h
    · cases h
    rename_i hlimit
    split at h
    · rename_i hrest
      obtain ⟨sign, hsign, hbody⟩ := exists_sign (s.dropWhile isPadding)
      obtain ⟨digits, hdigits, hgroups⟩ :=
        groups_of_scanDigits false _ (eq_false_of_ne_true hbroken)
      have hgroups := hgroups.resolve_right (fun hafter => Bool.false_ne_true hafter.1)
      refine ⟨s.takeWhile isPadding, sign, _, digits, _, _, ?_, ?_, hsign, hgroups,
        Nat.not_lt.mp hlimit,
        List.all_eq_true.mp hrest, (Except.ok.inj h).symm⟩
      · rw [← hdigits, ← hbody, List.takeWhile_append_dropWhile]
      · exact fun c hc => List.mem_takeWhile_imp hc
    · cases h
  · rintro ⟨pad, sign, negative, digits, ds, pad', rfl, hpad, hsign, hgroups, hlimit, hpad', rfl⟩
    obtain ⟨c, rest, rfl, hc⟩ := hgroups.exists_head
    have hminus : (c :: rest ++ pad').head? ≠ some '-' := by
      rintro ⟨⟩
      exact absurd hc (by decide)
    have hplus : (c :: rest ++ pad').head? ≠ some '+' := by
      rintro ⟨⟩
      exact absurd hc (by decide)
    rw [List.dropWhile_append_of_pos hpad, dropWhile_isPadding hsign hgroups,
      takeSign_append hsign hminus hplus,
      scanDigits_groups hgroups (endsDigits_of_padding hpad')]
    simp [Nat.not_lt.mpr hlimit, List.all_eq_true.mpr hpad']

/-- A text is refused for how it is written, or for how many digits it has. -/
theorem readInteger_eq_error {s : List Char} {f : Fault} (h : readInteger 10 s = .error f) :
    f = .integerText 10 (String.ofList s) ∨ ∃ count, f = .digitLimit count := by
  rw [readInteger_ten] at h
  split at h
  · cases h
    exact Or.inl rfl
  · split at h
    · cases h
      exact Or.inr ⟨_, rfl⟩
    · split at h
      · cases h
      · cases h
        exact Or.inl rfl

end SchemaAssist.Number
