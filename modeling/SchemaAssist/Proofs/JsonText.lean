/-
  The form of a written value.

  Whatever a value holds, it is written in printable ASCII (`oneLine_renderChars`).  So a text that
  was written is one line, and a line feed behind it ends that line and no other.
-/
import SchemaAssist.Json.Printer

namespace SchemaAssist.Json

open Number Text

/-- The characters from the space to the tilde. -/
def PrintableAscii (c : Char) : Prop := 0x20 ≤ c.toNat ∧ c.toNat ≤ 0x7E

instance : DecidablePred PrintableAscii := fun _ => inferInstanceAs (Decidable (_ ∧ _))

/-- A text of printable characters, which no line break is among. -/
def OneLine (s : List Char) : Prop := ∀ c ∈ s, PrintableAscii c

instance : DecidablePred OneLine := fun s => List.decidableBAll PrintableAscii s

@[simp] theorem oneLine_nil : OneLine [] := by
  intro c hc
  cases hc

@[simp] theorem oneLine_cons {c : Char} {s : List Char} :
    OneLine (c :: s) ↔ PrintableAscii c ∧ OneLine s :=
  List.forall_mem_cons

@[simp] theorem oneLine_append {s t : List Char} : OneLine (s ++ t) ↔ OneLine s ∧ OneLine t :=
  List.forall_mem_append

@[simp] theorem oneLine_reverse {s : List Char} : OneLine s.reverse ↔ OneLine s := by
  simp [OneLine]

theorem OneLine.sublist {s t : List Char} (h : OneLine t) (hst : s.Sublist t) : OneLine s :=
  fun c hc => h c (hst.mem hc)

theorem OneLine.not_mem {s : List Char} (h : OneLine s) {c : Char} (hc : ¬ PrintableAscii c) :
    c ∉ s :=
  fun hmem => hc (h c hmem)

theorem oneLine_replicate (n : Nat) {c : Char} (hc : PrintableAscii c) :
    OneLine (List.replicate n c) := by
  intro x hx
  rw [List.eq_of_mem_replicate hx]
  exact hc

/-! ### Numbers -/

theorem digitChar_printable (n : Nat) : PrintableAscii n.digitChar := by
  by_cases h : n < 16
  · revert n
    decide
  · have hstar : n.digitChar = '*' := Nat.digitChar_eq_star.mpr (by omega)
    rw [hstar]
    decide

theorem oneLine_toDigits {b : Nat} (hb : 1 < b) (n : Nat) : OneLine (Nat.toDigits b n) := by
  induction n using Nat.strongRecOn with
  | ind n ih =>
    rw [Nat.toDigits_eq_if hb]
    split
    · simpa using digitChar_printable n
    · have hrest := ih (n / b) (Nat.div_lt_self (by omega) hb)
      simpa using ⟨hrest, digitChar_printable (n % b)⟩

theorem oneLine_renderInt (n : Int) : OneLine (renderInt n) := by
  refine oneLine_append.mpr ⟨?_, oneLine_toDigits (by decide) _⟩
  split <;> decide

theorem oneLine_significant (n : Nat) : OneLine (Binary64.significant n) := by
  refine oneLine_reverse.mpr (OneLine.sublist ?_ (List.dropWhile_sublist _))
  exact oneLine_reverse.mpr (oneLine_toDigits (by decide) n)

theorem oneLine_renderPositive (m : Nat) (e : Int) : OneLine (Binary64.renderPositive m e) := by
  have htext := oneLine_significant (Binary64.shortestDigits m e).digits
  have hzeros (k : Nat) : OneLine (List.replicate k '0') := oneLine_replicate k (by decide)
  unfold Binary64.renderPositive
  simp only
  split
  · split
    · exact oneLine_append.mpr ⟨oneLine_append.mpr ⟨by decide, hzeros _⟩, htext⟩
    · split
      · exact oneLine_append.mpr ⟨oneLine_append.mpr ⟨htext, hzeros _⟩, by decide⟩
      · refine oneLine_append.mpr ⟨htext.sublist (List.take_sublist _ _),
          oneLine_cons.mpr ⟨by decide, ?_⟩⟩
        exact htext.sublist (List.drop_sublist _ _)
  · -- The exponent form: a digit, perhaps a fraction, the sign and the places of the power.
    have hplaces :=
      oneLine_toDigits (b := 10) (by decide) ((Binary64.shortestDigits m e).point - 1).natAbs
    refine oneLine_append.mpr ⟨oneLine_append.mpr ⟨oneLine_append.mpr ⟨?_, ?_⟩, ?_⟩, ?_⟩
    · exact htext.sublist (List.take_sublist _ _)
    · split
      · exact oneLine_nil
      · exact oneLine_cons.mpr ⟨by decide, htext.sublist (List.drop_sublist _ _)⟩
    · split <;> decide
    · split
      · exact oneLine_cons.mpr ⟨by decide, hplaces⟩
      · exact hplaces

theorem oneLine_renderFloat (x : Binary64) : OneLine (renderFloat x) := by
  cases x with
  | nan => decide
  | infinite negative => cases negative <;> decide
  | finite negative m e =>
    refine oneLine_append.mpr ⟨?_, ?_⟩
    · cases negative <;> decide
    · split
      · decide
      · exact oneLine_renderPositive m e

/-! ### Strings -/

theorem oneLine_unitEscape (n : Nat) : OneLine (unitEscape n) := by
  refine oneLine_append.mpr ⟨by decide, oneLine_append.mpr ⟨?_, ?_⟩⟩
  · exact oneLine_replicate _ (by decide)
  · exact oneLine_toDigits (by decide) n

theorem oneLine_escapeChar (c : Char) : OneLine (escapeChar c) := by
  unfold escapeChar
  iterate 7
    split
    · decide
  split
  · rename_i hprintable
    exact oneLine_cons.mpr ⟨hprintable, oneLine_nil⟩
  · split
    · exact oneLine_unitEscape _
    · exact oneLine_append.mpr ⟨oneLine_unitEscape _, oneLine_unitEscape _⟩

theorem oneLine_renderString (s : List Char) : OneLine (renderString s) := by
  have hbody : OneLine (s.flatMap escapeChar) := by
    intro c hc
    obtain ⟨x, _, hx⟩ := List.mem_flatMap.mp hc
    exact oneLine_escapeChar x c hx
  exact oneLine_append.mpr ⟨oneLine_cons.mpr ⟨by decide, hbody⟩, by decide⟩

/-! ### Values -/

theorem oneLine_joinWith {separator : List Char} (hseparator : OneLine separator)
    {texts : List (List Char)} (htexts : ∀ t ∈ texts, OneLine t) :
    OneLine (joinWith separator texts) := by
  induction texts with
  | nil => exact oneLine_nil
  | cons t rest ih =>
    have ht := htexts t List.mem_cons_self
    cases rest with
    | nil => exact ht
    | cons u more =>
      have hrest := ih (fun x hx => htexts x (List.mem_cons_of_mem t hx))
      exact oneLine_append.mpr ⟨oneLine_append.mpr ⟨ht, hseparator⟩, hrest⟩

mutual

/-- A value is written on one line. -/
theorem oneLine_renderChars : ∀ v : Json, OneLine (renderChars v)
  | null => by decide
  | bool b => by cases b <;> decide
  | int n => oneLine_renderInt n
  | float x => oneLine_renderFloat x
  | str s => oneLine_renderString s.toList
  | arr items => by
    have hcomma : OneLine [',', ' '] := by decide
    have hitems := oneLine_joinWith hcomma (oneLine_renderItems items)
    exact oneLine_append.mpr ⟨oneLine_cons.mpr ⟨by decide, hitems⟩, by decide⟩
  | obj members => by
    have hcomma : OneLine [',', ' '] := by decide
    have hmembers := oneLine_joinWith hcomma (oneLine_renderMembers members)
    exact oneLine_append.mpr ⟨oneLine_cons.mpr ⟨by decide, hmembers⟩, by decide⟩

theorem oneLine_renderItems : ∀ items : List Json, ∀ t ∈ renderItems items, OneLine t
  | [] => by
    intro t ht
    cases ht
  | v :: rest => by
    intro t ht
    rcases List.mem_cons.mp ht with rfl | ht
    · exact oneLine_renderChars v
    · exact oneLine_renderItems rest t ht

theorem oneLine_renderMembers :
    ∀ members : List (String × Json), ∀ t ∈ renderMembers members, OneLine t
  | [] => by
    intro t ht
    cases ht
  | (k, v) :: rest => by
    intro t ht
    rcases List.mem_cons.mp ht with rfl | ht
    · refine oneLine_append.mpr ⟨oneLine_renderString _, ?_⟩
      exact oneLine_cons.mpr ⟨by decide, oneLine_cons.mpr ⟨by decide, oneLine_renderChars v⟩⟩
    · exact oneLine_renderMembers rest t ht

end

end SchemaAssist.Json
