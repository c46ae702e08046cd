/-
  Files that appear, and files that stay.

  Logging makes directories and files, but only where nothing stands: the store after it extends the
  store before it (`Extends`).  So a path that led to a file still leads to the same file
  (`find_of_extends`).  Files alone make no directories, so that a path leads to a directory only if
  it did before (`find_directory_of_touch`).
-/
import SchemaAssist.Files.Store

namespace SchemaAssist.Files.Store

/-! ### Single places -/

theorem entry?_set_of_ne (s : Store) {place other : List String} (h : other ≠ place) (e : Entry) :
    entry? (s.set place e) other = s.entry? other := by
  have hkept : (fun x : List String × Entry =>
      decide ((x.1 != place) = true ∧ (x.1 == other) = true)) =
      fun x => x.1 == other := by
    funext x
    by_cases hx : x.1 = other
    · simp [hx, h]
    · simp [hx]
  unfold entry?
  rw [set, List.find?_cons_of_neg (by simpa using Ne.symm h), List.find?_filter, hkept]

theorem entry?_set_of_missing {s : Store} {place : List String} (h : s.entry? place = none)
    (e : Entry) :
    entry? (s.set place e) place = some e := by
  have hbelow : ¬ place <+: s.home := by
    intro habove
    unfold entry? at h
    rw [if_pos habove] at h
    cases h
  unfold entry?
  rw [set, if_neg hbelow, List.find?_cons_of_pos (by simp)]
  rfl

/-! ### Following a path -/

/-- Where a path ends for want of an entry, there is none. -/
theorem entry?_of_follow_missing {s : Store} {start parts place : List String}
    (h : s.follow start parts = (.missing, place)) : s.entry? place = none := by
  induction parts generalizing start with
  | nil =>
    rw [follow] at h
    split at h
    · cases h
    · cases h
    · rename_i hnone
      cases h
      exact hnone
  | cons part rest ih =>
    rw [follow] at h
    split at h
    · exact ih h
    · cases h
    · rename_i hnone
      cases h
      exact hnone

/-! ### Stores that grow -/

/-- Whatever stands somewhere in the first store stands there in the second, and the working
directory is the same. -/
structure Extends (s t : Store) : Prop where
  home : t.home = s.home
  kept : ∀ place e, s.entry? place = some e → t.entry? place = some e

theorem Extends.refl (s : Store) : s.Extends s := ⟨rfl, fun _ _ h => h⟩

theorem Extends.trans {s t u : Store} (hst : s.Extends t) (htu : t.Extends u) : s.Extends u :=
  ⟨htu.home.trans hst.home, fun place e h => htu.kept place e (hst.kept place e h)⟩

theorem extends_set {s : Store} {place : List String} (h : s.entry? place = none) (e : Entry) :
    s.Extends (s.set place e) := by
  refine ⟨rfl, ?_⟩
  intro other e' hother
  have hne : other ≠ place := by
    rintro rfl
    rw [h] at hother
    cases hother
  rw [entry?_set_of_ne s hne, hother]

/-- In a store that grew, a path that led somewhere leads there still. -/
theorem follow_of_extends {s t : Store} (h : s.Extends t) (start parts : List String)
    (hfound : (s.follow start parts).1 ≠ .missing) :
    t.follow start parts = s.follow start parts := by
  induction parts generalizing start with
  | nil =>
    cases hentry : s.entry? start with
    | none => simp [follow, hentry] at hfound
    | some e => simp only [follow, hentry, h.kept start e hentry]
  | cons part rest ih =>
    cases hentry : s.entry? start with
    | none => simp [follow, hentry] at hfound
    | some e =>
      cases e with
      | file bytes => simp only [follow, hentry, h.kept start _ hentry]
      | directory =>
        simp only [follow, hentry, h.kept start _ hentry] at hfound ⊢
        exact ih _ hfound

theorem find_of_extends {s t : Store} (h : s.Extends t) {p : Path} {bytes : List UInt8}
    (hfile : s.find p = .file bytes) : t.find p = .file bytes := by
  have hfound : (s.follow (p.start s.home) p.parts).1 ≠ .missing := by
    rw [find] at hfile
    simp [hfile]
  rw [find, h.home, follow_of_extends h _ _ hfound]
  exact hfile

/-! ### New directories -/

theorem extends_makeNext {s t : Store} {p : Path} (h : s.makeNext p = .ok t) : s.Extends t := by
  unfold makeNext at h
  split at h
  · cases h
    exact Extends.refl s
  · cases h
  · cases h
  · rename_i place hfollow
    cases h
    exact extends_set (entry?_of_follow_missing hfollow) .directory

theorem extends_makeDirectory {s t : Store} {p : Path} (h : s.makeDirectory p = .ok t) :
    s.Extends t := by
  have hrun : ∀ (lengths : List Nat) (s t : Store),
      lengths.foldlM (fun s n => s.makeNext ⟨p.root, p.parts.take (n + 1)⟩) s = .ok t →
        s.Extends t := by
    intro lengths
    induction lengths with
    | nil =>
      intro s t h
      cases h
      exact Extends.refl s
    | cons n rest ih =>
      intro s t h
      rw [List.foldlM_cons] at h
      cases hnext : s.makeNext ⟨p.root, p.parts.take (n + 1)⟩ with
      | error f =>
        rw [hnext] at h
        cases h
      | ok next =>
        rw [hnext] at h
        exact (extends_makeNext hnext).trans (ih next t h)
  unfold makeDirectory at h
  split at h
  · exact hrun _ s t h
  · exact extends_makeNext h

/-! ### New files -/

/-- A file that is made stands where nothing stood. -/
theorem overwrite_of_missing {s t : Store} {p : Path} {bytes : List UInt8}
    (hmissing : s.find p = .missing) (h : s.overwrite p bytes = .ok t) :
    ∃ place, s.entry? place = none ∧ t = s.set place (.file bytes) := by
  rw [find] at hmissing
  unfold overwrite at h
  split at h
  · cases h
  · cases h
  · rename_i hfollow
    rw [hfollow] at hmissing
    cases hmissing
  · rename_i place hfollow
    split at h
    · cases h
      exact ⟨place, entry?_of_follow_missing hfollow, rfl⟩
    · cases h

theorem extends_touch (s : Store) (p : Path) : s.Extends (s.touch p) := by
  unfold touch
  split
  · rename_i hmissing
    cases hmade : s.overwrite p [] with
    | error f => exact Extends.refl s
    | ok t =>
      obtain ⟨place, hfree, rfl⟩ := overwrite_of_missing hmissing hmade
      exact extends_set hfree _
  · exact Extends.refl s

/-- A path leads to a directory only through directories. -/
theorem follow_directory {s t : Store}
    (h : ∀ place, t.entry? place = some .directory → s.entry? place = some .directory)
    (start parts : List String) (hfound : (t.follow start parts).1 = .directory) :
    (s.follow start parts).1 = .directory := by
  induction parts generalizing start with
  | nil =>
    rw [follow] at hfound
    split at hfound
    · cases hfound
    · rename_i hentry
      simp only [follow, h start hentry]
    · cases hfound
  | cons part rest ih =>
    rw [follow] at hfound
    split at hfound
    · rename_i hentry
      simp only [follow, h start hentry]
      exact ih _ hfound
    · cases hfound
    · cases hfound

/-- Making a file makes no directory. -/
theorem find_directory_of_touch {s : Store} {p q : Path} (h : (s.touch p).find q = .directory) :
    s.find q = .directory := by
  have hhome : (s.touch p).home = s.home := (extends_touch s p).home
  rw [find, hhome] at h
  unfold touch at h
  split at h
  · rename_i hmissing
    cases hmade : s.overwrite p [] with
    | error f =>
      rw [hmade] at h
      exact h
    | ok t =>
      obtain ⟨place, hfree, rfl⟩ := overwrite_of_missing hmissing hmade
      rw [hmade] at h
      apply follow_directory _ _ _ h
      intro other hother
      have hne : other ≠ place := by
        rintro rfl
        rw [Except.toOption, Option.getD_some, entry?_set_of_missing hfree] at hother
        cases hother
      rwa [Except.toOption, Option.getD_some, entry?_set_of_ne s hne] at hother
  · exact h

end SchemaAssist.Files.Store
