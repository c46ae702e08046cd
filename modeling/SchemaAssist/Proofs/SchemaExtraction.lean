/-
  Reading a schema from a document without tags.

  Only a tag makes an integer, so what such a document holds can all be written
  (`Untagged.writable_value`).  A step from a definition to one inside of it goes to a smaller node,
  unless that is a reference.  So a descent that has no end goes through a reference
  (`descends_extract`).
-/
import SchemaAssist.Proofs.YamlReading
import SchemaAssist.Schema.Extract

namespace SchemaAssist

namespace Yaml

/-! ### Values that can be written -/

namespace Value

theorem writableItems_iff (items : List Value) :
    writableItems items = true ↔ ∀ v ∈ items, v.writable = true := by
  induction items with
  | nil => simp [writableItems]
  | cons v rest ih => simp [writableItems, ih]

theorem writableEntries_iff (entries : List (Value × Value)) :
    writableEntries entries = true ↔
      ∀ e ∈ entries, e.1.writable = true ∧ e.2.writable = true := by
  induction entries with
  | nil => simp [writableEntries]
  | cons e rest ih => simp [writableEntries, ih]

variable {α β : Type} (P : Value → Prop) (Q : α → Prop)

/-- What holds of all keys and of all values still does when an entry is set. -/
theorem forall_put {key : Value} {value : α} {entries : List (Value × α)} (hkey : P key)
    (hvalue : Q value) (h : ∀ e ∈ entries, P e.1 ∧ Q e.2) :
    ∀ e ∈ put key value entries, P e.1 ∧ Q e.2 := by
  induction entries with
  | nil =>
    intro e he
    rw [List.mem_singleton.mp he]
    exact ⟨hkey, hvalue⟩
  | cons first rest ih =>
    obtain ⟨hfirst, hrest⟩ := List.forall_mem_cons.mp h
    unfold put
    split
    · exact List.forall_mem_cons.mpr ⟨⟨hfirst.1, hvalue⟩, hrest⟩
    · exact List.forall_mem_cons.mpr ⟨hfirst, ih hrest⟩

theorem forall_foldl_put {key : β → Value} {value : β → α} {items : List β}
    (h : ∀ b ∈ items, P (key b) ∧ Q (value b)) :
    ∀ e ∈ items.foldl (fun acc b => put (key b) (value b) acc) [], P e.1 ∧ Q e.2 := by
  have hfold (entries : List (Value × α)) (hentries : ∀ e ∈ entries, P e.1 ∧ Q e.2) :
      ∀ e ∈ items.foldl (fun acc b => put (key b) (value b) acc) entries, P e.1 ∧ Q e.2 := by
    induction items generalizing entries with
    | nil => exact hentries
    | cons b rest ih =>
      obtain ⟨hb, hrest⟩ := List.forall_mem_cons.mp h
      exact ih hrest _ (forall_put P Q hb.1 hb.2 hentries)
  exact hfold [] nofun

end Value

/-! ### Smaller nodes -/

theorem Node.count_lt_of_mem {entries : List (Node × Node)} {e : Node × Node} (h : e ∈ entries)
    (tag : Tag) : e.2.count < (mapping tag entries).count := by
  have hentry : e.1.count + e.2.count ≤ countEntries entries := by
    induction entries with
    | nil => cases h
    | cons first rest ih =>
      rw [countEntries]
      rcases List.mem_cons.mp h with rfl | h
      · omega
      · have hrest := ih h
        omega
  rw [count]
  omega

namespace Document

variable {loops : Prop} {d : Document} {n : Node}

theorem writable_valueWithin (d : Document) (fuel : Nat) (hn : n.Untagged loops) :
    (d.valueWithin fuel n).writable = true := by
  induction fuel generalizing n with
  | zero =>
    cases hn with
    | scalar s => rfl
    | sequence hitems => rfl
    | mapping hkeys hvalues => rfl
    | again hloops anchor => rfl
  | succ fuel ih =>
    cases hn with
    | scalar s => rfl
    | again hloops anchor => rfl
    | @sequence items hitems =>
      have hall : ∀ v ∈ items.map (d.valueWithin fuel), v.writable = true := by
        intro v hv
        obtain ⟨m, hm, rfl⟩ := List.mem_map.mp hv
        exact ih (hitems m hm)
      exact (Value.writableItems_iff _).mpr hall
    | @mapping entries hkeys hvalues =>
      simp only [valueWithin, Node.allEntries_of_untagged _ hkeys]
      apply (Value.writableEntries_iff _).mpr
      exact Value.forall_foldl_put (·.writable = true) (Value.writable · = true) fun e he =>
        ⟨ih (hkeys e he), ih (hvalues e he)⟩

namespace Untagged

theorem node (h : d.Untagged loops) (name : String) : (d.anchors.node name).Untagged loops := by
  unfold Anchors.node
  cases hfound : d.anchors.find? (·.1 == name) with
  | none => exact Node.untagged_blank
  | some a =>
    cases hnode : a.2 with
    | none => simpa [hnode] using Node.untagged_blank
    | some n => simpa [hnode] using h.anchors a (List.mem_of_find?_eq_some hfound) n hnode

theorem resolve (h : d.Untagged loops) (hn : n.Untagged loops) :
    (d.resolve n).Untagged loops := by
  cases hn with
  | scalar s => exact .scalar s
  | sequence hitems => exact .sequence hitems
  | mapping hkeys hvalues => exact .mapping hkeys hvalues
  | again hloops anchor => exact h.node anchor

theorem resolve_eq (hn : n.Untagged loops) (hloops : ¬ loops) : d.resolve n = n := by
  cases hn with
  | scalar s => rfl
  | sequence hitems => rfl
  | mapping hkeys hvalues => rfl
  | again h anchor => exact absurd h hloops

theorem writable_value (h : d.Untagged loops) (hn : n.Untagged loops) :
    (d.value n).writable = true := d.writable_valueWithin _ (h.resolve hn)

end Untagged

end Document

end Yaml

namespace Schema

open Yaml (Value)

/-! ### Descents -/

/-- Entries of a document without tags.  Without references as well, their nodes are smaller than
`bound`. -/
structure Fits (loops : Prop) (bound : Nat) (entries : NodeEntries) : Prop where
  writable : ∀ e ∈ entries, e.1.writable = true
  untagged : ∀ e ∈ entries, e.2.Untagged loops
  small : ¬ loops → ∀ e ∈ entries, e.2.count < bound

section Descent

variable {loops : Prop} {d : Yaml.Document} {bound : Nat} {entries inner : NodeEntries}

theorem Fits.mono (h : Fits loops bound entries) {bound' : Nat}
    (hbound : ¬ loops → bound ≤ bound') : Fits loops bound' entries :=
  ⟨h.writable, h.untagged, fun hloops e he =>
    Nat.lt_of_lt_of_le (h.small hloops e he) (hbound hloops)⟩

theorem Fits.tail {e : Value × Yaml.Node} (h : Fits loops bound (e :: entries)) :
    Fits loops bound entries :=
  ⟨fun e' he' => h.writable e' (List.mem_cons_of_mem e he'),
    fun e' he' => h.untagged e' (List.mem_cons_of_mem e he'),
    fun hloops e' he' => h.small hloops e' (List.mem_cons_of_mem e he')⟩

theorem fits_entries (hd : d.Untagged loops) {n : Yaml.Node} (hn : n.Untagged loops)
    (hentries : d.entries? n = some entries) : Fits loops n.count entries := by
  have hsmall : ¬ loops → d.resolve n = n := Yaml.Document.Untagged.resolve_eq hn
  unfold Yaml.Document.entries? at hentries
  have hresolved := hd.resolve hn
  generalize d.resolve n = m at hentries hresolved hsmall
  split at hentries
  · rename_i pairs
    cases hresolved with
    | mapping hkeys hvalues =>
      simp only [Yaml.Node.allEntries_of_untagged _ hkeys] at hentries
      obtain rfl := Option.some.inj hentries
      have hsmaller : ∀ e ∈ pairs, ¬ loops → e.2.count < n.count := by
        intro e he hloops
        rw [← hsmall hloops]
        exact Yaml.Node.count_lt_of_mem he .map
      have hall := Value.forall_foldl_put (·.writable = true)
        (fun m : Yaml.Node => m.Untagged loops ∧ (¬ loops → m.count < n.count)) fun e he =>
          ⟨hd.writable_value (hkeys e he), hvalues e he, hsmaller e he⟩
      exact ⟨fun e he => (hall e he).1, fun e he => (hall e he).2.1,
        fun hloops e he => (hall e he).2.2 hloops⟩
  · cases hentries

theorem mem_of_nodeAt? {name : String} {n : Yaml.Node} (h : nodeAt? entries name = some n) :
    ∃ e ∈ entries, e.2 = n := by
  obtain ⟨e, he, rfl⟩ := Option.map_eq_some_iff.mp h
  exact ⟨e, List.mem_of_find?_eq_some he, rfl⟩

/-- A reading that stops, if at all, because it has no end. -/
abbrev Descends (loops : Prop) {α : Type} (post : α → Prop) (r : Except Fault α) : Prop :=
  Yaml.Keeps (fun f => loops ∧ f = .recursion) post r

theorem descends_written {v : Value} (h : v.writable = true) :
    Descends loops (fun _ => True) (written v) := by
  rw [written, if_pos h]
  trivial

theorem Fits.textEntry (h : Fits loops bound entries) (hd : d.Untagged loops) (name : String) :
    Descends loops (fun _ => True) (textEntry d entries name) := by
  unfold Schema.textEntry
  split
  · trivial
  · rename_i n hn
    obtain ⟨e, he, rfl⟩ := mem_of_nodeAt? hn
    exact (descends_written (hd.writable_value (h.untagged e he))).bind fun _ _ => trivial

theorem Fits.extractProperties (h : Fits loops bound entries) (hd : d.Untagged loops)
    {define : NodeEntries → Except Fault (List (Value × Value))}
    (hdefine : ∀ inner, (¬ loops → 0 < bound) → Fits loops bound inner →
      Descends loops (fun _ => True) (define inner)) :
    Descends loops (fun _ => True) (extractProperties d define entries) := by
  induction entries with
  | nil => trivial
  | cons e rest ih =>
    obtain ⟨k, n⟩ := e
    have hself : (k, n) ∈ (k, n) :: rest := List.mem_cons_self
    unfold Schema.extractProperties
    refine (descends_written (h.writable _ hself)).bind fun name _ => ?_
    have hmore (definition : Value) : Descends loops (fun _ => True)
        (do let more ← Schema.extractProperties d define rest; pure ((name, definition) :: more)) :=
      (ih h.tail).bind fun _ _ => trivial
    split
    · exact hmore _
    · rename_i inner hinner
      have hsmall : ¬ loops → n.count < bound := fun hloops => h.small hloops _ hself
      have hinner' : Fits loops bound inner :=
        (fits_entries hd (h.untagged _ hself) hinner).mono fun hloops =>
          Nat.le_of_lt (hsmall hloops)
      have hpos : ¬ loops → 0 < bound := fun hloops => Nat.zero_lt_of_lt (hsmall hloops)
      exact (hdefine inner hpos hinner').bind fun definition _ => hmore (.map definition)

end Descent

end Schema

end SchemaAssist
