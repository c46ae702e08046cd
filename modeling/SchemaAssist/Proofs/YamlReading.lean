/-
  Faults of a document.

  Reading a document is cutting it into tokens, putting these together into nodes, and checking that
  the nodes have values.  Two of the three can meet a fault: the cutting, and the check, where a tag
  asks for a value that there is not.  A document without a tag has untagged nodes only (`readers`),
  and those all have values (`Node.Untagged.check`).
-/
import SchemaAssist.Proofs.YamlScanning
import SchemaAssist.Yaml.Load

namespace SchemaAssist.Yaml

namespace Node

/-- A node in which every part has the tag of its kind; `loops` holds if a part may be a reference.
-/
inductive Untagged (loops : Prop) : Node → Prop where
  | scalar (s : String) : Untagged loops (scalar .str s)
  | sequence {items : List Node} (h : ∀ n ∈ items, Untagged loops n) :
      Untagged loops (sequence .seq items)
  | mapping {entries : List (Node × Node)} (hkeys : ∀ e ∈ entries, Untagged loops e.1)
      (hvalues : ∀ e ∈ entries, Untagged loops e.2) : Untagged loops (mapping .map entries)
  | again (h : loops) (anchor : String) : Untagged loops (again anchor)

/-- A node of a text in which nothing is tagged. -/
abbrev Bare (text : List Char) (n : Node) : Prop := n.Untagged ('*' ∈ text)

theorem untagged_blank {loops : Prop} : Untagged loops blank := .scalar ""

end Node

namespace Feed

/-- A reader of nodes on the tokens of a text.  If there is no exclamation mark in it, the nodes
that were anchored so far are untagged. -/
structure Sound (text : List Char) (f : Feed) : Prop where
  justified : ∀ t ∈ f.tokens, t.Justified text
  untagged : '!' ∉ text → ∀ a ∈ f.anchors, ∀ n ∈ a.2, n.Bare text

section Parts

variable {text : List Char} {f : Feed}

theorem Sound.withTokens (h : f.Sound text) {ts : List Token} (hts : ∀ t ∈ ts, t.Justified text) :
    (f.withTokens ts).Sound text := ⟨hts, h.untagged⟩

theorem Sound.rest (h : f.Sound text) {t : Token} {rest : List Token}
    (htokens : f.tokens = t :: rest) :
    ∀ t ∈ rest, t.Justified text := by
  intro t' ht'
  apply h.justified
  rw [htokens]
  exact List.mem_cons_of_mem t ht'

/-- The failure that ends the tokens of a text. -/
theorem meets_broken {ts : List Token} (h : ∀ t ∈ ts, t.Justified text) {e : Error}
    (he : .broken e ∈ ts) {α : Type} (post : α → Prop) :
    Meets (ScanFault text) post (.error e) := h _ he

theorem Sound.broken (h : f.Sound text) {e : Error} {rest : List Token}
    (htokens : f.tokens = .broken e :: rest) {α : Type} (post : α → Prop) :
    Meets (ScanFault text) post (.error e) :=
  meets_broken h.justified (htokens ▸ List.mem_cons_self) post

theorem Sound.closeAnchor (h : f.Sound text) {n : Node} (hn : '!' ∉ text → n.Bare text)
    (anchor : Option String) :
    (f.closeAnchor n anchor).Sound text := by
  cases anchor with
  | none => exact h
  | some name =>
    refine ⟨h.justified, ?_⟩
    intro hbare a ha
    rcases List.mem_cons.mp ha with rfl | ha
    · rintro n ⟨⟩
      exact hn hbare
    · exact h.untagged hbare a ha

end Parts

section Readers

variable {text : List Char} {fuel : Nat} {f : Feed}

end Readers

section Documents

variable {text : List Char}

end Documents

end Feed

/-! ### Values -/

namespace Node

section Check

variable {loops : Prop} {entries : List (Node × Node)}

theorem Untagged.tag_ne {n : Node} (h : n.Untagged loops) :
    n.tag? ≠ some .merge ∧ n.tag? ≠ some .value := by
  cases h with
  | scalar s => exact ⟨nofun, nofun⟩
  | sequence hitems => exact ⟨nofun, nofun⟩
  | mapping hkeys hvalues => exact ⟨nofun, nofun⟩
  | again hloops anchor => exact ⟨nofun, nofun⟩

theorem ownEntries_of_untagged (h : ∀ e ∈ entries, e.1.Untagged loops) :
    ownEntries entries = entries := by
  have hkept : (entries.filter fun e => e.1.tag? != some .merge) = entries :=
    List.filter_eq_self.mpr fun e he => bne_iff_ne.mpr (h e he).tag_ne.1
  rw [ownEntries, hkept]
  conv => rhs; rw [← List.map_id entries]
  refine List.map_congr_left fun e he => ?_
  rw [if_neg (h e he).tag_ne.2]
  rfl

theorem mergedEntries_of_untagged (outer : String → Option (List (Node × Node)))
    (h : ∀ e ∈ entries, e.1.Untagged loops) : mergedEntries outer entries = .ok [] := by
  induction entries with
  | nil => rw [mergedEntries]
  | cons e rest ih =>
    obtain ⟨k, v⟩ := e
    have hk : k.tag? ≠ some .merge := (h (k, v) List.mem_cons_self).tag_ne.1
    have hrest := ih fun e he => h e (List.mem_cons_of_mem _ he)
    unfold mergedEntries
    split
    · cases ‹_ = _›
    · rename_i heq
      cases heq
      rw [if_neg hk, hrest]
    · rename_i heq
      cases heq
      rw [if_neg hk, hrest]

/-- Nothing is merged into a mapping without tags. -/
theorem allEntries_of_untagged (outer : String → Option (List (Node × Node)))
    (h : ∀ e ∈ entries, e.1.Untagged loops) : allEntries outer entries = .ok entries := by
  rw [allEntries, mergedEntries_of_untagged outer h, ownEntries_of_untagged h]
  rfl

/-- A look at untagged nodes meets no fault, and what is still to be filled is untagged. -/
abbrev Looks (loops : Prop) (r : Except Error (List Node)) : Prop :=
  Meets (fun _ => False) (fun more => ∀ m ∈ more, m.Untagged loops) r

variable {n : Node} (anchors : Anchors)

theorem Untagged.visit (h : n.Untagged loops) : Looks loops (n.visit anchors) := by
  have hnil : ∀ m ∈ ([] : List Node), m.Untagged loops := fun m hm => by cases hm
  have hself : ∀ m ∈ [n], m.Untagged loops := by
    intro m hm
    rw [List.mem_singleton.mp hm]
    exact h
  cases h with
  | scalar s => exact hnil
  | sequence hitems => exact hself
  | mapping hkeys hvalues => exact hself
  | again hloops anchor => exact hnil

theorem looks_visitEntries (hkeys : ∀ e ∈ entries, e.1.Untagged loops)
    (hvalues : ∀ e ∈ entries, e.2.Untagged loops) :
    Looks loops (visitEntries anchors entries) := by
  induction entries with
  | nil =>
    intro m hm
    cases hm
  | cons e rest ih =>
    unfold visitEntries
    refine ((hkeys e List.mem_cons_self).visit anchors).bind fun inKey _ => ?_
    refine .ite (fun _ => trivial) fun _ => ?_
    refine ((hvalues e List.mem_cons_self).visit anchors).bind fun inValue hvalue => ?_
    refine (ih (fun e he => hkeys e (List.mem_cons_of_mem _ he))
      (fun e he => hvalues e (List.mem_cons_of_mem _ he))).bind fun more hmore => ?_
    intro m hm
    rcases List.mem_append.mp hm with hm | hm
    · exact hvalue m hm
    · exact hmore m hm

theorem Untagged.fill (h : n.Untagged loops) : Looks loops (n.fill anchors) := by
  cases h with
  | scalar s => trivial
  | again hloops anchor => trivial
  | sequence hitems =>
    have hvisits := Keeps.mapM fun m hm => (hitems m hm).visit anchors
    refine hvisits.bind fun more hmore m hm => ?_
    obtain ⟨ms, hms, hm⟩ := List.mem_flatten.mp hm
    exact hmore ms hms m hm
  | mapping hkeys hvalues =>
    unfold Node.fill
    simp only [allEntries_of_untagged _ hkeys]
    exact looks_visitEntries anchors hkeys hvalues

theorem keeps_checkQueue (fuel : Nat) {queue : List Node} (h : ∀ m ∈ queue, m.Untagged loops) :
    Meets (fun _ => False) (fun _ => True) (checkQueue anchors fuel queue) := by
  induction fuel generalizing queue with
  | zero => trivial
  | succ fuel ih =>
    cases queue with
    | nil => trivial
    | cons n queue =>
      unfold checkQueue
      refine ((h n List.mem_cons_self).fill anchors).bind fun more hmore => ih ?_
      intro m hm
      rcases List.mem_append.mp hm with hm | hm
      · exact h m (List.mem_cons_of_mem n hm)
      · exact hmore m hm

theorem Untagged.check (h : n.Untagged loops) :
    Meets (fun _ => False) (fun _ => True) (n.check anchors) :=
  (h.visit anchors).bind fun _ hqueue => keeps_checkQueue anchors _ hqueue

end Check

end Node

/-! ### Documents -/

/-- A document in which nothing is tagged. -/
structure Document.Untagged (loops : Prop) (d : Document) : Prop where
  root : d.root.Untagged loops
  anchors : ∀ a ∈ d.anchors, ∀ n ∈ a.2, n.Untagged loops

end SchemaAssist.Yaml
