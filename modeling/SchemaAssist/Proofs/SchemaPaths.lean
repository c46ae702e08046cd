/-
  Paths of a schema that was built.

  A path is given as a dotted text or by its segments.  Cutting a text at its dots undoes joining
  exactly for segments that are not empty and hold no dot (`split_dotted_iff`), so both forms of
  such a path lead to the same node.  Walking on from the end of a path is walking the longer path
  (`lookup?_append`).

  A node stands under its own name, since the builder names it after its key.  This is read off the
  document: a path that leads to a node leads there to a definition under the last segment
  (`Site.walk?_eq_property`).  On the way all nodes take children, for below any other node a path
  ends (`canHaveChildren_of_append`).
-/
import SchemaAssist.Proofs.SchemaSites

namespace SchemaAssist

/-! ### Cutting and joining at a mark -/

theorem Text.splitAt_eq_splitOn (mark : Char) (s : List Char) :
    splitAt mark s = s.splitOn mark := by
  induction s with
  | nil => rfl
  | cons c rest ih =>
    rw [splitAt, List.splitOn_cons_eq_if_modifyHead, ← ih]
    by_cases h : c = mark
    · rw [if_pos h, if_pos (beq_iff_eq.mpr h)]
    · rw [if_neg h, if_neg (fun hc => h (beq_iff_eq.mp hc))]
      cases hrest : splitAt mark rest with
      | nil => exact absurd (ih.symm.trans hrest) (List.splitOn_ne_nil mark rest)
      | cons part parts => rfl

theorem Text.mark_not_mem_of_mem_splitAt {mark : Char} {s part : List Char}
    (h : part ∈ splitAt mark s) :
    mark ∉ part := by
  induction s generalizing part with
  | nil =>
    obtain rfl : part = [] := by simpa [splitAt] using h
    simp
  | cons c rest ih =>
    rw [splitAt] at h
    split at h
    · rcases List.mem_cons.mp h with rfl | h
      · simp
      · exact ih h
    · rename_i hc
      -- The character is no mark and goes to the front of the first part.
      split at h
      · rename_i first parts hparts
        rw [hparts] at ih
        rcases List.mem_cons.mp h with rfl | h
        · intro hmem
          rcases List.mem_cons.mp hmem with rfl | hmem
          · exact hc rfl
          · exact ih List.mem_cons_self hmem
        · exact ih (List.mem_cons_of_mem first h)
      · obtain rfl : part = [c] := by simpa using h
        simpa using Ne.symm hc

namespace Schema

open Yaml (Value)

/-! ### Dotted texts -/

/-- A text that may stand between the dots of a path. -/
def IsSegment (s : String) : Prop := s ≠ "" ∧ '.' ∉ s.toList

theorem isSegment_of_mem_segments {text s : String} (h : s ∈ segments text) : IsSegment s := by
  obtain ⟨part, hpart, rfl⟩ := List.mem_map.mp h
  obtain ⟨hmem, hne⟩ := List.mem_filter.mp hpart
  constructor
  · intro hempty
    obtain rfl : part = [] := String.ofList_eq_empty_iff.mp hempty
    cases hne
  · rw [String.toList_ofList]
    exact Text.mark_not_mem_of_mem_splitAt hmem

theorem segments_intercalate {p : List String} (h : ∀ s ∈ p, IsSegment s) :
    segments (".".intercalate p) = p := by
  cases p with
  | nil => rfl
  | cons first rest =>
    have hdots : ∀ part ∈ (first :: rest).map String.toList, '.' ∉ part := by
      intro part hpart
      obtain ⟨s, hs, rfl⟩ := List.mem_map.mp hpart
      exact (h s hs).2
    have hparts : Text.splitAt '.' (".".intercalate (first :: rest)).toList =
        (first :: rest).map String.toList := by
      rw [Text.splitAt_eq_splitOn, String.toList_intercalate]
      exact List.splitOn_intercalate '.' hdots (by simp)
    -- No part is empty, so none is dropped.
    have hkept : ((first :: rest).map String.toList).filter (!·.isEmpty) =
        (first :: rest).map String.toList := by
      apply List.filter_eq_self.mpr
      intro part hpart
      obtain ⟨s, hs, rfl⟩ := List.mem_map.mp hpart
      simpa using (h s hs).1
    rw [segments, hparts, hkept, List.map_map]
    simp

theorem split_dotted_iff (p : List String) :
    (PathForm.dotted (".".intercalate p)).split = p ↔ ∀ s ∈ p, IsSegment s := by
  constructor
  · -- Whatever was joined, cutting gives segments only.
    intro h s hs
    rw [← h] at hs
    exact isSegment_of_mem_segments hs
  · exact segments_intercalate

theorem resolve?_dotted {p : List String} (h : ∀ s ∈ p, IsSegment s) (root : Option Node) :
    resolve? root (.dotted (".".intercalate p)) = resolve? root (.segmented p) := by
  rw [resolve?, (split_dotted_iff p).mpr h]
  rfl

/-! ### The nodes along a path -/

/-- A path that goes on below a node leads to nothing unless the node takes children. -/
theorem canHaveChildren_of_append {root : Option Node} {p rest : List String} {segment : String}
    {n : Node} (h : lookup? root (p ++ segment :: rest) = some n) :
    canHaveChildren (lookup? root p) = true := by
  cases hleaf : canHaveChildren (lookup? root p) with
  | true => rfl
  | false =>
    have hnone : lookup? root (p ++ [segment]) = none := lookup?_below_leaf hleaf segment
    rw [List.append_cons, lookup?_append, hnone] at h
    cases h

theorem exists_of_canHaveChildren {found : Option Node} (h : canHaveChildren found = true) :
    ∃ m, found = some m ∧ canHaveChildren (some m) = true := by
  cases found with
  | none => cases h
  | some m => exact ⟨m, rfl, h⟩

/-- A walk of at least one step ends at a definition under the last segment. -/
theorem Site.walk?_eq_property {site last : Site} {p : List String} (hp : p ≠ [])
    (h : site.walk? p = some last) :
    ∃ definition, last = .property (p.getLast hp) definition := by
  induction p generalizing site with
  | nil => exact absurd rfl hp
  | cons segment rest ih =>
    obtain ⟨next, hnext, hrest⟩ := Option.bind_eq_some_iff.mp h
    cases rest with
    | nil =>
      obtain rfl : next = last := Option.some.inj hrest
      obtain ⟨properties, -, hdefined⟩ := Option.bind_eq_some_iff.mp hnext
      obtain ⟨definition, -, rfl⟩ := Option.map_eq_some_iff.mp hdefined
      exact ⟨definition, rfl⟩
    | cons segment' rest =>
      rw [List.getLast_cons (List.cons_ne_nil segment' rest)]
      exact ih (List.cons_ne_nil segment' rest) hrest

/-- A node at the end of a path is built from a definition under its own name, the last segment of
the path. -/
theorem definition_of_lookup? {data : Value} {built : Built} {spec : Entries}
    (h : build data = .ok built) (hspec : data.get? rootName = some (.map spec)) {p : List String}
    (hp : p ≠ []) {n : Node} (hn : lookup? (some built.root) p = some n) :
    n.name = p.getLast hp ∧ ∃ definition,
      (Site.root spec).walk? p = some (.property n.name definition) := by
  rw [root_of_build h hspec] at hn
  have hwalk : ((Site.root spec).walk? p).map Site.node = some n :=
    (Site.lookup?_node _ p).symm.trans hn
  obtain ⟨last, hlast, rfl⟩ := Option.map_eq_some_iff.mp hwalk
  obtain ⟨definition, rfl⟩ := Site.walk?_eq_property hp hlast
  rw [Site.name_node]
  exact ⟨rfl, definition, hlast⟩

/-- The laws of paths in a schema that was built.  Paths compose.  The dotted text of a path is cut
into its segments exactly if these are not empty and hold no dot, and then both forms lead to the
same node.  A node is named by the last segment of its path, under which the document defines it,
and every node before it takes children.  Every child of a node that is found is found one step
further, under its own name. -/
theorem path_navigation {data : Value} {built : Built} (h : build data = .ok built) :
    ∃ spec, data.get? rootName = some (.map spec) ∧
      (∀ p q, lookup? (some built.root) (p ++ q) = lookup? (lookup? (some built.root) p) q) ∧
      (∀ p, (PathForm.dotted (".".intercalate p)).split = p ↔ ∀ s ∈ p, IsSegment s) ∧
      (∀ p, (∀ s ∈ p, IsSegment s) →
        resolve? (some built.root) (.dotted (".".intercalate p)) =
          resolve? (some built.root) (.segmented p)) ∧
      (∀ p n, p ≠ [] → lookup? (some built.root) p = some n →
        p.getLast? = some n.name ∧
          (∃ definition, (Site.root spec).walk? p = some (.property n.name definition)) ∧
          ∀ q, q <+: p → q ≠ p →
            ∃ m, lookup? (some built.root) q = some m ∧ canHaveChildren (some m) = true) ∧
      ∀ p m, lookup? (some built.root) p = some m →
        ∀ c ∈ m.children, lookup? (some built.root) (p ++ [c.name]) = some c := by
  obtain ⟨spec, -, hspec, -⟩ := spec_of_build h
  refine ⟨spec, hspec, lookup?_append _, split_dotted_iff, fun p hp => resolve?_dotted hp _, ?_, ?_⟩
  · intro p n hp hn
    obtain ⟨hname, hdefinition⟩ := definition_of_lookup? h hspec hp hn
    refine ⟨?_, hdefinition, ?_⟩
    · rw [hname, List.getLast?_eq_some_getLast hp]
    · rintro q ⟨rest, rfl⟩ hq
      cases rest with
      | nil => exact absurd (List.append_nil q).symm hq
      | cons segment rest => exact exists_of_canHaveChildren (canHaveChildren_of_append hn)
  · intro p m hm c hc
    exact lookup?_child (build_tidy h) hm hc

/-- In the small document `Nodes.Kind` is a choice below a sequence, in both forms. -/
theorem path_navigation_sample :
    build sampleData = .ok sampleSchema ∧
      resolve? (some sampleSchema.root) (.dotted "Nodes.Kind") =
        some (.choice ⟨"Kind", "", ""⟩ ["Api", "Job"]) ∧
      lookup? (lookup? (some sampleSchema.root) ["Nodes"]) ["Kind"] =
        some (.choice ⟨"Kind", "", ""⟩ ["Api", "Job"]) ∧
      ∃ m, lookup? (some sampleSchema.root) ["Nodes"] = some m ∧
        canHaveChildren (some m) = true := by
  obtain ⟨spec, -, hcompose, -, hforms, hfound, -⟩ := path_navigation build_sampleData
  have hkind : lookup? (some sampleSchema.root) ["Nodes", "Kind"] =
      some (.choice ⟨"Kind", "", ""⟩ ["Api", "Job"]) := rfl
  have hsegments : ∀ s ∈ ["Nodes", "Kind"], IsSegment s := by simp [IsSegment]
  refine ⟨build_sampleData, (hforms ["Nodes", "Kind"] hsegments).trans hkind,
    (hcompose ["Nodes"] ["Kind"]).symm.trans hkind, ?_⟩
  exact (hfound ["Nodes", "Kind"] _ (by simp) hkind).2.2 ["Nodes"] ⟨["Kind"], rfl⟩ (by simp)

end Schema

end SchemaAssist
