/-
  The shape of a schema that was built.

  A property is offered by its name and found again by its name, so both ways have to lead to the
  same node.  They do because the builder keeps one node for each name, on every level of the tree
  (`build_tidy`).  From this follow the laws of paths that the completion rules rely on: a path is
  walked in parts (`lookup?_append`), a property is found under its own name (`lookup?_child`), and
  nothing is found below a leaf (`lookup?_below_leaf`).
-/
import Mathlib.Data.List.Nodup
import SchemaAssist.Schema.Build

namespace SchemaAssist.Schema

open Yaml (Value)

/-! ### Distinct names on every level -/

/-- No two properties directly below a node share a name, and so on below each of them. -/
inductive Node.Tidy : Node → Prop where
  | intro {n : Node} (distinct : (n.children.map (·.name)).Nodup)
      (below : ∀ c ∈ n.children, c.Tidy) : n.Tidy

/-- A list of properties that can stand below a tidy node. -/
def TidyList (ps : List Node) : Prop := (ps.map (·.name)).Nodup ∧ ∀ c ∈ ps, c.Tidy

theorem Node.Tidy.children {n : Node} (h : n.Tidy) : TidyList n.children := by
  cases h with
  | intro distinct below => exact ⟨distinct, below⟩

theorem Node.Tidy.of_children {n : Node} (h : TidyList n.children) : n.Tidy :=
  .intro h.1 h.2

theorem tidyList_nil : TidyList [] := ⟨.nil, by simp⟩

/-! ### One node for each name -/

/-- Placing a node adds its name at the end, unless the name is already there. -/
theorem map_name_place (nodes : List Node) (n : Node) :
    (place nodes n).map (·.name) =
      if n.name ∈ nodes.map (·.name) then nodes.map (·.name) else nodes.map (·.name) ++
        [n.name] := by
  have hany : nodes.any (·.name == n.name) = true ↔ n.name ∈ nodes.map (·.name) := by
    simp [List.any_eq_true]
  unfold place
  by_cases h : n.name ∈ nodes.map (·.name)
  · rw [if_pos (hany.mpr h), if_pos h, List.map_map]
    apply List.map_congr_left
    intro m _
    by_cases hm : m.name = n.name
    · simp [hm]
    · simp [hm]
  · rw [if_neg (fun hc => h (hany.mp hc)), if_neg h, List.map_append]
    rfl

theorem mem_place {nodes : List Node} {n m : Node} (h : m ∈ place nodes n) : m ∈ nodes ∨ m = n := by
  unfold place at h
  split at h
  · rcases List.mem_map.mp h with ⟨old, hold, rfl⟩
    split
    · exact Or.inr rfl
    · exact Or.inl hold
  · simpa using h

theorem tidyList_place {nodes : List Node} {n : Node} (h : TidyList nodes) (hn : n.Tidy) :
    TidyList (place nodes n) := by
  constructor
  · rw [map_name_place]
    split
    · exact h.1
    · rename_i hnew
      refine List.nodup_append.mpr ⟨h.1, by simp, ?_⟩
      intro a ha b hb hab
      obtain rfl : b = n.name := by simpa using hb
      exact hnew (hab ▸ ha)
  · intro m hm
    rcases mem_place hm with hold | rfl
    · exact h.2 m hold
    · exact hn

/-- Whatever repeats in a list of tidy nodes, collapsing it leaves distinct names. -/
theorem tidyList_collapse {nodes : List Node} (h : ∀ n ∈ nodes, n.Tidy) :
    TidyList (collapse nodes) := by
  -- The induction is on the nodes still to be placed; what was placed so far is tidy.
  suffices hrun : ∀ (placed : List Node), TidyList placed → TidyList (nodes.foldl place placed) from
    hrun [] tidyList_nil
  induction nodes with
  | nil => exact fun placed hplaced => hplaced
  | cons n rest ih =>
    intro placed hplaced
    rw [List.foldl_cons]
    refine ih (fun m hm => h m (by simp [hm])) (place placed n) ?_
    exact tidyList_place hplaced (h n (by simp))

theorem tidy_assemble {name : String} {definition : Value} {nested element : Option (List Node)}
    (hnested : ∀ ps, nested = some ps → TidyList ps)
    (helement : ∀ ps, element = some ps → TidyList ps) :
    (assemble name definition nested element).Tidy := by
  apply Node.Tidy.of_children
  unfold assemble
  dsimp only
  split
  · exact tidyList_nil
  · cases nested with
    | some ps => exact hnested ps rfl
    | none =>
      by_cases htype : textOf definition "type" = "object"
      · simp only [if_pos htype]
        exact tidyList_nil
      · simp only [if_neg htype]
        cases element with
        | some ps => exact helement ps rfl
        | none => exact tidyList_nil

theorem propertiesIn_cons (k v : Value) (rest : List (Value × Value)) :
    propertiesIn ((k, v) :: rest) =
      if isKey "properties" k then
        match v with
        | .map entries => some (collapse (definedNodes entries))
        | _ => none
      else propertiesIn rest := by
  cases v <;> rw [propertiesIn] <;> simp

theorem elementIn_cons (k v : Value) (rest : List (Value × Value)) :
    elementIn ((k, v) :: rest) =
      if isKey "items" k then
        match v with
        | .map entries => propertiesIn entries
        | _ => none
      else elementIn rest := by
  cases v <;> rw [elementIn] <;> simp

/-- The three readers of definitions make tidy nodes and tidy lists. -/
theorem tidy_definitions :
    (∀ entries, ∀ n ∈ definedNodes entries, n.Tidy) ∧
      (∀ entries ps, elementIn entries = some ps → TidyList ps) ∧
      (∀ entries ps, propertiesIn entries = some ps → TidyList ps) := by
  -- One case for each clause of the three readers, in the order of their definitions.
  apply definedNodes.mutual_induct
  · simp [definedNodes]
  · intro k entries rest hproperties helement hrest n hn
    rw [definedNodes] at hn
    rcases List.mem_cons.mp hn with rfl | hn
    · exact tidy_assemble hproperties helement
    · exact hrest n hn
  · intro head rest hhead hrest n hn
    rw [definedNodes] at hn
    · exact hrest n hn
    · exact hhead
  · simp [elementIn]
  · intro k rest hk entries hproperties ps hps
    rw [elementIn_cons, if_pos hk] at hps
    exact hproperties ps hps
  · intro k v rest hk hv ps hps
    rw [elementIn_cons, if_pos hk] at hps
    split at hps
    · exact (hv _ rfl).elim
    · cases hps
  · intro k v rest hk hrest ps hps
    rw [elementIn_cons, if_neg hk] at hps
    exact hrest ps hps
  · simp [propertiesIn]
  · intro k rest hk entries hdefined ps hps
    rw [propertiesIn_cons, if_pos hk] at hps
    obtain rfl : collapse (definedNodes entries) = ps := Option.some.inj hps
    exact tidyList_collapse hdefined
  · intro k v rest hk hv ps hps
    rw [propertiesIn_cons, if_pos hk] at hps
    split at hps
    · exact (hv _ rfl).elim
    · cases hps
  · intro k v rest hk hrest ps hps
    rw [propertiesIn_cons, if_neg hk] at hps
    exact hrest ps hps

/-- Every schema that was built has distinct names on every level. -/
theorem build_tidy {data : Value} {built : Built} (h : build data = .ok built) :
    built.root.Tidy := by
  unfold build at h
  split at h
  · split at h
    · split at h
      · obtain rfl := Except.ok.inj h
        apply Node.Tidy.of_children
        exact tidyList_collapse (tidy_definitions.1 _)
      · cases h
    · cases h
  · cases h

/-- A small document: a choice at the root, a sequence of nodes and one of relationships. -/
def sampleData : Value :=
  .map [(.str "spec", .map [(.str "properties", .map [
    (.str "Public", .map [(.str "type", .str "string"),
      (.str "enum", .seq [.str "Yes", .str "No"])]),
    (.str "Nodes", .map [(.str "items", .map [(.str "properties", .map [
      (.str "Name", .map [(.str "type", .str "string")]),
      (.str "Kind", .map [(.str "enum", .seq [.str "Api", .str "Job"])])])])]),
    (.str "Relationships", .map [(.str "items", .map [(.str "properties", .map [
      (.str "Start", .map [(.str "enum", .seq [])])])])])])])]

/-- The schema of the small document. -/
def sampleSchema : Built where
  root := .object ⟨"spec", "object", ""⟩ [
    .choice ⟨"Public", "string", ""⟩ ["Yes", "No"],
    .sequence ⟨"Nodes", "array", ""⟩ [.scalar ⟨"Name", "string", ""⟩,
      .choice ⟨"Kind", "", ""⟩ ["Api", "Job"]],
    .sequence ⟨"Relationships", "array", ""⟩ [.choice ⟨"Start", "", ""⟩ []]]
  skipped := []

theorem build_sampleData : build sampleData = .ok sampleSchema := by
  simp [sampleData, sampleSchema, build, rootName, Value.get?, Value.text, textOf, orElse, isKey,
    collapse, place,
    assemble, definedNodes, propertiesIn, elementIn, skippedIn, skippedProperties, skippedElement,
      Node.name,
    Node.info]

/-! ### Paths -/

theorem Node.mem_of_child? {n c : Node} {segment : String} (h : n.child? segment = some c) :
    c ∈ n.children :=
  List.mem_of_find?_eq_some h

theorem Node.name_of_child? {n c : Node} {segment : String} (h : n.child? segment = some c) :
    c.name = segment := by
  have hfound := List.find?_some h
  simpa using hfound

theorem Node.Tidy.child?_of_mem {n c : Node} (h : n.Tidy) (hc : c ∈ n.children) :
    n.child? c.name = some c := by
  have hsome : (n.child? c.name).isSome := List.find?_isSome.mpr ⟨c, hc, by simp⟩
  obtain ⟨found, hfound⟩ := Option.isSome_iff_exists.mp hsome
  rw [hfound]
  congr 1
  exact List.inj_on_of_nodup_map h.children.1 (mem_of_child? hfound) hc (name_of_child? hfound)

theorem Node.lookup?_append (n : Node) (p q : List String) :
    n.lookup? (p ++ q) = (n.lookup? p).bind (·.lookup? q) := by
  induction p generalizing n with
  | nil => rfl
  | cons segment p ih =>
    simp only [List.cons_append, Node.lookup?]
    cases n.child? segment with
    | none => rfl
    | some c => exact ih c

theorem lookup?_append (root : Option Node) (p q : List String) :
    lookup? root (p ++ q) = lookup? (lookup? root p) q := by
  cases root with
  | none => rfl
  | some root => exact root.lookup?_append p q

@[simp] theorem lookup?_nil (root : Option Node) : lookup? root [] = root := by
  cases root <;> rfl

@[simp] theorem lookup?_singleton (root : Option Node) (segment : String) :
    lookup? root [segment] = root.bind (·.child? segment) := by
  cases root with
  | none => rfl
  | some root => cases h : root.child? segment <;> simp [lookup?, Node.lookup?, h]

/-- Whatever a path leads to in a tidy tree is tidy. -/
theorem Node.Tidy.lookup? {n m : Node} {path : List String} (h : n.Tidy)
    (hm : n.lookup? path = some m) : m.Tidy := by
  induction path generalizing n with
  | nil =>
    obtain rfl : n = m := by simpa [Node.lookup?] using hm
    exact h
  | cons segment path ih =>
    rw [Node.lookup?] at hm
    rcases Option.bind_eq_some_iff.mp hm with ⟨c, hc, hrest⟩
    exact ih (h.children.2 c (Node.mem_of_child? hc)) hrest

/-- A property of the node at the end of a path is found one step further, under its own name. -/
theorem lookup?_child {root scope c : Node} {path : List String} (h : root.Tidy)
    (hscope : Schema.lookup? (some root) path = some scope) (hc : c ∈ scope.children) :
    Schema.lookup? (some root) (path ++ [c.name]) = some c := by
  have htidy : scope.Tidy := h.lookup? hscope
  rw [lookup?_append, hscope, lookup?_singleton]
  exact htidy.child?_of_mem hc

/-- Nothing is found below a property that takes no children. -/
theorem lookup?_below_leaf {root : Option Node} {path : List String}
    (h : canHaveChildren (Schema.lookup? root path) = false) (segment : String) :
    Schema.lookup? root (path ++ [segment]) = none := by
  rw [lookup?_append, lookup?_singleton]
  cases hn : Schema.lookup? root path with
  | none => rfl
  | some n =>
    rw [hn] at h
    cases n with
    | scalar i => rfl
    | choice i values => rfl
    | object i ps => simp [canHaveChildren, Node.canHaveChildren] at h
    | sequence i ps => simp [canHaveChildren, Node.canHaveChildren] at h

end SchemaAssist.Schema
