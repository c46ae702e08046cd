/-
  The tree that a document describes.

  A document describes its properties without a tree: a path is followed through the raw entries,
  from one `properties` mapping to the next.  `Site` is a place reached in this way, `Site.walk?`
  the way to it and `Site.node` the node that stands there by the entries alone.  Of several
  definitions of a name the last counts (`lastNamed`).

  The builder works bottom-up and puts nodes in the place of nodes.  It makes the same tree
  (`root_of_build`): what it places step by step is the last node of every name, in the order of the
  first (`collapse_eq`).  A path in the tree is a path in the document (`Site.lookup?_node`).
-/
import Mathlib.Data.List.Induction
import SchemaAssist.Proofs.SchemaTree

namespace SchemaAssist.Schema

open Yaml (Value)

/-! ### The last item of a name -/

section LastNamed

variable {α β : Type} (name : α → String)

/-- The last item of the given name. -/
def lastNamed (items : List α) (s : String) : Option α := (items.filter (name · == s)).getLast?

theorem lastNamed_append (items more : List α) (s : String) :
    lastNamed name (items ++ more) s = (lastNamed name more s).or (lastNamed name items s) := by
  rw [lastNamed, List.filter_append, List.getLast?_append]
  rfl

theorem lastNamed_singleton (a : α) (s : String) :
    lastNamed name [a] s = if name a = s then some a else none := by
  by_cases h : name a = s <;> simp [lastNamed, h]

theorem lastNamed_cons (a : α) (rest : List α) (s : String) :
    lastNamed name (a :: rest) s =
      (lastNamed name rest s).or (if name a = s then some a else none) := by
  rw [← List.singleton_append, lastNamed_append, lastNamed_singleton]

theorem lastNamed_map (f : β → α) (items : List β) (s : String) :
    lastNamed name (items.map f) s = (lastNamed (fun b => name (f b)) items s).map f := by
  rw [lastNamed, List.filter_map, List.getLast?_map]
  rfl

variable {name}

theorem mem_of_lastNamed {items : List α} {s : String} {a : α}
    (h : lastNamed name items s = some a) :
    a ∈ items ∧ name a = s := by
  simpa using List.mem_filter.mp (List.mem_of_getLast? h)

theorem lastNamed_isSome {items : List α} {s : String} :
    (lastNamed name items s).isSome ↔ s ∈ items.map name := by
  simp [lastNamed]

end LastNamed

/-! ### What is left when nodes are placed one after another -/

theorem eraseDups_concat (texts : List String) (s : String) :
    (texts ++ [s]).eraseDups = if s ∈ texts then texts.eraseDups else texts.eraseDups ++ [s] := by
  rw [List.eraseDups_append]
  by_cases h : s ∈ texts
  · simp [List.removeAll, h]
  · simp [List.removeAll, h, List.eraseDups_cons]

theorem collapse_concat (nodes : List Node) (n : Node) :
    collapse (nodes ++ [n]) = place (collapse nodes) n := by
  simp [collapse]

theorem map_name_collapse (nodes : List Node) :
    (collapse nodes).map (·.name) = (nodes.map (·.name)).eraseDups := by
  induction nodes using List.reverseRecOn with
  | nil => rfl
  | append_singleton nodes n ih =>
    rw [collapse_concat, map_name_place, ih, List.map_append, List.map_singleton, eraseDups_concat]
    simp only [List.mem_eraseDups]

/-- Collapsing keeps the last node of every name, in the order in which the names first occur. -/
theorem collapse_eq (nodes : List Node) :
    collapse nodes = (nodes.map (·.name)).eraseDups.filterMap (lastNamed (·.name) nodes) := by
  -- The induction takes off the node that is placed last.
  induction nodes using List.reverseRecOn with
  | nil => rfl
  | append_singleton nodes n ih =>
    have hany : (collapse nodes).any (·.name == n.name) = true ↔ n.name ∈ nodes.map (·.name) := by
      rw [← List.mem_eraseDups, ← map_name_collapse]
      simp
    have hlast : ∀ s, lastNamed (·.name) (nodes ++ [n]) s =
        if n.name = s then some n else lastNamed (·.name) nodes s := by
      intro s
      rw [lastNamed_append, lastNamed_singleton]
      split <;> rfl
    rw [collapse_concat, place, List.map_append, List.map_singleton, eraseDups_concat]
    by_cases hold : n.name ∈ nodes.map (·.name)
    · rw [if_pos (hany.mpr hold), if_pos hold, ih, List.map_filterMap]
      apply List.filterMap_congr
      intro s hs
      obtain ⟨m, hm⟩ :=
        Option.isSome_iff_exists.mp (lastNamed_isSome.mpr (List.mem_eraseDups.mp hs))
      obtain rfl := (mem_of_lastNamed hm).2
      rw [hlast, hm, Option.map_some]
      by_cases heq : n.name = m.name
      · simp [heq]
      · simp [heq, Ne.symm heq]
    · rw [if_neg (fun h => hold (hany.mp h)), if_neg hold, List.filterMap_append, ih]
      congr 1
      · apply List.filterMap_congr
        intro s hs
        rw [hlast, if_neg]
        rintro rfl
        exact hold (List.mem_eraseDups.mp hs)
      · simp [hlast]

/-! ### The raw document -/

/-- The entries of a mapping. -/
abbrev Entries := List (Value × Value)

/-- The entries of a value that is a mapping. -/
def mapping? : Value → Option Entries
  | .map entries => some entries
  | _ => none

/-- The entries of the mapping under a key. -/
def mappingAt? (entries : Entries) (key : String) : Option Entries :=
  ((Value.map entries).get? key).bind mapping?

/-- The list under `enum`. -/
def choices? (definition : Entries) : Option (List Value) :=
  match (Value.map definition).get? "enum" with
  | some (.seq values) => some values
  | _ => none

/-- The entries of a `properties` mapping that are well-formed, under the texts of their keys. -/
def definitions (properties : Entries) : List (String × Entries) :=
  properties.filterMap fun entry => (mapping? entry.2).map (entry.1.text, ·)

/-- The names that are defined, in the order of their first definitions. -/
def names (properties : Entries) : List String := ((definitions properties).map (·.1)).eraseDups

/-- The definition of a name: of several the last. -/
def definition? (properties : Entries) (name : String) : Option Entries :=
  (lastNamed (·.1) (definitions properties) name).map (·.2)

/-- The `properties` of the elements of a sequence. -/
def elements? (definition : Entries) : Option Entries :=
  (mappingAt? definition "items").bind (mappingAt? · "properties")

/-- The `properties` mapping in which a path goes on below a definition. -/
def interior? (definition : Entries) : Option Entries :=
  if (choices? definition).isSome then none
  else match mappingAt? definition "properties" with
    | some properties => some properties
    | none => if textOf (.map definition) "type" = "object" then none else elements? definition

/-- A place of a document: the whole of it, or a property of the given name and definition. -/
inductive Site where
  | root (spec : Entries)
  | property (name : String) (definition : Entries)

namespace Site

/-- The `properties` mapping in which a path goes on. -/
def properties? : Site → Option Entries
  | root spec => mappingAt? spec "properties"
  | property _ definition => interior? definition

/-- One step down a path. -/
def step? (site : Site) (segment : String) : Option Site :=
  site.properties?.bind fun properties => (definition? properties segment).map (property segment)

/-- The place at the end of a path. -/
def walk? (site : Site) : List String → Option Site
  | [] => some site
  | segment :: path => (site.step? segment).bind (·.walk? path)

/-- The names below a place, in the order of their first definitions. -/
def names (site : Site) : List String := (site.properties?.map Schema.names).getD []

/-- The places one step below. -/
def below (site : Site) : List Site := site.names.filterMap site.step?

/-- The name of a place. -/
def name : Site → String
  | root _ => rootName
  | property name _ => name

/-- The node of a place, from the nodes below it. -/
def form : Site → List Node → Node
  | root spec, nodes => .object ⟨rootName, "object", textOf (.map spec) "description"⟩ nodes
  | property name definition, nodes =>
    let typeName := textOf (.map definition) "type"
    let description := textOf (.map definition) "description"
    match choices? definition with
    | some values => .choice ⟨name, typeName, description⟩ (values.map (·.text))
    | none =>
      if (mappingAt? definition "properties").isSome ∨ typeName = "object" then
        .object ⟨name, orElse typeName "object", description⟩ nodes
      else if (elements? definition).isSome then .sequence
        ⟨name, orElse typeName "array", description⟩ nodes
      else .scalar ⟨name, typeName, description⟩

/-- The size of the entries at a place. -/
noncomputable def size : Site → Nat
  | root spec => sizeOf spec
  | property _ definition => sizeOf definition

end Site

/-! ### A path leads to smaller and smaller entries -/

theorem mapping?_eq_some {v : Value} {entries : Entries} :
    mapping? v = some entries ↔ v = .map entries := by
  cases v <;> simp [mapping?]

theorem sizeOf_lt_of_entry (key : Value) {inner entries : Entries}
    (h : (key, Value.map inner) ∈ entries) :
    sizeOf inner < sizeOf entries := by
  have hentry := List.sizeOf_lt_of_mem h
  simp only [Prod.mk.sizeOf_spec, Value.map.sizeOf_spec] at hentry
  omega

theorem sizeOf_mappingAt? {entries inner : Entries} {key : String}
    (h : mappingAt? entries key = some inner) :
    sizeOf inner < sizeOf entries := by
  obtain ⟨v, hv, hmap⟩ := Option.bind_eq_some_iff.mp h
  obtain rfl := mapping?_eq_some.mp hmap
  obtain ⟨entry, hfound, hvalue⟩ := Option.map_eq_some_iff.mp hv
  apply sizeOf_lt_of_entry entry.1
  rw [← hvalue]
  exact List.mem_of_find?_eq_some hfound

theorem sizeOf_elements? {definition inner : Entries} (h : elements? definition = some inner) :
    sizeOf inner < sizeOf definition := by
  obtain ⟨items, hitems, hinner⟩ := Option.bind_eq_some_iff.mp h
  exact Nat.lt_trans (sizeOf_mappingAt? hinner) (sizeOf_mappingAt? hitems)

theorem sizeOf_definitions {properties : Entries} {pair : String × Entries}
    (h : pair ∈ definitions properties) :
    sizeOf pair.2 < sizeOf properties := by
  obtain ⟨entry, hentry, hpair⟩ := List.mem_filterMap.mp h
  obtain ⟨inner, hinner, rfl⟩ := Option.map_eq_some_iff.mp hpair
  apply sizeOf_lt_of_entry entry.1
  rw [← mapping?_eq_some.mp hinner]
  exact hentry

theorem sizeOf_definition? {properties definition : Entries} {name : String}
    (h : definition? properties name = some definition) :
    sizeOf definition < sizeOf properties := by
  obtain ⟨pair, hlast, rfl⟩ := Option.map_eq_some_iff.mp h
  exact sizeOf_definitions (mem_of_lastNamed hlast).1

namespace Site

theorem sizeOf_properties? {site : Site} {properties : Entries}
    (h : site.properties? = some properties) :
    sizeOf properties < site.size := by
  cases site with
  | root spec => exact sizeOf_mappingAt? h
  | property name definition =>
    rw [properties?, interior?] at h
    split at h
    · cases h
    · split at h
      · rename_i hnested
        obtain rfl := Option.some.inj h
        exact sizeOf_mappingAt? hnested
      · split at h
        · cases h
        · exact sizeOf_elements? h

theorem size_step? {site next : Site} {segment : String} (h : site.step? segment = some next) :
    next.size < site.size := by
  obtain ⟨properties, hproperties, hnext⟩ := Option.bind_eq_some_iff.mp h
  obtain ⟨definition, hdefinition, rfl⟩ := Option.map_eq_some_iff.mp hnext
  exact Nat.lt_trans (sizeOf_definition? hdefinition) (sizeOf_properties? hproperties)

theorem size_below {site next : Site} (h : next ∈ site.below) : next.size < site.size := by
  obtain ⟨segment, -, hstep⟩ := List.mem_filterMap.mp h
  exact size_step? hstep

/-- The node of a place. -/
def node (site : Site) : Node := site.form (site.below.attach.map fun next => next.1.node)
termination_by site.size
decreasing_by exact size_below next.2

theorem node_eq (site : Site) : site.node = site.form (site.below.map node) := by
  rw [node, List.attach_map_val]

/-! ### Paths in the document and in the tree -/

theorem name_form (site : Site) (nodes : List Node) : (site.form nodes).name = site.name := by
  cases site with
  | root spec => rfl
  | property name definition =>
    unfold form
    dsimp only
    split
    · rfl
    · split
      · rfl
      · split <;> rfl

theorem name_node (site : Site) : site.node.name = site.name := by
  rw [node_eq, name_form]

theorem name_step? {site next : Site} {segment : String} (h : site.step? segment = some next) :
    next.name = segment := by
  obtain ⟨properties, -, hnext⟩ := Option.bind_eq_some_iff.mp h
  obtain ⟨definition, -, rfl⟩ := Option.map_eq_some_iff.mp hnext
  rfl

/-- There is a step to every name below a place, and to no other. -/
theorem step?_isSome {site : Site} {segment : String} :
    (site.step? segment).isSome ↔ segment ∈ site.names := by
  rw [step?, names]
  cases site.properties? with
  | none => simp
  | some properties => simp [Schema.names, definition?, lastNamed_isSome, List.mem_eraseDups]

theorem children_form {site : Site} {nodes : List Node} (h : site.properties? = none → nodes = []) :
    (site.form nodes).children = nodes := by
  cases site with
  | root spec => rfl
  | property name definition =>
    unfold form
    dsimp only
    split
    · rename_i values hvalues
      exact (h (by simp [properties?, interior?, hvalues])).symm
    · rename_i hvalues
      split
      · rfl
      · rename_i hnested
        split
        · rfl
        · rename_i helements
          exact (h (by simp_all [properties?, interior?])).symm

theorem children_node (site : Site) : site.node.children = site.below.map node := by
  rw [node_eq, children_form]
  intro h
  simp [below, names, h]

/-- A step in the tree is a step in the document. -/
theorem child?_node (site : Site) (segment : String) :
    site.node.child? segment = (site.step? segment).map node := by
  have hname : ∀ c ∈ site.node.children, (site.step? c.name).map node = some c := by
    intro c hc
    rw [children_node] at hc
    obtain ⟨next, hnext, rfl⟩ := List.mem_map.mp hc
    obtain ⟨s, -, hstep⟩ := List.mem_filterMap.mp hnext
    rw [name_node, name_step? hstep, hstep]
    rfl
  cases hfound : site.node.child? segment with
  | some c =>
    rw [← Node.name_of_child? hfound]
    exact (hname c (Node.mem_of_child? hfound)).symm
  | none =>
    cases hstep : site.step? segment with
    | none => rfl
    | some next =>
      have hmem : next ∈ site.below :=
        List.mem_filterMap.mpr ⟨segment, step?_isSome.mp (by simp [hstep]), hstep⟩
      have hchild : next.node ∈ site.node.children := by
        rw [children_node]
        exact List.mem_map_of_mem hmem
      have hne := List.find?_eq_none.mp hfound next.node hchild
      rw [name_node, name_step? hstep] at hne
      simp at hne

/-- A path in the tree is a path in the document. -/
theorem lookup?_node (site : Site) (path : List String) :
    site.node.lookup? path = (site.walk? path).map node := by
  induction path generalizing site with
  | nil => rfl
  | cons segment path ih =>
    rw [Node.lookup?, walk?, child?_node]
    cases site.step? segment with
    | none => rfl
    | some next => exact ih next

theorem map_name_children_node (site : Site) : site.node.children.map (·.name) = site.names := by
  rw [children_node, below, List.map_map, List.map_filterMap]
  conv => rhs; rw [← List.filterMap_some (l := site.names)]
  apply List.filterMap_congr
  intro s hs
  obtain ⟨next, hnext⟩ := Option.isSome_iff_exists.mp (step?_isSome.mpr hs)
  rw [hnext, Option.map_some, Function.comp_apply, name_node, name_step? hnext]

end Site

/-! ### The tree that is built -/

theorem get?_cons (k v : Value) (rest : Entries) (key : String) :
    (Value.map ((k, v) :: rest)).get? key =
      if isKey key k then some v else (Value.map rest).get? key := by
  rw [Value.get?, Value.get?, List.find?_cons]
  cases k with
  | str s => cases h : s == key <;> simp [isKey, h]
  | _ => rfl

theorem mappingAt?_cons (k v : Value) (rest : Entries) (key : String) :
    mappingAt? ((k, v) :: rest) key = if isKey key k then mapping? v else mappingAt? rest key := by
  rw [mappingAt?, get?_cons]
  split <;> rfl

/-- The nodes of a `properties` mapping. -/
def nodesOf (properties : Entries) : List Node :=
  (names properties).filterMap fun s => (definition? properties s).map fun definition =>
    (Site.property s definition).node

theorem Site.map_node_below (site : Site) :
    site.below.map node = (site.properties?.map nodesOf).getD [] := by
  have hstep : site.step? = fun segment =>
    site.properties?.bind fun properties =>
      (definition? properties segment).map (property segment) := rfl
  rw [below, List.map_filterMap, names, hstep]
  cases site.properties? with
  | none => rfl
  | some properties => simp [nodesOf, Function.comp_def]

/-- Collapsing the nodes of all definitions leaves the nodes of the mapping. -/
theorem collapse_definitions (properties : Entries) :
    collapse ((definitions properties).map fun pair => (Site.property pair.1 pair.2).node) =
      nodesOf properties := by
  rw [collapse_eq, List.map_map]
  have hname : ((fun n : Node => n.name) ∘ fun pair : String × Entries =>
      (Site.property pair.1 pair.2).node) =
      fun pair => pair.1 := funext fun pair => Site.name_node _
  rw [hname]
  apply List.filterMap_congr
  intro s _
  rw [lastNamed_map, definition?]
  simp only [Site.name_node, Site.name]
  cases h : lastNamed (·.1) (definitions properties) s with
  | none => rfl
  | some pair =>
    obtain rfl := (mem_of_lastNamed h).2
    rfl

theorem choices?_eq_some {definition : Entries} {values : List Value} :
    choices? definition = some values ↔
      (Value.map definition).get? "enum" = some (.seq values) := by
  unfold choices?
  split
  · rename_i found hfound
    rw [hfound]
    simp
  · rename_i hother
    constructor
    · intro h
      cases h
    · intro h
      exact (hother values h).elim

theorem assemble_eq (name : String) (definition : Entries) :
    assemble name (.map definition) ((mappingAt? definition "properties").map nodesOf)
      ((elements? definition).map nodesOf) = (Site.property name definition).node := by
  rw [Site.node_eq, Site.map_node_below, Site.properties?, interior?]
  unfold assemble Site.form
  dsimp only
  -- One case for each shape, in the order in which the builder tries them.
  cases hchoices : choices? definition with
  | some values => simp only [choices?_eq_some.mp hchoices]
  | none =>
    split
    · rename_i values hvalues
      rw [choices?_eq_some.mpr hvalues] at hchoices
      cases hchoices
    · cases hnested : mappingAt? definition "properties" with
      | some properties => simp
      | none =>
        by_cases htype : textOf (.map definition) "type" = "object"
        · simp [htype, orElse]
        · cases helements : elements? definition with
          | some properties => simp [htype]
          | none => simp [htype]

theorem definedNodes_eq_map (properties : Entries) :
    definedNodes properties = (definitions properties).map fun pair =>
      assemble pair.1 (.map pair.2) (propertiesIn pair.2) (elementIn pair.2) := by
  induction properties with
  | nil => simp [definedNodes, definitions]
  | cons entry rest ih =>
    obtain ⟨k, v⟩ := entry
    cases v <;> simp [definedNodes, definitions, mapping?, ih]

theorem propertiesIn_eq (entries : Entries) :
    propertiesIn entries = (mappingAt? entries "properties").map fun properties =>
      collapse (definedNodes properties) := by
  induction entries with
  | nil => simp [propertiesIn, mappingAt?, Value.get?]
  | cons entry rest ih =>
    obtain ⟨k, v⟩ := entry
    rw [propertiesIn_cons, mappingAt?_cons, ih]
    split
    · cases v <;> rfl
    · rfl

theorem elementIn_eq (entries : Entries) :
    elementIn entries = (mappingAt? entries "items").bind propertiesIn := by
  induction entries with
  | nil => simp [elementIn, mappingAt?, Value.get?]
  | cons entry rest ih =>
    obtain ⟨k, v⟩ := entry
    rw [elementIn_cons, mappingAt?_cons, ih]
    split
    · cases v <;> rfl
    · rfl

/-- The nodes that are built of a `properties` mapping are those read off the document. -/
theorem collapse_definedNodes (properties : Entries) :
    collapse (definedNodes properties) = nodesOf properties := by
  rw [definedNodes_eq_map, ← collapse_definitions]
  congr 1
  apply List.map_congr_left
  intro pair hpair
  have hsize : sizeOf pair.2 < sizeOf properties := sizeOf_definitions hpair
  have hinner : ∀ entries, sizeOf entries < sizeOf properties →
      propertiesIn entries = (mappingAt? entries "properties").map nodesOf := by
    intro entries hentries
    rw [propertiesIn_eq]
    cases h : mappingAt? entries "properties" with
    | none => rfl
    | some inner =>
      have hlt := Nat.lt_trans (sizeOf_mappingAt? h) hentries
      rw [Option.map_some, Option.map_some, collapse_definedNodes inner]
  have helement : elementIn pair.2 = (elements? pair.2).map nodesOf := by
    rw [elementIn_eq, elements?]
    cases h : mappingAt? pair.2 "items" with
    | none => rfl
    | some items => exact hinner items (Nat.lt_trans (sizeOf_mappingAt? h) hsize)
  rw [hinner pair.2 hsize, helement, assemble_eq]
termination_by sizeOf properties

/-- A document has a schema if it has a mapping `spec.properties`; the schema is the tree of the
document. -/
theorem build_eq (data : Value) {spec properties : Entries}
    (hspec : data.get? rootName = some (.map spec))
    (hproperties : mappingAt? spec "properties" = some properties) :
    ∃ built, build data = .ok built ∧ built.root = (Site.root spec).node := by
  cases data with
  | map entries =>
    obtain ⟨v, hv, hmap⟩ := Option.bind_eq_some_iff.mp hproperties
    obtain rfl := mapping?_eq_some.mp hmap
    refine ⟨_, by simp only [build, hspec, hv]; rfl, ?_⟩
    rw [Site.node_eq, Site.map_node_below, Site.properties?, hproperties, collapse_definedNodes]
    rfl
  | _ => cases hspec

theorem spec_of_build {data : Value} {built : Built} (h : build data = .ok built) :
    ∃ spec properties, data.get? rootName = some (.map spec) ∧
      mappingAt? spec "properties" = some properties := by
  unfold build at h
  split at h
  · split at h
    · rename_i spec hspec
      split at h
      · rename_i properties hproperties
        exact ⟨spec, properties, hspec, by rw [mappingAt?, hproperties]; rfl⟩
      · cases h
    · cases h
  · cases h

/-- A schema that was built is the tree of its document. -/
theorem root_of_build {data : Value} {built : Built} {spec : Entries} (h : build data = .ok built)
    (hspec : data.get? rootName = some (.map spec)) : built.root = (Site.root spec).node := by
  obtain ⟨_, properties, hspec', hproperties⟩ := spec_of_build h
  obtain rfl : _ = spec := by simpa [hspec'] using hspec
  obtain ⟨built', hbuilt', hroot⟩ := build_eq data hspec hproperties
  rw [h] at hbuilt'
  rw [Except.ok.inj hbuilt', hroot]

end SchemaAssist.Schema
