/-
  What a schema that was built means.

  Entries of a `properties` mapping that are no mappings define nothing.  Two documents that differ
  in such entries only, at any depth, describe the same tree (`Site.node_of_thinned`): the relation
  `Thinned` is followed through every reader of the raw entries, and then down the places of a
  document.  `build_meaning` puts this together with what the tree has to do with its document.
-/
import SchemaAssist.Proofs.SchemaSites

namespace SchemaAssist.Schema

open Yaml (Value)

/-! ### Entries that define nothing -/

mutual

/-- A `properties` mapping without some of its entries that are no mappings, also inside its
definitions. -/
inductive Thinned : Entries → Entries → Prop where
  | nil : Thinned [] []
  | drop {k v : Value} {rest rest' : Entries} (malformed : mapping? v = none)
    (below : Thinned rest rest') :
      Thinned ((k, v) :: rest) rest'
  | keep {k v : Value} {rest rest' : Entries} (below : Thinned rest rest') :
      Thinned ((k, v) :: rest) ((k, v) :: rest')
  | inside {k : Value} {definition definition' rest rest' : Entries}
      (inner : ThinnedIn definition definition') (below : Thinned rest rest') :
      Thinned ((k, .map definition) :: rest) ((k, .map definition') :: rest')

/-- A definition, or the mapping above the definitions, in which `properties` mappings were thinned:
its own or that of its elements. -/
inductive ThinnedIn : Entries → Entries → Prop where
  | nil : ThinnedIn [] []
  | keep {k v : Value} {rest rest' : Entries} (below : ThinnedIn rest rest') :
      ThinnedIn ((k, v) :: rest) ((k, v) :: rest')
  | properties {inner inner' rest rest' : Entries} (thinned : Thinned inner inner')
    (below : ThinnedIn rest rest') :
      ThinnedIn ((.str "properties", .map inner) :: rest)
        ((.str "properties", .map inner') :: rest')
  | items {inner inner' rest rest' : Entries} (thinned : ThinnedIn inner inner')
    (below : ThinnedIn rest rest') :
      ThinnedIn ((.str "items", .map inner) :: rest) ((.str "items", .map inner') :: rest')

end

theorem Thinned.refl (entries : Entries) : Thinned entries entries := by
  induction entries with
  | nil => exact .nil
  | cons entry rest ih => exact .keep ih

theorem ThinnedIn.refl (entries : Entries) : ThinnedIn entries entries := by
  induction entries with
  | nil => exact .nil
  | cons entry rest ih => exact .keep ih

theorem rel_cases {α β : Type} {R : α → β → Prop} {a : Option α} {b : Option β}
    (h : Option.Rel R a b) :
    (a = none ∧ b = none) ∨ ∃ x y, a = some x ∧ b = some y ∧ R x y := by
  cases h with
  | none => exact .inl ⟨rfl, rfl⟩
  | some hrel => exact .inr ⟨_, _, rfl, rfl, hrel⟩

theorem rel_bind {α β γ δ : Type} {R : α → β → Prop} {S : γ → δ → Prop} {a : Option α}
    {b : Option β} {f : α → Option γ} {g : β → Option δ} (h : Option.Rel R a b)
    (hnext : ∀ x y, R x y → Option.Rel S (f x) (g y)) :
    Option.Rel S (a.bind f) (b.bind g) := by
  cases h with
  | none => exact .none
  | some hrel => exact hnext _ _ hrel

theorem isSome_eq_of_rel {α β : Type} {R : α → β → Prop} {a : Option α} {b : Option β}
    (h : Option.Rel R a b) :
    a.isSome = b.isSome := by
  cases h <;> rfl

theorem definitions_cons (k v : Value) (rest : Entries) :
    definitions ((k, v) :: rest) = ((mapping? v).map (k.text, ·)).toList ++ definitions rest := by
  cases v <;> rfl

theorem Thinned.definitions {properties properties' : Entries}
    (h : Thinned properties properties') :
    List.Forall₂ (fun pair pair' => pair.1 = pair'.1 ∧
      ThinnedIn pair.2 pair'.2) (definitions properties)
      (definitions properties') := by
  induction properties generalizing properties' with
  | nil =>
    cases h
    exact .nil
  | cons entry rest ih =>
    cases h with
    | drop malformed below =>
      rw [definitions_cons, malformed]
      exact ih below
    | @keep k v _ rest' below =>
      rw [definitions_cons, definitions_cons]
      cases mapping? v with
      | none => exact ih below
      | some definition => exact .cons ⟨rfl, .refl definition⟩ (ih below)
    | inside inner below => exact .cons ⟨rfl, inner⟩ (ih below)

theorem Thinned.names_eq {properties properties' : Entries} (h : Thinned properties properties') :
    names properties = names properties' := by
  have hpairs := h.definitions
  rw [names, names]
  congr 1
  generalize Schema.definitions properties = pairs,
    Schema.definitions properties' = pairs' at hpairs ⊢
  induction hpairs with
  | nil => rfl
  | cons hpair _ ih => rw [List.map_cons, List.map_cons, hpair.1, ih]

theorem Thinned.definition? {properties properties' : Entries} (h : Thinned properties properties')
    (s : String) :
    Option.Rel ThinnedIn (definition? properties s) (definition? properties' s) := by
  have hpairs := h.definitions
  rw [Schema.definition?, Schema.definition?]
  generalize Schema.definitions properties = pairs,
    Schema.definitions properties' = pairs' at hpairs ⊢
  induction hpairs with
  | nil => exact .none
  | @cons pair pair' rest rest' hpair _ ih =>
    rw [lastNamed_cons, lastNamed_cons, hpair.1]
    cases hlast : lastNamed (·.1) rest s <;> cases hlast' :
      lastNamed (·.1) rest' s <;> rw [hlast, hlast'] at ih
    · split
      · exact .some hpair.2
      · exact .none
    · cases ih
    · cases ih
    · exact ih

/-- What stands under a key of a thinned mapping: what stood there, or a thinned mapping. -/
theorem ThinnedIn.get?_rel {R : Value → Value → Prop} (hrefl : ∀ v, R v v) {key : String}
    (hproperties : key = "properties" → ∀ inner inner', Thinned inner inner' →
      R (.map inner) (.map inner'))
    (hitems : key = "items" → ∀ inner inner', ThinnedIn inner inner' → R (.map inner) (.map inner'))
    {entries entries' : Entries} (h : ThinnedIn entries entries') :
    Option.Rel R ((Value.map entries).get? key) ((Value.map entries').get? key) := by
  induction entries generalizing entries' with
  | nil =>
    cases h
    exact .none
  | cons entry rest ih =>
    cases h with
    | keep below =>
      rw [get?_cons, get?_cons]
      split
      · exact .some (hrefl _)
      · exact ih below
    | properties thinned below =>
      rw [get?_cons, get?_cons]
      split
      · rename_i hkey
        exact .some (hproperties (beq_iff_eq.mp hkey).symm _ _ thinned)
      · exact ih below
    | items thinned below =>
      rw [get?_cons, get?_cons]
      split
      · rename_i hkey
        exact .some (hitems (beq_iff_eq.mp hkey).symm _ _ thinned)
      · exact ih below

theorem ThinnedIn.get?_eq {entries entries' : Entries} (h : ThinnedIn entries entries')
    {key : String} (hproperties : key ≠ "properties") (hitems : key ≠ "items") :
    (Value.map entries).get? key = (Value.map entries').get? key := by
  have hrel :=
    h.get?_rel (fun v => Eq.refl v) (fun heq => absurd heq hproperties)
      (fun heq => absurd heq hitems)
  rcases rel_cases hrel with ⟨hnone, hnone'⟩ | ⟨v, v', hv, hv', rfl⟩
  · rw [hnone, hnone']
  · rw [hv, hv']

theorem ThinnedIn.mappingAt? {R : Entries → Entries → Prop} (hrefl : ∀ entries, R entries entries)
    {key : String}
    (hproperties : key = "properties" → ∀ inner inner', Thinned inner inner' → R inner inner')
    (hitems : key = "items" → ∀ inner inner', ThinnedIn inner inner' → R inner inner')
    {entries entries' : Entries} (h : ThinnedIn entries entries') :
    Option.Rel R (mappingAt? entries key) (mappingAt? entries' key) := by
  have hsame : ∀ v, Option.Rel R (mapping? v) (mapping? v) := by
    intro v
    cases mapping? v with
    | none => exact .none
    | some inner => exact .some (hrefl inner)
  have hrel := h.get?_rel (R := fun v v' => Option.Rel R (mapping? v) (mapping? v')) hsame
    (fun hkey inner inner' hinner => .some (hproperties hkey inner inner' hinner))
    (fun hkey inner inner' hinner => .some (hitems hkey inner inner' hinner))
  exact rel_bind hrel fun _ _ hmapping => hmapping

theorem ThinnedIn.nested {definition definition' : Entries} (h : ThinnedIn definition definition') :
    Option.Rel Thinned (Schema.mappingAt? definition "properties")
      (Schema.mappingAt? definition' "properties") :=
  h.mappingAt? Thinned.refl (fun _ _ _ hinner => hinner) (fun hkey => absurd hkey (by decide))

theorem ThinnedIn.elements {definition definition' : Entries}
    (h : ThinnedIn definition definition') :
    Option.Rel Thinned (elements? definition) (elements? definition') := by
  have hitems : Option.Rel ThinnedIn (Schema.mappingAt? definition "items")
      (Schema.mappingAt? definition' "items") :=
    h.mappingAt? ThinnedIn.refl (fun hkey => absurd hkey (by decide)) (fun _ _ _ hinner => hinner)
  exact rel_bind hitems fun _ _ hinner => hinner.nested

theorem ThinnedIn.textOf_eq {definition definition' : Entries}
    (h : ThinnedIn definition definition') {key : String} (hproperties : key ≠ "properties")
    (hitems : key ≠ "items") :
    textOf (.map definition) key = textOf (.map definition') key := by
  rw [textOf, textOf, h.get?_eq hproperties hitems]

theorem ThinnedIn.choices?_eq {definition definition' : Entries}
    (h : ThinnedIn definition definition') :
    choices? definition = choices? definition' := by
  rw [choices?, choices?, h.get?_eq (by decide) (by decide)]

theorem ThinnedIn.interior {definition definition' : Entries}
    (h : ThinnedIn definition definition') :
    Option.Rel Thinned (interior? definition) (interior? definition') := by
  rw [interior?, interior?, h.choices?_eq, h.textOf_eq (by decide) (by decide)]
  split
  · exact .none
  · rcases rel_cases h.nested with ⟨hnone, hnone'⟩ | ⟨inner, inner', hv, hv', hinner⟩
    · rw [hnone, hnone']
      dsimp only
      split
      · exact .none
      · exact h.elements
    · rw [hv, hv']
      exact .some hinner

namespace Site

/-- Places of the same kind and name whose entries were thinned. -/
inductive Thinned : Site → Site → Prop where
  | root {spec spec' : Entries} (entries : ThinnedIn spec spec') : Thinned (root spec) (root spec')
  | property {name : String} {definition definition' : Entries}
    (entries : ThinnedIn definition definition') :
      Thinned (property name definition) (property name definition')

theorem Thinned.properties {site site' : Site} (h : Thinned site site') :
    Option.Rel Schema.Thinned site.properties? site'.properties? := by
  cases h with
  | root entries => exact entries.nested
  | property entries => exact entries.interior

theorem Thinned.names_eq {site site' : Site} (h : Thinned site site') :
    site.names = site'.names := by
  rw [names, names]
  rcases rel_cases h.properties with ⟨hnone, hnone'⟩ | ⟨properties, properties', hv, hv', hinner⟩
  · rw [hnone, hnone']
  · rw [hv, hv', Option.map_some, Option.map_some, hinner.names_eq]

theorem Thinned.step {site site' : Site} (h : Thinned site site') (segment : String) :
    Option.Rel Thinned (site.step? segment) (site'.step? segment) := by
  apply rel_bind h.properties
  intro properties properties' hinner
  rcases rel_cases (hinner.definition? segment) with ⟨hnone, hnone'⟩ | ⟨definition, definition', hd,
    hd', hdefinition⟩
  · rw [hnone, hnone']
    exact .none
  · rw [hd, hd']
    exact .some (.property hdefinition)

theorem Thinned.form_eq {site site' : Site} (h : Thinned site site') (nodes : List Node) :
    site.form nodes = site'.form nodes := by
  cases h with
  | root entries =>
    rw [form, form, entries.textOf_eq (by decide) (by decide)]
  | property entries =>
    unfold form
    dsimp only
    rw [entries.choices?_eq, isSome_eq_of_rel entries.nested, isSome_eq_of_rel entries.elements,
      entries.textOf_eq (by decide) (by decide), entries.textOf_eq (by decide) (by decide)]

/-- Entries that define nothing leave no trace in the tree. -/
theorem node_of_thinned {site site' : Site} (h : Thinned site site') : site.node = site'.node := by
  rw [node_eq, node_eq, h.form_eq, below, below, List.map_filterMap, List.map_filterMap, h.names_eq]
  congr 1
  apply List.filterMap_congr
  intro segment _
  rcases rel_cases (h.step segment) with ⟨hnone, hnone'⟩ | ⟨next, next', hstep, hstep', hnext⟩
  · rw [hnone, hnone']
  · have hsize := size_step? hstep
    rw [hstep, hstep', Option.map_some, Option.map_some, node_of_thinned hnext]
termination_by site.size

end Site

/-- The schema means what the document says.  Every path leads to the node that is read off the
place to which the path leads in the document.  The children of a node stand under their own names,
which are distinct, in the order of their first definitions.  Entries of `properties` mappings that
are no mappings can go. -/
theorem build_meaning {data : Value} {built : Built} (h : build data = .ok built) :
    ∃ spec, data.get? rootName = some (.map spec) ∧
      (∀ path, lookup? (some built.root) path = ((Site.root spec).walk? path).map Site.node) ∧
      (∀ path n, lookup? (some built.root) path = some n →
        (∀ c ∈ n.children, n.child? c.name = some c) ∧ (n.children.map (·.name)).Nodup ∧
          ∃ site, (Site.root spec).walk? path = some site ∧ n.children.map (·.name) = site.names) ∧
      ∀ data' spec', data'.get? rootName = some (.map spec') → ThinnedIn spec spec' →
        ∃ built', build data' = .ok built' ∧ built'.root = built.root := by
  obtain ⟨spec, properties, hspec, hproperties⟩ := spec_of_build h
  have hroot := root_of_build h hspec
  have hpaths : ∀ path, lookup? (some built.root) path =
      ((Site.root spec).walk? path).map Site.node := by
    intro path
    rw [hroot]
    exact Site.lookup?_node _ path
  refine ⟨spec, hspec, hpaths, ?_, ?_⟩
  · intro path n hn
    have htidy : n.Tidy := (build_tidy h).lookup? hn
    refine ⟨fun c hc => htidy.child?_of_mem hc, htidy.children.1, ?_⟩
    rw [hpaths] at hn
    obtain ⟨site, hsite, rfl⟩ := Option.map_eq_some_iff.mp hn
    exact ⟨site, hsite, site.map_name_children_node⟩
  · intro data' spec' hspec' hthinned
    have hnested := hthinned.nested
    rw [hproperties] at hnested
    rcases rel_cases hnested with ⟨hnone, -⟩ | ⟨_, properties', -, hproperties', -⟩
    · cases hnone
    · obtain ⟨built', hbuilt', hroot'⟩ := build_eq data' hspec' hproperties'
      exact ⟨built', hbuilt', by rw [hroot', hroot, Site.node_of_thinned (.root hthinned)]⟩

/-- The `spec` of a document that defines `1` twice, first as a plain value, and in which `Version`
and `Old` may define nothing. -/
def repeatedSpec (malformed : Entries) (old : Entries) : Entries :=
  [(.str "properties", .map (malformed ++ [
    (.int 1, .map [(.str "type", .str "string")]),
    (.str "Nodes", .map [(.str "items", .map [(.str "properties", .map (old ++ [
      (.str "Kind", .map [(.str "enum", .seq [.str "Api"])])]))])]),
    (.str "1", .map [(.str "properties",
      .map [(.str "Kind", .map [(.str "type", .str "string")])])])]))]

/-- The last definition of `1` counts, in the first place, and the entries that define nothing can
go. -/
theorem build_meaning_sample :
    ∃ built,
      build (.map
        [(.str "spec", .map (repeatedSpec [(.str "Version", .int 2)] [(.str "Old", .null)]))]) =
          .ok built ∧
      lookup? (some built.root) ["1", "Kind"] = some (.scalar ⟨"Kind", "string", ""⟩) ∧
      built.root.children.map (·.name) = ["1", "Nodes"] ∧
      ∃ built', build (.map [(.str "spec", .map (repeatedSpec [] []))]) = .ok built' ∧
        built'.root = built.root := by
  obtain ⟨built, hbuilt, -⟩ := build_eq
    (.map [(.str "spec", .map (repeatedSpec [(.str "Version", .int 2)] [(.str "Old", .null)]))]) rfl
      rfl
  obtain ⟨spec, hspec, hpaths, hnodes, hthinned⟩ := build_meaning hbuilt
  obtain rfl : repeatedSpec [(.str "Version", .int 2)] [(.str "Old", .null)] = spec := by
    simpa [Value.get?, rootName] using hspec
  refine ⟨built, hbuilt, ?_, ?_, ?_⟩
  · rw [hpaths]
    have hwalk : (Site.root (repeatedSpec [(.str "Version", .int 2)] [(.str "Old", .null)])).walk?
        ["1", "Kind"] =
        some (.property "Kind" [(.str "type", .str "string")]) := by rfl
    rw [hwalk, Option.map_some, Site.node_eq]
    rfl
  · obtain ⟨-, -, site, hsite, hnames⟩ := hnodes [] built.root (by simp)
    obtain rfl := Option.some.inj hsite
    rw [hnames]
    rfl
  · refine hthinned _ (repeatedSpec [] []) rfl ?_
    refine .properties (.drop rfl
      (.keep (.inside (.items (.properties (.drop rfl (.refl _)) .nil) .nil) (.refl _)))) .nil

end SchemaAssist.Schema
