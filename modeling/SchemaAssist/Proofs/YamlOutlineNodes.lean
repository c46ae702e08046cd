/-
  Loading a document of nested blocks.

  The nodes of an outline have every scalar as the text it was written as: nothing is typed by its
  looks, neither by the scanner, nor by the reader of nodes, nor when these are checked
  (`load_written`).  The same holds of their values.
-/
import SchemaAssist.Proofs.YamlOutlines
import SchemaAssist.Proofs.YamlReading

namespace SchemaAssist.Yaml

mutual

/-- The node of what stands behind a key. -/
def Outline.node : Outline → Node
  | .word w => .scalar .str w.text
  | .words ws => .sequence .seq (ws.map fun w => .scalar .str w.text)
  | .block b => .mapping .map b.nodes

def Block.nodes : Block → List (Node × Node)
  | .last key value => [(.scalar .str key.text, value.node)]
  | .entry key value rest => (.scalar .str key.text, value.node) :: rest.nodes

end

/-! ### Reading the tokens -/

namespace Feed

variable {anchors : Anchors} {handles : List (String × String)} {rest : List Token} {fuel : Nat}

theorem node_scalar (block indentless : Bool) (fuel : Nat) (text : String) :
    node block indentless (fuel + 1) ⟨.scalar text :: rest, anchors, handles⟩ =
      .ok (.scalar .str text, ⟨rest, anchors, handles⟩) := rfl

theorem flowItems_end (first : Bool) (fuel : Nat) :
    flowItems first (fuel + 1) ⟨.flowSequenceEnd :: rest, anchors, handles⟩ =
      .ok ([], ⟨rest, anchors, handles⟩) := rfl

/-- The first item of a list in brackets, or a further one behind its comma. -/
theorem flowItems_scalar (first : Bool) {ts : List Token} {text : String} {items : List Node}
    {f : Feed}
    (hts : ts = if first then .scalar text :: rest else .flowEntry :: .scalar text :: rest)
    (hrest : flowItems false (fuel + 1) ⟨rest, anchors, handles⟩ = .ok (items, f)) :
    flowItems first (fuel + 2) ⟨ts, anchors, handles⟩ = .ok (.scalar .str text :: items, f) := by
  cases first with
  | true | false =>
    subst hts
    rw [flowItems]
    change (flowItems false (fuel + 1) ⟨rest, anchors, handles⟩ >>= fun r =>
      pure (Node.scalar .str text :: r.1, r.2)) = _
    rw [hrest]
    rfl

/-- The further words of a list are read behind their commas. -/
theorem flowItems_others (ws : List Word) (hfuel : ws.length < fuel) :
    flowItems false fuel
        ⟨(ws.flatMap fun w => [.flowEntry, .scalar w.text]) ++ .flowSequenceEnd :: rest, anchors,
          handles⟩ =
      .ok (ws.map fun w => .scalar .str w.text, ⟨rest, anchors, handles⟩) := by
  induction ws generalizing fuel with
  | nil =>
    obtain ⟨more, rfl⟩ : ∃ more, fuel = more + 1 := ⟨fuel - 1, by omega⟩
    exact flowItems_end false more
  | cons w ws ih =>
    rw [List.length_cons] at hfuel
    obtain ⟨more, rfl⟩ : ∃ more, fuel = more + 2 := ⟨fuel - 2, by omega⟩
    exact flowItems_scalar false rfl (ih (by omega))

theorem flowItems_listed (ws : List Word) (hfuel : ws.length < fuel) :
    flowItems true fuel ⟨listedTokens ws ++ .flowSequenceEnd :: rest, anchors, handles⟩ =
      .ok (ws.map fun w => .scalar .str w.text, ⟨rest, anchors, handles⟩) := by
  cases ws with
  | nil =>
    obtain ⟨more, rfl⟩ : ∃ more, fuel = more + 1 := ⟨fuel - 1, by omega⟩
    exact flowItems_end true more
  | cons w ws =>
    rw [List.length_cons] at hfuel
    obtain ⟨more, rfl⟩ : ∃ more, fuel = more + 2 := ⟨fuel - 2, by omega⟩
    exact flowItems_scalar true rfl (flowItems_others ws (by omega))

theorem length_le_listedTokens (ws : List Word) : ws.length ≤ (listedTokens ws).length := by
  cases ws with
  | nil => exact Nat.le_refl 0
  | cons w ws =>
    simp only [listedTokens, List.length_cons, List.length_flatMap, List.length_nil,
      List.map_const', List.sum_replicate_nat]
    omega

theorem endsBlockPart_tokens (o : Outline) (rest : List Token) :
    endsBlockPart (o.tokens ++ rest) = false := by
  cases o with
  | word w => rw [Outline.tokens]; rfl
  | words ws => rw [Outline.tokens]; rfl
  | block b => rw [Outline.tokens]; rfl

/-- An entry of a block mapping is its key, its value and the entries that follow. -/
theorem blockEntries_entry (key : String) {o : Outline} {entries : List (Node × Node)} {f : Feed}
    (hvalue : node true true (fuel + 1) ⟨o.tokens ++ rest, anchors, handles⟩ =
      .ok (o.node, ⟨rest, anchors, handles⟩))
    (hrest : blockEntries (fuel + 1) ⟨rest, anchors, handles⟩ = .ok (entries, f)) :
    blockEntries (fuel + 2) ⟨.key :: .scalar key :: .value :: (o.tokens ++ rest), anchors,
      handles⟩ =
      .ok ((.scalar .str key, o.node) :: entries, f) := by
  have hkey : endsBlockPart (.scalar key :: .value :: (o.tokens ++ rest)) = false := rfl
  rw [blockEntries]
  simp only [withTokens, hkey, node_scalar, endsBlockPart_tokens, hvalue, hrest, bind, Except.bind,
    Bool.false_eq_true, if_false]
  rfl

mutual

theorem node_outline (o : Outline) {anchors : Anchors} {handles : List (String × String)}
    {rest : List Token} {fuel : Nat} (indentless : Bool) (hfuel : o.tokens.length ≤ fuel) :
    node true indentless fuel ⟨o.tokens ++ rest, anchors, handles⟩ =
      .ok (o.node, ⟨rest, anchors, handles⟩) := by
  cases o with
  | word w =>
    rw [Outline.tokens] at hfuel ⊢
    obtain ⟨more, rfl⟩ : ∃ more, fuel = more + 1 := ⟨fuel - 1, by simp at hfuel; omega⟩
    rw [Outline.node]
    exact node_scalar true indentless more w.text
  | words ws =>
    rw [Outline.tokens] at hfuel ⊢
    simp only [List.length_cons, List.length_append, List.length_nil] at hfuel
    obtain ⟨more, rfl⟩ : ∃ more, fuel = more + 1 := ⟨fuel - 1, by omega⟩
    have hlength := length_le_listedTokens ws
    rw [Outline.node, List.cons_append, List.append_assoc, node]
    change (flowItems true more ⟨listedTokens ws ++ .flowSequenceEnd :: rest, anchors, handles⟩ >>=
      fun r =>
      pure (Node.sequence .seq r.1, r.2)) = _
    rw [flowItems_listed ws (by omega)]
    rfl
  | block b =>
    rw [Outline.tokens] at hfuel ⊢
    simp only [List.length_cons, List.length_append, List.length_nil] at hfuel
    obtain ⟨more, rfl⟩ : ∃ more, fuel = more + 1 := ⟨fuel - 1, by omega⟩
    rw [Outline.node, List.cons_append, List.append_assoc, node]
    change (blockEntries more ⟨b.tokens ++ .blockEnd :: rest, anchors, handles⟩ >>= fun r =>
      pure (Node.mapping .map r.1, r.2)) = _
    rw [blockEntries_block b (by omega)]
    rfl

theorem blockEntries_block (b : Block) {anchors : Anchors} {handles : List (String × String)}
    {rest : List Token} {fuel : Nat} (hfuel : b.tokens.length < fuel) :
    blockEntries fuel ⟨b.tokens ++ .blockEnd :: rest, anchors, handles⟩ =
      .ok (b.nodes, ⟨rest, anchors, handles⟩) := by
  cases b with
  | last key value =>
    rw [Block.tokens] at hfuel ⊢
    simp only [List.length_cons] at hfuel
    obtain ⟨more, rfl⟩ : ∃ more, fuel = more + 2 := ⟨fuel - 2, by omega⟩
    rw [Block.nodes]
    exact blockEntries_entry key.text (node_outline value true (by omega)) rfl
  | entry key value next =>
    rw [Block.tokens] at hfuel ⊢
    simp only [List.length_cons, List.length_append] at hfuel
    obtain ⟨more, rfl⟩ : ∃ more, fuel = more + 2 := ⟨fuel - 2, by omega⟩
    rw [Block.nodes, List.cons_append, List.cons_append, List.cons_append, List.append_assoc]
    exact blockEntries_entry key.text (node_outline value true (by omega))
      (blockEntries_block next (by omega))

end

theorem document_block (b : Block) :
    document (.blockMappingStart :: (b.tokens ++ [.blockEnd])) =
      .ok (some ((Outline.block b).node, [])) := by
  have hfirst : ¬ (Token.blockMappingStart.isDirective = true ∨
      Token.blockMappingStart = .documentStart) := by decide
  have hnode : node true false (2 * (Token.blockMappingStart :: (b.tokens ++ [.blockEnd])).length +
      2)
      ⟨.blockMappingStart :: (b.tokens ++ [.blockEnd]), [], defaultHandles⟩ =
        .ok ((Outline.block b).node, ⟨[], [], defaultHandles⟩) := by
    have hread : node true false (2 * (Outline.block b).tokens.length + 2)
        ⟨(Outline.block b).tokens ++ [], [], defaultHandles⟩ =
          .ok ((Outline.block b).node, ⟨[], [], defaultHandles⟩) :=
      node_outline (.block b) false (by omega)
    rwa [Outline.tokens, List.append_nil] at hread
  unfold document
  simp only [if_neg hfirst, hnode, bind, Except.bind]
  rfl

end Feed

/-! ### Checking the nodes -/

theorem Block.untagged_key (b : Block) : ∀ e ∈ b.nodes, e.1.Untagged False := by
  cases b with
  | last key value =>
    intro e he
    rw [Block.nodes] at he
    rw [List.mem_singleton.mp he]
    exact .scalar key.text
  | entry key value rest =>
    rw [Block.nodes]
    exact List.forall_mem_cons.mpr ⟨.scalar key.text, rest.untagged_key⟩

namespace Node

variable (anchors : Anchors)

/-- The nodes that are filled when an outline is checked. -/
inductive Pending : Node → Prop where
  | words (ws : List Word) : Pending (Outline.words ws).node
  | block (b : Block) : Pending (Outline.block b).node

theorem visit_outline (o : Outline) :
    ∃ more, o.node.visit anchors = .ok more ∧ ∀ m ∈ more, Pending m := by
  cases o with
  | word w =>
    refine ⟨[], ?_, by simp⟩
    rw [Outline.node]
    rfl
  | words ws =>
    refine ⟨[(Outline.words ws).node], ?_, by simpa using Pending.words ws⟩
    rw [Outline.node]
    rfl
  | block b =>
    refine ⟨[(Outline.block b).node], ?_, by simpa using Pending.block b⟩
    rw [Outline.node]
    rfl

theorem visitEntries_cons (key : String) {o : Outline} {rest : List (Node × Node)}
    {more : List Node} (hrest : visitEntries anchors rest = .ok more)
    (hmore : ∀ m ∈ more, Pending m) :
    ∃ all, visitEntries anchors ((.scalar .str key, o.node) :: rest) = .ok all ∧
      ∀ m ∈ all, Pending m := by
  obtain ⟨inValue, hvisit, hvalue⟩ := visit_outline anchors o
  refine ⟨inValue ++ more, ?_, List.forall_mem_append.mpr ⟨hvalue, hmore⟩⟩
  have hcons : visitEntries anchors ((.scalar .str key, o.node) :: rest) =
      o.node.visit anchors >>= fun inValue =>
        visitEntries anchors rest >>= fun more => pure (inValue ++ more) := rfl
  rw [hcons, hvisit, hrest]
  rfl

theorem visitEntries_block (b : Block) :
    ∃ more, visitEntries anchors b.nodes = .ok more ∧ ∀ m ∈ more, Pending m := by
  cases b with
  | last key value =>
    rw [Block.nodes]
    exact visitEntries_cons anchors key.text rfl (by simp)
  | entry key value rest =>
    obtain ⟨more, hrest, hmore⟩ := visitEntries_block rest
    rw [Block.nodes]
    exact visitEntries_cons anchors key.text hrest hmore

theorem visitItems_words (ws : List Word) :
    (ws.map fun w => scalar .str w.text).mapM (visit anchors) =
      .ok (List.replicate ws.length []) := by
  induction ws with
  | nil => rfl
  | cons w ws ih =>
    rw [List.map_cons, List.mapM_cons, ih]
    rfl

theorem Pending.fill {n : Node} (h : Pending n) :
    ∃ more, n.fill anchors = .ok more ∧ ∀ m ∈ more, Pending m := by
  cases h with
  | words ws =>
    have hfill : (Outline.words ws).node.fill anchors =
        .ok (List.replicate ws.length []).flatten := by
      rw [Outline.node, Node.fill, visitItems_words]
      rfl
    exact ⟨_, hfill, by simp⟩
  | block b =>
    obtain ⟨more, hvisit, hmore⟩ := visitEntries_block anchors b
    refine ⟨more, ?_, hmore⟩
    rw [Outline.node, Node.fill]
    simp only [allEntries_of_untagged _ b.untagged_key]
    exact hvisit

theorem checkQueue_pending (fuel : Nat) {queue : List Node} (h : ∀ m ∈ queue, Pending m) :
    checkQueue anchors fuel queue = .ok () := by
  induction fuel generalizing queue with
  | zero => rfl
  | succ fuel ih =>
    cases queue with
    | nil => rfl
    | cons n queue =>
      obtain ⟨hn, hqueue⟩ := List.forall_mem_cons.mp h
      obtain ⟨more, hfill, hmore⟩ := hn.fill anchors
      rw [checkQueue, hfill]
      exact ih (List.forall_mem_append.mpr ⟨hqueue, hmore⟩)

theorem check_outline (o : Outline) : o.node.check anchors = .ok () := by
  obtain ⟨queue, hvisit, hqueue⟩ := visit_outline anchors o
  rw [check, hvisit]
  exact checkQueue_pending anchors _ hqueue

end Node

/-- A document of nested blocks loads, with every word as its own text. -/
theorem load_written (b : Block) :
    load ⟨b.written 0, none⟩ = .ok (some ⟨(Outline.block b).node, []⟩) := by
  unfold load
  rw [tokens_written, Feed.document_block]
  simp only [bind, Except.bind, Node.check_outline]
  rfl

/-! ### Looking at the nodes -/

namespace Document

variable (d : Document)

theorem value_word (w : Word) : d.value (Outline.word w).node = .str w.text := by
  rw [Outline.node]
  rfl

theorem items_words (ws : List Word) :
    d.items? (Outline.words ws).node = some (ws.map fun w => .str w.text) := by
  have hvalue : d.value (Outline.words ws).node = .seq (ws.map fun w => .str w.text) := by
    rw [Outline.node]
    change Value.seq ((ws.map fun w => Node.scalar .str w.text).map (d.valueWithin _)) = _
    rw [List.map_map]
    rfl
  rw [items?, hvalue]

theorem entries_block (b : Block) :
    d.entries? (Outline.block b).node =
      some (b.nodes.foldl (fun acc e => Value.put (d.value e.1) e.2 acc) []) := by
  rw [Outline.node, entries?]
  simp only [resolve, Node.allEntries_of_untagged _ b.untagged_key]
  rfl

end Document

end SchemaAssist.Yaml
