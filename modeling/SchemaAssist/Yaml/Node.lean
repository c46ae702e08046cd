/-
  The nodes of a document: tagged scalars, sequences and mappings.

  An alias stands for the node of its anchor; inside of that node it stays a reference.  One
  document is read, and nothing may follow it.
-/
import SchemaAssist.Yaml.Problem
import SchemaAssist.Yaml.Token

namespace SchemaAssist.Yaml

/-- What a node claims to be. -/
inductive Tag where
  | str
  | int
  | float
  | bool
  | null
  | binary
  | timestamp
  | seq
  | map
  | set
  | omap
  | pairs
  /-- The key of entries that come from elsewhere. -/
  | merge
  /-- The key of the entry that a mapping stands for. -/
  | value
  | other (uri : String)
  deriving DecidableEq, Repr, Inhabited

/-- What the standard tags expand to before their name. -/
def standardTags : String := "tag:yaml.org,2002:"

def Tag.ofUri (uri : String) : Tag :=
  ([("str", Tag.str), ("int", .int), ("float", .float), ("bool", .bool), ("null", .null),
    ("binary", .binary), ("timestamp", .timestamp), ("seq", .seq), ("map", .map), ("set", .set),
    ("omap", .omap), ("pairs", .pairs), ("merge", .merge), ("value", .value)].find? fun e =>
      standardTags ++ e.1 == uri).elim (.other uri) (·.2)

inductive Node where
  | scalar (tag : Tag) (text : String)
  | sequence (tag : Tag) (items : List Node)
  | mapping (tag : Tag) (entries : List (Node × Node))
  | again (anchor : String)
  deriving Repr, Inhabited

namespace Node

def isMapping : Node → Bool
  | mapping _ _ => true
  | _ => false

def blank : Node := scalar .str ""

/-- The tag of a node; a reference has none of its own. -/
def tag? : Node → Option Tag
  | scalar tag _ | sequence tag _ | mapping tag _ => some tag
  | again _ => none

def retag (tag : Tag) : Node → Node
  | scalar _ text => scalar tag text
  | sequence _ items => sequence tag items
  | mapping _ entries => mapping tag entries
  | again anchor => again anchor

end Node

/-- Anchors by name; one without a node is still being read. -/
abbrev Anchors := List (String × Option Node)

def Anchors.node (anchors : Anchors) (name : String) : Node :=
  ((anchors.find? (·.1 == name)).bind (·.2)).getD Node.blank

/-- The reader of nodes between two tokens. -/
structure Feed where
  tokens : List Token
  anchors : Anchors
  /-- Tag handles and what they stand for. -/
  handles : List (String × String)
  deriving Repr

namespace Feed

/-- The tag handles every document has. -/
def defaultHandles : List (String × String) := [("!", "!"), ("!!", standardTags)]

/-- A failure of the structure, which has no place of its own. -/
def fail {α : Type} (problem : Problem) : Except Error α := .error (.invalid problem 0 0)

def withTokens (f : Feed) (ts : List Token) : Feed := { f with tokens := ts }

/-- An anchor and a tag, in either order. -/
def properties :
    List Token → Except Error (Option String × Option (Option String × String) × List Token)
  | .anchor a :: .tag h s :: rest => .ok (some a, some (h, s), rest)
  | .tag h s :: .anchor a :: rest => .ok (some a, some (h, s), rest)
  | .anchor _ :: .broken e :: _ | .tag _ _ :: .broken e :: _ => .error e
  | .anchor a :: rest => .ok (some a, none, rest)
  | .tag h s :: rest => .ok (none, some (h, s), rest)
  | ts => .ok (none, none, ts)

def tagUri (f : Feed) : Option (Option String × String) → Except Error (Option String)
  | none => .ok none
  | some (none, suffix) => .ok (some suffix)
  | some (some handle, suffix) =>
    match f.handles.find? (·.1 == handle) with
    | none => fail .undefinedHandle
    | some (_, expansion) => .ok (some (expansion ++ suffix))

/-- The tag of a node; without one, or with a bare exclamation mark, that of its kind. -/
def tagOf (kind : Tag) : Option String → Tag
  | none => kind
  | some uri => if uri = "!" then kind else Tag.ofUri uri

def openAnchor (f : Feed) : Option String → Except Error Feed
  | none => .ok f
  | some a =>
    if f.anchors.any (·.1 == a) then fail .duplicateAnchor
    else .ok { f with anchors := (a, none) :: f.anchors }

def closeAnchor (f : Feed) (n : Node) : Option String → Feed
  | none => f
  | some a => { f with anchors := (a, some n) :: f.anchors }

def aliased (f : Feed) (name : String) : Except Error Node :=
  match f.anchors.find? (·.1 == name) with
  | none => fail .undefinedAlias
  | some (_, none) => .ok (.again name)
  | some (_, some n) => .ok n

/-- Whether a block entry is empty, seen from the token after its mark. -/
def endsEntry : List Token → Bool
  | .blockEntry :: _ | .blockEnd :: _ => true
  | _ => false

def endsBlockPart : List Token → Bool
  | .key :: _ | .value :: _ | .blockEnd :: _ => true
  | _ => false

/-- Whether an entry of a sequence without indentation of its own is empty. -/
def endsIndentless (ts : List Token) : Bool := endsEntry ts || endsBlockPart ts

mutual

/-- A node.  `block` permits block collections, `indentless` a sequence that is not indented. -/
def node (block indentless : Bool) : Nat → Feed → Except Error (Node × Feed)
  | 0, _ => fail .nodeContent
  | fuel + 1, f =>
    match f.tokens with
    | .alias name :: rest => do
      let n ← f.aliased name
      pure (n, f.withTokens rest)
    | ts => do
      let (anchor, mark, rest) ← properties ts
      let uri ← f.tagUri mark
      let f := f.withTokens rest
      let finish (n : Node) (f : Feed) : Node × Feed := (n, f.closeAnchor n anchor)
      let empty : Except Error (Node × Feed) :=
        if anchor.isSome ∨ mark.isSome then do
          let f ← f.openAnchor anchor
          pure (finish (.scalar (tagOf .str uri) "") f)
        else fail .nodeContent
      match rest with
      | .broken e :: _ => .error e
      | .blockEntry :: _ =>
        if indentless then do
          let f ← f.openAnchor anchor
          let (items, f) ← indentlessItems fuel f
          pure (finish (.sequence (tagOf .seq uri) items) f)
        else empty
      | .scalar text :: more => do
        let f ← f.openAnchor anchor
        pure (finish (.scalar (tagOf .str uri) text) (f.withTokens more))
      | .flowSequenceStart :: more => do
        let f ← f.openAnchor anchor
        let (items, f) ← flowItems true fuel (f.withTokens more)
        pure (finish (.sequence (tagOf .seq uri) items) f)
      | .flowMappingStart :: more => do
        let f ← f.openAnchor anchor
        let (entries, f) ← flowEntries true fuel (f.withTokens more)
        pure (finish (.mapping (tagOf .map uri) entries) f)
      | .blockSequenceStart :: more =>
        if block then do
          let f ← f.openAnchor anchor
          let (items, f) ← blockItems fuel (f.withTokens more)
          pure (finish (.sequence (tagOf .seq uri) items) f)
        else empty
      | .blockMappingStart :: more =>
        if block then do
          let f ← f.openAnchor anchor
          let (entries, f) ← blockEntries fuel (f.withTokens more)
          pure (finish (.mapping (tagOf .map uri) entries) f)
        else empty
      | _ => empty

/-- The entries of an indented block sequence, up to the end of the block. -/
def blockItems : Nat → Feed → Except Error (List Node × Feed)
  | 0, _ => fail .blockEnd
  | fuel + 1, f =>
    match f.tokens with
    | .blockEntry :: rest => do
      let (item, f) ←
        if endsEntry rest then pure (Node.blank, f.withTokens rest)
        else node true false fuel (f.withTokens rest)
      let (items, f) ← blockItems fuel f
      pure (item :: items, f)
    | .blockEnd :: rest => pure ([], f.withTokens rest)
    | .broken e :: _ => .error e
    | _ => fail .blockEnd

/-- The entries of a sequence without indentation of its own. -/
def indentlessItems : Nat → Feed → Except Error (List Node × Feed)
  | 0, _ => fail .blockEnd
  | fuel + 1, f =>
    match f.tokens with
    | .blockEntry :: rest => do
      let (item, f) ←
        if endsIndentless rest then pure (Node.blank, f.withTokens rest)
        else node true false fuel (f.withTokens rest)
      let (items, f) ← indentlessItems fuel f
      pure (item :: items, f)
    | .broken e :: _ => .error e
    | _ => pure ([], f)

/-- The entries of a block mapping, up to the end of the block. -/
def blockEntries : Nat → Feed → Except Error (List (Node × Node) × Feed)
  | 0, _ => fail .blockEnd
  | fuel + 1, f =>
    match f.tokens with
    | .key :: rest => do
      let (key, f) ←
        if endsBlockPart rest then pure (Node.blank, f.withTokens rest)
        else node true true fuel (f.withTokens rest)
      let (value, f) ←
        match f.tokens with
        | .value :: more =>
          if endsBlockPart more then pure (Node.blank, f.withTokens more)
          else node true true fuel (f.withTokens more)
        | .broken e :: _ => .error e
        | _ => pure (Node.blank, f)
      let (entries, f) ← blockEntries fuel f
      pure ((key, value) :: entries, f)
    | .blockEnd :: rest => pure ([], f.withTokens rest)
    | .broken e :: _ => .error e
    | _ => fail .blockEnd

/-- The items of a sequence in brackets.  An item may be a single pair. -/
def flowItems (first : Bool) : Nat → Feed → Except Error (List Node × Feed)
  | 0, _ => fail .flowSequence
  | fuel + 1, f =>
    match f.tokens with
    | .flowSequenceEnd :: rest => pure ([], f.withTokens rest)
    | .broken e :: _ => .error e
    | ts =>
      let body := if first then some ts else match ts with
        | .flowEntry :: rest => some rest
        | _ => none
      match body with
      | none => fail .flowSequence
      | some (.flowSequenceEnd :: rest) => pure ([], f.withTokens rest)
      | some (.key :: rest) => do
        let (key, f) ←
          match rest with
          | .value :: _ | .flowEntry :: _ | .flowSequenceEnd :: _ =>
            pure (Node.blank, f.withTokens rest)
          | _ => node false false fuel (f.withTokens rest)
        let (value, f) ←
          match f.tokens with
          | .value :: more =>
            match more with
            | .flowEntry :: _ | .flowSequenceEnd :: _ => pure (Node.blank, f.withTokens more)
            | _ => node false false fuel (f.withTokens more)
          | .broken e :: _ => .error e
          | _ => pure (Node.blank, f)
        let (items, f) ← flowItems false fuel f
        pure (.mapping .map [(key, value)] :: items, f)
      | some rest => do
        let (item, f) ← node false false fuel (f.withTokens rest)
        let (items, f) ← flowItems false fuel f
        pure (item :: items, f)

/-- The entries of a mapping in braces.  An entry may be a key alone. -/
def flowEntries (first : Bool) : Nat → Feed → Except Error (List (Node × Node) × Feed)
  | 0, _ => fail .flowMapping
  | fuel + 1, f =>
    match f.tokens with
    | .flowMappingEnd :: rest => pure ([], f.withTokens rest)
    | .broken e :: _ => .error e
    | ts =>
      let body := if first then some ts else match ts with
        | .flowEntry :: rest => some rest
        | _ => none
      match body with
      | none => fail .flowMapping
      | some (.flowMappingEnd :: rest) => pure ([], f.withTokens rest)
      | some (.key :: rest) => do
        let (key, f) ←
          match rest with
          | .value :: _ | .flowEntry :: _ | .flowMappingEnd :: _ =>
            pure (Node.blank, f.withTokens rest)
          | _ => node false false fuel (f.withTokens rest)
        let (value, f) ←
          match f.tokens with
          | .value :: more =>
            match more with
            | .flowEntry :: _ | .flowMappingEnd :: _ => pure (Node.blank, f.withTokens more)
            | _ => node false false fuel (f.withTokens more)
          | .broken e :: _ => .error e
          | _ => pure (Node.blank, f)
        let (entries, f) ← flowEntries false fuel f
        pure ((key, value) :: entries, f)
      | some rest => do
        let (key, f) ← node false false fuel (f.withTokens rest)
        let (entries, f) ← flowEntries false fuel f
        pure ((key, Node.blank) :: entries, f)

end

/-- Reads directives: at most one version, which must be 1, and no handle twice. -/
def directives : List Token → Bool → List (String × String) →
    Except Error (List (String × String) × List Token)
  | .version major :: rest, seen, handles =>
    if seen then fail .duplicateDirective
    else if major ≠ 1 then fail .version
    else directives rest true handles
  | .tagHandle handle expansion :: rest, seen, handles =>
    if handles.any (·.1 == handle) then fail .duplicateDirective
    else directives rest seen ((handle, expansion) :: handles)
  | .reserved :: rest, seen, handles => directives rest seen handles
  | .broken e :: _, _, _ => .error e
  | ts, _, handles => .ok (handles, ts)

def endsDocument : List Token → Bool
  | [] => true
  | .documentStart :: _ | .documentEnd :: _ => true
  | t :: _ => t.isDirective

/-- The only document of a list of tokens, with its anchors; none if there is nothing at all. -/
def document (ts : List Token) : Except Error (Option (Node × Anchors)) := do
  let fuel := 2 * ts.length + 2
  let isDocumentEnd (t : Token) : Bool := match t with | .documentEnd => true | _ => false
  let whole (f : Feed) (n : Node) : Except Error (Option (Node × Anchors)) :=
    match f.tokens.dropWhile isDocumentEnd with
    | [] => .ok (some (n, f.anchors))
    | more => do
      let _ ← directives more false []
      fail .secondDocument
  match ts with
  | [] => pure none
  | t :: _ =>
    if t.isDirective ∨ t = .documentStart then
      match ← directives ts false [] with
      | (handles, .documentStart :: rest) =>
        let feed : Feed := ⟨rest, [], handles ++ defaultHandles⟩
        if endsDocument rest then whole feed Node.blank
        else
          let (n, f) ← node true false fuel feed
          whole f n
      | _ => fail .documentStart
    else
      let (n, f) ← node true false fuel ⟨ts, [], defaultHandles⟩
      whole f n

end Feed

end SchemaAssist.Yaml
