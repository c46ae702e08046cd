/-
  The nodes of a document and what they stand for.

  Plain scalars keep their text: nothing is typed by its looks.  Only a tag makes a scalar a number,
  a truth value, a date, bytes or null.  Of several faults the one nearest to the root counts, and
  among equals the first; that is the order in which collections are filled.

  A collection may stand inside itself, so what a document holds is not a tree.  It is given by its
  nodes: the entries of a mapping are found wherever it stands (`Document.entries?`), and the value
  of a node as a whole (`Document.value`) ends where a collection is met inside itself.
-/
import SchemaAssist.Number.Reading
import SchemaAssist.Text.Base64
import SchemaAssist.Text.Split
import SchemaAssist.Yaml.Node
import SchemaAssist.Yaml.Tokens
import SchemaAssist.Yaml.Value

namespace SchemaAssist.Yaml

open Number

/-! ### Scalars -/

def truthWords : List (String × Bool) :=
  [("yes", true), ("no", false), ("true", true), ("false", false), ("on", true), ("off", false)]

/-- The integer a text denotes: decimal, binary, octal, hexadecimal, or digits in base sixty. -/
def integerValue (text : String) : Except Fault Int := do
  let body := text.toList.filter (· != '_')
  match body with
  | [] => .error .emptyNumber
  | _ :: _ =>
    let (negative, digits) := takeSign body
    let signed (n : Int) : Int := if negative then -n else n
    match digits with
    | [] => .error .emptyNumber
    | ['0'] => pure 0
    | '0' :: 'b' :: rest => signed <$> readInteger 2 rest
    | '0' :: 'x' :: rest => signed <$> readInteger 16 rest
    | '0' :: rest => signed <$> readInteger 8 ('0' :: rest)
    | ds =>
      if ds.contains ':' then do
        let parts ← (Text.splitAt ':' ds).mapM (readInteger 10)
        pure (signed (parts.foldl (fun n d => n * 60 + d) 0))
      else signed <$> readInteger 10 ds

/-- Adds digits in base sixty, the last one first; `base` is the weight of the next, which must not
be beyond all doubles. -/
def sexagesimal (base : Nat) (sum : Binary64) : List Binary64 → Except Fault Binary64
  | [] => .ok sum
  | d :: rest =>
    match Binary64.ofRatio false base 1 with
    | .infinite _ => .error .floatSize
    | weight => sexagesimal (base * 60) (sum.add (d.mul weight)) rest

def floatValue (text : String) : Except Fault Binary64 := do
  let body := Text.lower (text.toList.filter (· != '_'))
  match body with
  | [] => .error .emptyNumber
  | _ :: _ =>
    let (negative, digits) := takeSign body
    let signed (x : Binary64) : Binary64 := if negative then x.negate else x
    if digits = ".inf".toList then pure (.infinite negative)
    else if digits = ".nan".toList then pure .nan
    else if digits.contains ':' then do
      let parts ← (Text.splitAt ':' digits).mapM readFloat
      signed <$> sexagesimal 1 (Binary64.zero false) parts.reverse
    else signed <$> readFloat digits

def scalarValue (tag : Tag) (text : String) : Except Error Value :=
  let lift {α : Type} (r : Except Fault α) (f : α → Value) : Except Error Value :=
    match r with
    | .ok a => .ok (f a)
    | .error e => .error (.fault e)
  match tag with
  | .str => .ok (.str text)
  | .null => .ok .null
  | .bool =>
    let word := String.ofList (Text.lower text.toList)
    match truthWords.find? (·.1 == word) with
    | some (_, b) => .ok (.bool b)
    | none => .error (.fault (.truthWord word))
  | .int => lift (integerValue text) .int
  | .float => lift (floatValue text) .float
  | .binary =>
    match if text.toList.all (·.toNat < 0x80) then Text.decodeBase64 text.toList else none with
    | some content => .ok (.bytes content)
    | none => .error (.invalid .base64 0 0)
  | .timestamp => lift (Timestamp.ofText text.toList) .time
  | .merge | .value | .other _ => .error (.invalid .unknownTag 0 0)
  | .seq | .map | .set | .omap | .pairs => .error (.invalid .kindMismatch 0 0)

namespace Node

mutual

/-- The text of a node that is taken for a scalar.  A mapping stands for the entry that is marked as
its value; `loops` says of which references this has no end. -/
def scalarText (loops : String → Bool) : Node → Except Error String
  | scalar _ text => .ok text
  | sequence _ _ => .error (.invalid .kindMismatch 0 0)
  | mapping _ entries => valueText loops entries
  | again anchor =>
    if loops anchor then .error (.fault .recursion) else .error (.invalid .kindMismatch 0 0)

def valueText (loops : String → Bool) : List (Node × Node) → Except Error String
  | [] => .error (.invalid .kindMismatch 0 0)
  | (k, v) :: rest => if k.tag? = some .value then scalarText loops v else valueText loops rest

end

/-! ### Entries -/

/-- The entries that a mapping has of its own.  A key that marks a value is an ordinary one here. -/
def ownEntries (entries : List (Node × Node)) : List (Node × Node) :=
  (entries.filter fun e => e.1.tag? != some .merge).map fun e =>
    (if e.1.tag? = some .value then e.1.retag .str else e.1, e.2)

mutual

/-- The entries that a node gives to a mapping it is merged into; `outer` are those of a mapping
inside of which it stands. -/
def merged (outer : String → Option (List (Node × Node))) : Node → Except Error (List (Node × Node))
  | mapping _ entries => do
    let others ← mergedEntries outer entries
    pure (others ++ ownEntries entries)
  | again anchor =>
    match outer anchor with
    | some entries => .ok entries
    | none => .error (.invalid .mergedKind 0 0)
  | scalar _ _ | sequence _ _ => .error (.invalid .mergedKind 0 0)

/-- The entries that several nodes give, those of the first at the end, where they count more. -/
def mergedItems (outer : String → Option (List (Node × Node))) :
    List Node → Except Error (List (Node × Node))
  | [] => .ok []
  | n :: rest => do
    let entries ← merged outer n
    let more ← mergedItems outer rest
    pure (more ++ entries)

/-- The entries that are merged into a mapping. -/
def mergedEntries (outer : String → Option (List (Node × Node))) :
    List (Node × Node) → Except Error (List (Node × Node))
  | [] => .ok []
  | (k, .sequence _ items) :: rest =>
    if k.tag? = some .merge then do
      let entries ← mergedItems outer items
      let more ← mergedEntries outer rest
      pure (entries ++ more)
    else mergedEntries outer rest
  | (k, v) :: rest =>
    if k.tag? = some .merge then do
      let entries ← merged outer v
      let more ← mergedEntries outer rest
      pure (entries ++ more)
    else mergedEntries outer rest

end

/-- All entries of a mapping, those that are merged into it first. -/
def allEntries (outer : String → Option (List (Node × Node))) (entries : List (Node × Node)) :
    Except Error (List (Node × Node)) := do
  let others ← mergedEntries outer entries
  pure (others ++ ownEntries entries)

/-! ### Checking -/

def isCollectionTag : Tag → Bool
  | .seq | .map | .set | .omap | .pairs => true
  | _ => false

/-- Whether a reference leads to a mapping that is taken for a scalar. -/
def loopsIn (anchors : Anchors) (anchor : String) : Bool :=
  match anchors.node anchor with
  | mapping tag _ => !isCollectionTag tag
  | _ => false

/-- The value of a node whose tag makes it a scalar. -/
def scalarOf (anchors : Anchors) (tag : Tag) (n : Node) : Except Error Value :=
  match n with
  | scalar _ text => scalarValue tag text
  | n => do
    let text ← n.scalarText (loopsIn anchors)
    if tag = .timestamp then .error (.fault .dateKind) else scalarValue tag text

/-- Looks at a node: what of it is still to be filled. -/
def visit (anchors : Anchors) (n : Node) : Except Error (List Node) :=
  match n.tag? with
  | none => .ok []
  | some tag =>
    if isCollectionTag tag then .ok [n]
    else if tag = .merge ∨ tag = .value then .error (.invalid .unknownTag 0 0)
    else match tag with
      | .other _ => .error (.invalid .unknownTag 0 0)
      | tag => (n.scalarOf anchors tag).map fun _ => []

def isAgain : Node → Bool
  | again _ => true
  | _ => false

/-- Looks at the entries of a mapping in order; a key must not be a collection. -/
def visitEntries (anchors : Anchors) : List (Node × Node) → Except Error (List Node)
  | [] => .ok []
  | (k, v) :: rest => do
    let inKey ← k.visit anchors
    if !inKey.isEmpty || k.isAgain then .error (.invalid .unhashableKey 0 0)
    else
      let inValue ← v.visit anchors
      let more ← visitEntries anchors rest
      pure (inValue ++ more)

/-- The key and the value of a mapping that has only one of each. -/
def single? : Node → Option (Node × Node)
  | mapping _ [entry] => some entry
  | _ => none

def visitPair (anchors : Anchors) : Node → Except Error (List Node)
  | again anchor =>
    if (anchors.node anchor).single?.isSome then .ok [] else .error (.invalid .pairs 0 0)
  | n =>
    match n.single? with
    | some (k, v) => do pure ((← k.visit anchors) ++ (← v.visit anchors))
    | none => .error (.invalid .pairs 0 0)

/-- Fills a collection: what of its content is still to be filled.  What comes from a mapping around
it is filled there. -/
def fill (anchors : Anchors) (n : Node) : Except Error (List Node) :=
  match n with
  | sequence .seq items => do pure (← items.mapM (visit anchors)).flatten
  | sequence .omap items | sequence .pairs items =>
    do pure (← items.mapM (visitPair anchors)).flatten
  | mapping .map entries | mapping .set entries => do
    let outer (anchor : String) := if (anchors.node anchor).isMapping then some [] else none
    visitEntries anchors (← allEntries outer entries)
  | _ => .error (.invalid .kindMismatch 0 0)

mutual

def count : Node → Nat
  | scalar _ _ | again _ => 1
  | sequence _ items => countItems items + 1
  | mapping _ entries => countEntries entries + 1

def countItems : List Node → Nat
  | [] => 0
  | n :: rest => count n + countItems rest

def countEntries : List (Node × Node) → Nat
  | [] => 0
  | (k, v) :: rest => count k + count v + countEntries rest

end

def checkQueue (anchors : Anchors) : Nat → List Node → Except Error Unit
  | 0, _ => .ok ()
  | _ + 1, [] => .ok ()
  | fuel + 1, n :: queue => do
    let more ← n.fill anchors
    checkQueue anchors fuel (queue ++ more)

/-- Whether every part of a node has a value. -/
def check (anchors : Anchors) (n : Node) : Except Error Unit := do
  let queue ← n.visit anchors
  checkQueue anchors (n.count + 1) queue

end Node

/-! ### Documents -/

/-- A node and the anchors that it refers to. -/
structure Document where
  root : Node
  anchors : Anchors
  deriving Repr

namespace Document

def resolve (d : Document) : Node → Node
  | .again anchor => d.anchors.node anchor
  | n => n

/-- The value of a node whose parts all have one.  References inside of it are not followed, and
neither is anything that lies deeper than `fuel`. -/
def valueWithin (d : Document) : Nat → Node → Value
  | _, .again anchor => .cycle (d.anchors.node anchor).isMapping
  | 0, n => .cycle n.isMapping
  | fuel + 1, .sequence tag items =>
    if tag = .omap ∨ tag = .pairs then
      .seq (items.map fun n => match n.single? with
        | some (k, v) => .pair (valueWithin d fuel k) (valueWithin d fuel v)
        | none => valueWithin d fuel n)
    else .seq (items.map (valueWithin d fuel))
  | fuel + 1, .mapping tag entries =>
    if Node.isCollectionTag tag then
      let all := ((Node.allEntries (fun _ => some []) entries).toOption).getD []
      let filled :=
        all.foldl (fun acc e => Value.put (valueWithin d fuel e.1) (valueWithin d fuel e.2) acc) []
      if tag = .set then .set (filled.map (·.1)) else .map filled
    else (((Node.mapping tag entries).scalarOf d.anchors tag).toOption).getD .null
  | _, .scalar tag text => ((scalarValue tag text).toOption).getD .null

def value (d : Document) (n : Node) : Value := d.valueWithin ((d.resolve n).count + 1) (d.resolve n)

/-- The entries of a node that is a mapping, wherever it stands. -/
def entries? (d : Document) (n : Node) : Option (List (Value × Node)) :=
  match d.resolve n with
  | .mapping .map entries =>
    let plain (anchor : String) := ((d.anchors.node anchor).merged fun _ => some []).toOption
    let all := ((Node.allEntries plain entries).toOption).getD []
    some (all.foldl (fun acc e => Value.put (d.value e.1) e.2 acc) [])
  | _ => none

/-- The items of a node that is a list, wherever it stands. -/
def items? (d : Document) (n : Node) : Option (List Value) :=
  match d.value n with
  | .seq items => some items
  | _ => none

def size (d : Document) : Nat :=
  d.anchors.foldl (fun n a => n + (a.2.elim 0 Node.count)) d.root.count

end Document

/-- The document of a text; none if there is nothing in it. -/
def load (s : Stream) : Except Error (Option Document) := do
  match ← Feed.document (tokens s) with
  | none => pure none
  | some (n, anchors) =>
    n.check anchors
    pure (some ⟨n, anchors⟩)

def decode (bytes : List UInt8) : Except Error (Option Document) := load (.ofBytes bytes)

end SchemaAssist.Yaml
