/-
  Trees drawn with guides.
-/
import SchemaAssist.Terminal.Markup
import SchemaAssist.Terminal.Wrap

namespace SchemaAssist.Terminal

/-- A tree; labels are text with tags. -/
inductive Tree where
  | node (label : String) (children : List Tree)
  deriving Repr

def branchGuide (last : Bool) : List Char := if last then "└── ".toList else "├── ".toList

def passGuide (last : Bool) : List Char := if last then "    ".toList else "│   ".toList

mutual

/-- The lines of a tree: `first` stands before the first line of its label, `next` before all
others. -/
def Tree.lines (first next : List Char) : Tree → Except Fault (List (List Char))
  | .node label children => do
    let text ← renderMarkup label.toList
    let here := match wrap (terminalWidth - first.length) .natural .fold text with
      | [] => []
      | line :: more => (first ++ line) :: more.map (next ++ ·)
    let below ← branchLines next children
    pure (here ++ below)

def branchLines (lead : List Char) : List Tree → Except Fault (List (List Char))
  | [] => pure []
  | t :: rest => do
    let here ← t.lines (lead ++ branchGuide rest.isEmpty) (lead ++ passGuide rest.isEmpty)
    let more ← branchLines lead rest
    pure (here ++ more)

end

def Tree.render (t : Tree) : Except Fault (List Char) := do
  let lines ← t.lines [] []
  pure (lines.flatMap (· ++ ['\n']))

end SchemaAssist.Terminal
