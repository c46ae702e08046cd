/-
  Editing with completion.

  The cursor stays at the end of the text.  Typing recomputes the menu; moving through the menu puts
  the selected entry into the text, over what it replaces, and moving past the last entry brings the
  typed text back.  A new line copies the leading blanks of the line it ends.
-/
import SchemaAssist.Editor.Menu

namespace SchemaAssist.Editor

inductive Key where
  | char (c : Char)
  /-- A new line; with an entry selected, only its acceptance. -/
  | enter
  | tab
  | backspace
  | accept
  | cancel
  /-- Ends editing without saving, if there is no text. -/
  | endOfInput
  deriving DecidableEq, Repr

/-- Reads the keys that a terminal sends. -/
def Key.decode : List Char → List Key
  | [] => []
  | '\x1b' :: '\r' :: rest => .accept :: decode rest
  | '\x1b' :: '\n' :: rest => .accept :: decode rest
  | c :: rest =>
    let key : Key :=
      if c = '\r' ∨ c = '\n' then .enter
      else if c = '\t' then .tab
      else if c = '\x7f' ∨ c = '\x08' then .backspace
      else if c = '\x03' then .cancel
      else if c = '\x04' then .endOfInput
      else .char c
    key :: decode rest

structure Menu where
  /-- The text without any entry of the menu. -/
  typed : List Char
  choices : List Choice
  selected : Option Nat
  deriving Repr

/-- The text that a menu shows. -/
def Menu.text (m : Menu) : List Char :=
  match m.selected.bind (m.choices[·]?) with
  | some c => m.typed.take (m.typed.length - c.replaced) ++ c.text
  | none => m.typed

def Menu.next (m : Menu) : Menu :=
  let following : Option Nat := match m.selected with
    | none => some 0
    | some n => if n + 1 < m.choices.length then some (n + 1) else none
  { m with selected := following }

/-- Whether an entry would leave a text as it is. -/
def Choice.isIdle (c : Choice) (typed : List Char) : Bool :=
  typed.drop (typed.length - c.replaced) == c.text

/-- Whether what an entry replaces is also what it starts with. -/
def Choice.continues (c : Choice) (typed : List Char) : Bool :=
  (c.text.take c.replaced).isSuffixOf typed

/-- What an entry adds to the text it replaces. -/
def Choice.addition (c : Choice) : List Char := c.text.drop c.replaced

def commonStart : List Char → List Char → List Char
  | a :: as, b :: bs => if a = b then a :: commonStart as bs else []
  | _, _ => []

/-- What all entries would add to a text alike. -/
def commonAddition (cs : List Choice) (typed : List Char) : List Char :=
  match cs with
  | [] => []
  | c :: rest =>
    if cs.all (·.continues typed) then
      rest.foldl (fun acc d => commonStart acc d.addition) c.addition
    else []

structure Buffer where
  session : Session
  text : List Char
  menu : Option Menu
  deriving Repr

namespace Buffer

def start (s : Session) (text : List Char) : Buffer := ⟨s, text, none⟩

/-- The entries worth showing for the current text: a single one that would change nothing is none.
-/
def offers (b : Buffer) (requested : Bool) : List Choice × Session :=
  match choices b.session b.text b.text.length requested with
  | (.ok [c], s) => (if c.isIdle b.text then [] else [c], s)
  | (.ok cs, s) => (cs, s)
  | (.error _, s) => ([], s)

def refresh (b : Buffer) : Buffer :=
  let (cs, s) := b.offers false
  { b with session := s, menu := if cs.isEmpty then none else some ⟨b.text, cs, none⟩ }

def insert (b : Buffer) (added : List Char) :
    Buffer := refresh { b with text := b.text ++ added, menu := none }

def display (b : Buffer) (m : Menu) : Buffer := { b with text := m.text, menu := some m }

/-- Completion by hand: what all entries agree on is inserted; an only entry that cannot be inserted
that way is selected. -/
def request (b : Buffer) : Buffer :=
  let (cs, s) := b.offers true
  let b := { b with session := s }
  let common := commonAddition cs b.text
  match cs with
  | [] => b
  | [c] => if common.isEmpty then b.display ⟨b.text, [c], some 0⟩ else b.insert common
  | cs =>
    let text := b.text ++ common
    b.display ⟨text, cs.map fun c => { c with replaced := c.replaced + common.length }, none⟩

def selection? (b : Buffer) : Option (Menu × Choice) := do
  let m ← b.menu
  let n ← m.selected
  let c ← m.choices[n]?
  pure (m, c)

/-- Ends the line, or accepts the selected entry. -/
def enter (b : Buffer) : Buffer :=
  match b.selection? with
  | some (m, c) =>
    insert { b with text := m.typed.take (m.typed.length - c.replaced), menu := none } c.text
  | none => b.insert ('\n' :: (lastLine b.text).takeWhile Text.isBlank)

def tab (b : Buffer) : Buffer :=
  match b.menu with
  | some m => b.display m.next
  | none => b.request

def backspace (b : Buffer) : Buffer :=
  if b.text.isEmpty then b else { b with text := b.text.dropLast, menu := none }

end Buffer

inductive Ending where
  | saved (text : List Char)
  | cancelled
  deriving DecidableEq, Repr

/-- Handles keys until one of them ends editing; running out of keys cancels. -/
def edit (b : Buffer) : List Key → Ending × Session
  | [] => (.cancelled, b.session)
  | key :: rest =>
    match key with
    | .char c => edit (b.insert [c]) rest
    | .enter => edit b.enter rest
    | .tab => edit b.tab rest
    | .backspace => edit b.backspace rest
    | .accept => (.saved b.text, b.session)
    | .cancel => (.cancelled, b.session)
    | .endOfInput => if b.text.isEmpty then (.cancelled, b.session) else edit b rest

end SchemaAssist.Editor
