/-
  Text with style tags.

  A tag is a name in square brackets that starts with a small letter, a number sign, an at sign or,
  for a closing tag, a slash.  Backslashes right before a tag stand for half as many, and an odd one
  out makes the tag plain text.  Styles are not drawn: what remains of a text is its characters,
  with emoji codes replaced and some control characters removed.  Closing a style that is not open
  is an error.
-/
import SchemaAssist.Fault
import SchemaAssist.Terminal.Emoji
import SchemaAssist.Terminal.Style

namespace SchemaAssist.Terminal

/-! ### Tags -/

def isTagStart (c : Char) : Bool :=
  (decide ('a' ≤ c) && decide (c ≤ 'z')) || c == '#' || c == '/' || c == '@'

/-- The text up to the first closing bracket, if no opening one stands before it, and the rest. -/
def tagBody : List Char → Option (List Char × List Char)
  | [] => none
  | c :: rest =>
    if c = ']' then some ([], rest)
    else if c = '[' then none
    else (tagBody rest).map fun t => (c :: t.1, t.2)

/-- The tag at the start of a text, without its brackets, and the rest. -/
def tag? : List Char → Option (List Char × List Char)
  | '[' :: c :: rest =>
    if isTagStart c then (tagBody rest).map fun t => (c :: t.1, t.2) else none
  | _ => none

/-- What follows a tag body is shorter than what it was read from. -/
theorem tagBody_length {s body rest : List Char} (h : tagBody s = some (body, rest)) :
    rest.length < s.length := by
  induction s generalizing body rest with
  | nil => simp [tagBody] at h
  | cons c s ih =>
    simp only [tagBody] at h
    split at h
    · simp only [Option.some.injEq, Prod.mk.injEq] at h
      rw [← h.2]
      simp
    · split at h
      · simp at h
      · obtain ⟨⟨b, r⟩, hb, he⟩ := Option.map_eq_some_iff.1 h
        simp only [Prod.mk.injEq] at he
        have := ih hb
        rw [← he.2]
        simp only [List.length_cons]
        omega

/-- What follows a tag is shorter than what it was read from. -/
theorem tag?_length {s body rest : List Char} (h : tag? s = some (body, rest)) :
    rest.length < s.length := by
  unfold tag? at h
  split at h
  · split at h
    · obtain ⟨⟨b, r⟩, hb, he⟩ := Option.map_eq_some_iff.1 h
      simp only [Prod.mk.injEq] at he
      have := tagBody_length hb
      rw [← he.2]
      simp only [List.length_cons]
      omega
    · simp at h
  · simp at h

inductive Piece where
  | text (chars : List Char)
  /-- A tag with its place in the text. -/
  | tag (position : Nat) (body : List Char)
  deriving DecidableEq, Repr

/-- A piece of plain text, unless there is nothing in it. -/
def textPiece (chars : List Char) : List Piece := if chars.isEmpty then [] else [.text chars]

/-- What a tag with backslashes before it comes to. -/
def tagPieces (position slashes : Nat) (body : List Char) : List Piece :=
  textPiece (List.replicate (slashes / 2) '\\') ++
    if slashes % 2 = 1 then [.text ('[' :: body ++ [']'])]
    else [.tag (position + slashes / 2 * 2) body]

def isSlash (c : Char) : Bool := c == '\\'

/-- Cuts a text into pieces.  `before` is the plain text read since the last tag, backwards. -/
def piecesFrom (position : Nat) (before : List Char) : List Char → List Piece
  | [] => textPiece before.reverse
  | c :: rest =>
    let slashes := (c :: rest).takeWhile isSlash
    match _h : tag? ((c :: rest).dropWhile isSlash) with
    | some (body, after) =>
      textPiece before.reverse ++ tagPieces position slashes.length body ++
        piecesFrom (position + slashes.length + body.length + 2) [] after
    | none =>
      if isSlash c then
        piecesFrom (position + slashes.length) (slashes.reverse ++ before) (rest.dropWhile isSlash)
      else piecesFrom (position + 1) (c :: before) rest
termination_by s => s.length
decreasing_by
  · have short := tag?_length _h
    have := (List.dropWhile_suffix (l := c :: rest) isSlash).length_le
    omega
  · have := (List.dropWhile_suffix (l := rest) isSlash).length_le
    simp only [List.length_cons]
    omega
  · simp

def pieces (s : List Char) : List Piece := piecesFrom 0 [] s

/-! ### Rendering -/

/-- Whether a character is removed from text: bell, backspace, vertical tab, form feed, return. -/
def isRemoved (c : Char) : Bool := [0x07, 0x08, 0x0B, 0x0C, 0x0D].contains c.toNat

/-- Writes brackets that were kept from being a tag. -/
def unescapeBrackets : List Char → List Char
  | '\\' :: '[' :: rest => '[' :: unescapeBrackets rest
  | c :: rest => c :: unescapeBrackets rest
  | [] => []

/-- Removes the last opened style of a name, the last one first in the list. -/
def closeStyle (name : String) : List String → Option (List String)
  | [] => none
  | style :: rest => if style = name then some rest else (closeStyle name rest).map (style :: ·)

def tagName (body : List Char) : List Char := body.takeWhile (· != '=')

/-- The styles that are open after a tag. -/
def openAfter (styles : List String) (position : Nat) (body : List Char) :
    Except Fault (List String) :=
  match tagName body with
  | '/' :: closing =>
    let name := Text.trim closing
    if name.isEmpty then
      match styles with
      | [] => .error (.nothingToClose position)
      | _ :: rest => .ok rest
    else match closeStyle (normalStyle name) styles with
      | some rest => .ok rest
      | none => .error (.closingTag (String.ofList ('[' :: body ++ [']'])) position)
  | name => .ok (normalStyle name :: styles)

/-- The characters that pieces come to, given the styles that are open. -/
def renderPieces (styles : List String) : List Piece → Except Fault (List Char)
  | [] => .ok []
  | .text chars :: rest => do
    let more ← renderPieces styles rest
    pure ((replaceEmoji (unescapeBrackets chars)).filter (!isRemoved ·) ++ more)
  | .tag position body :: rest => do
    let styles ← openAfter styles position body
    renderPieces styles rest

def renderMarkup (s : List Char) : Except Fault (List Char) := renderPieces [] (pieces s)

end SchemaAssist.Terminal
