/-
  Full Unicode case mapping of text.

  A character lowers on its own, with two exceptions: the dotted capital I lowers to two
  characters, and a capital sigma lowers to the final form at the end of a word.  "End of a word"
  looks past marks and modifiers on both sides: some letter with case stands before, and none after.
-/
import SchemaAssist.Text.CaseTable

namespace SchemaAssist.Text

/-- The single-character image of `c` under a list of case runs. -/
def mapCase (runs : List CaseRun) (c : Char) : Char :=
  match runs.find? (·.covers c.toNat) with
  | some r => Char.ofNat (Int.toNat (c.toNat + r.shift))
  | none => c

/-- Whether the nearest character that is not passed over is a letter with case. -/
def casedAhead (s : List Char) : Bool :=
  match s.dropWhile (fun c => caseIgnorableRanges.contains c.toNat) with
  | [] => false
  | c :: _ => casedRanges.contains c.toNat

/-- The lowercase of `c`, with what stands before it (nearest first) and after it. -/
def lowerAt (before : List Char) (c : Char) (after : List Char) : List Char :=
  if c.toNat < 0x80 then [if 'A' ≤ c ∧ c ≤ 'Z' then Char.ofNat (c.toNat + 32) else c]
  else if c = 'Σ' then [if casedAhead before && !casedAhead after then 'ς' else 'σ']
  else if c = 'İ' then ['i', '\u0307']
  else [mapCase lowerRuns c]

/-- Lowercase of a text that follows `before`, whose characters are given nearest first. -/
def lowerFrom (before : List Char) : List Char → List Char
  | [] => []
  | c :: rest => lowerAt before c rest ++ lowerFrom (c :: before) rest

def lower (s : List Char) : List Char := lowerFrom [] s

def upperChar (c : Char) : List Char :=
  if c.toNat < 0x80 then [if 'a' ≤ c ∧ c ≤ 'z' then Char.ofNat (c.toNat - 32) else c]
  else match upperExpansions.find? (·.1 == c.toNat) with
    | some (_, s) => s.toList
    | none => [mapCase upperRuns c]

def upper (s : List Char) : List Char := s.flatMap upperChar

end SchemaAssist.Text
