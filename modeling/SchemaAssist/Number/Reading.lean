/-
  Numbers read from text.

  An integer is an optional sign and digits of any script, with single underscores between digits
  and blanks around the whole; a base other than ten may announce itself by `0b`, `0o` or `0x`.
  Decimal literals are limited to 4300 digits.
-/
import SchemaAssist.Fault
import SchemaAssist.Number.Binary64
import SchemaAssist.Text.Blank
import SchemaAssist.Text.Case
import SchemaAssist.Text.Digit

namespace SchemaAssist.Number

/-- Blanks that may surround a number: white space without the ASCII information separators. -/
def isPadding (c : Char) :
    Bool := Text.isBlank c && !(decide (0x1C ≤ c.toNat) && decide (c.toNat ≤ 0x1F))

/-- The value of a digit in bases up to sixteen. -/
def digitValue? (c : Char) : Option Nat :=
  if 'a' ≤ c ∧ c ≤ 'f' then some (c.toNat - 'a'.toNat + 10)
  else if 'A' ≤ c ∧ c ≤ 'F' then some (c.toNat - 'A'.toNat + 10)
  else Text.decimalDigit? c

def baseDigit? (base : Nat) (c : Char) : Option Nat :=
  (digitValue? c).filter (· < base)

/-- A run of digits with single underscores between them. -/
structure DigitRun where
  digits : List Nat
  /-- Whether the run is empty, ends in an underscore or has two in a row. -/
  broken : Bool
  rest : List Char
  deriving DecidableEq, Repr

/-- Reads digits; `afterDigit` says whether an underscore may come next. -/
def scanDigits (base : Nat) (afterDigit : Bool) : List Char → DigitRun
  | [] => ⟨[], !afterDigit, []⟩
  | c :: rest =>
    match baseDigit? base c with
    | some d =>
      let run := scanDigits base true rest
      ⟨d :: run.digits, run.broken, run.rest⟩
    | none =>
      if c = '_' then
        if afterDigit then scanDigits base false rest else ⟨[], true, rest⟩
      else ⟨[], !afterDigit, c :: rest⟩

def ofDigits (base : Nat) (ds : List Nat) : Nat := ds.foldl (fun n d => n * base + d) 0

def baseLetter? : Nat → Option Char
  | 2 => some 'b'
  | 8 => some 'o'
  | 16 => some 'x'
  | _ => none

/-- Drops `0b`, `0o` or `0x`, and one underscore after it, where it announces the base. -/
def dropBase (base : Nat) (s : List Char) : List Char :=
  match s, baseLetter? base with
  | '0' :: c :: rest, some l =>
    if c = l ∨ c = l.toUpper then
      match rest with
      | '_' :: more => more
      | _ => rest
    else s
  | _, _ => s

/-- The most digits a decimal literal may have. -/
def maxDigits : Nat := 4300

/-- Splits off a sign; true is negative. -/
def takeSign : List Char → Bool × List Char
  | '-' :: rest => (true, rest)
  | '+' :: rest => (false, rest)
  | s => (false, s)

/-- Reads an integer in base 2, 8, 10 or 16. -/
def readInteger (base : Nat) (text : List Char) : Except Fault Int :=
  let bad := Except.error (Fault.integerText base (String.ofList text))
  let (negative, body) := takeSign (text.dropWhile isPadding)
  let run := scanDigits base false (dropBase base body)
  if run.broken then bad
  else if base = 10 ∧ maxDigits < run.digits.length then .error (.digitLimit run.digits.length)
  else if run.rest.all isPadding then
    let n : Int := ofDigits base run.digits
    .ok (if negative then -n else n)
  else bad

/-- A decimal literal: its digits and the power of ten they are multiplied by. -/
structure Decimal where
  digits : Nat
  exponent : Int
  deriving DecidableEq, Repr

/-- The longest run of ASCII digits at the front, and the rest. -/
def spanDigits (s : List Char) :
    List Char × List Char := (s.takeWhile Char.isDigit, s.dropWhile Char.isDigit)

def natOfDigits (s : List Char) : Nat := s.foldl (fun n c => n * 10 + (c.toNat - '0'.toNat)) 0

/-- An exponent part `e±dd`, if there is one. -/
def scanExponent (s : List Char) : Int × List Char :=
  match s with
  | c :: rest =>
    if c = 'e' ∨ c = 'E' then
      let (negative, body) := takeSign rest
      let (ds, more) := spanDigits body
      if ds.isEmpty then (0, s)
      else ((if negative then -(natOfDigits ds : Int) else natOfDigits ds), more)
    else (0, s)
  | [] => (0, [])

/-- Reads digits with an optional fraction and exponent, to the end of the text. -/
def readDecimal? (s : List Char) : Option Decimal :=
  let (whole, rest) := spanDigits s
  let (fraction, rest) := match rest with
    | '.' :: more => spanDigits more
    | _ => ([], rest)
  let (power, rest) := scanExponent rest
  if rest.isEmpty && !(whole.isEmpty && fraction.isEmpty) then
    some ⟨natOfDigits (whole ++ fraction), power - fraction.length⟩
  else none

/-- Drops underscores that stand between two digits; any other makes the text unreadable. -/
def dropSeparators (prev : Option Char) : List Char → Option (List Char)
  | [] => some []
  | '_' :: rest =>
    match prev, rest with
    | some p, c :: _ => if p.isDigit && c.isDigit then dropSeparators (some '_') rest else none
    | _, _ => none
  | c :: rest => (dropSeparators (some c) rest).map (c :: ·)

/-- Reads a double: a decimal literal, or a word for infinity or not-a-number. -/
def readFloat (text : List Char) : Except Fault Binary64 :=
  let bad := Except.error (Fault.floatText (String.ofList text))
  let ascii := text.map fun c => ((Text.decimalDigit? c).map Nat.digitChar).getD c
  let trimmed := ((ascii.dropWhile isPadding).reverse.dropWhile isPadding).reverse
  match dropSeparators none trimmed with
  | none => bad
  | some body =>
    let (negative, body) := takeSign body
    let word := String.ofList (Text.lower body)
    if word = "inf" ∨ word = "infinity" then .ok (.infinite negative)
    else if word = "nan" then .ok .nan
    else match readDecimal? body with
      | some d => .ok (Binary64.ofDecimal negative d.digits d.exponent)
      | none => bad

end SchemaAssist.Number
