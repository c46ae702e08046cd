/-
  The shortest decimal text of a double.

  The digits are the fewest that read back as the same number, and of those the nearest to it.
  Numbers from 1e-4 up to 1e16 are written positionally, always with a fraction; outside that range
  an exponent of at least two digits follows with its sign.
-/
import SchemaAssist.Number.Binary64

namespace SchemaAssist.Number

namespace Binary64

/-- Significant digits of a number and the place of its decimal point: `0.d₁d₂… · 10 ^ point`. -/
structure Digits where
  digits : Nat
  point : Int
  deriving DecidableEq, Repr

/-- The least `j` with `den ≤ num · 10 ^ j`, searched for at most `fuel` steps. -/
def shiftToOne : Nat → Nat → Nat → Nat → Nat
  | 0, _, _, j => j
  | fuel + 1, num, den, j => if den ≤ num then j else shiftToOne fuel (num * 10) den (j + 1)

/-- Where the decimal point stands before the first significant digit of `num / den`. -/
def pointOf (num den : Nat) : Int :=
  if den ≤ num then digitCount (num / den) else 1 - (shiftToOne 400 num den 0 : Int)

/-- The candidate with `count` digits that reads back as `m · 2 ^ e`, the nearer of two. -/
def candidate? (m : Nat) (e : Int) (count : Nat) (point : Int) : Option Nat :=
  let (num, den) := ratio m e
  let place := point - count
  let n := num * Nat.pow 10 (-place).toNat
  let d := den * Nat.pow 10 place.toNat
  let below := n / d
  let above := below + 1
  let reads (k : Nat) : Bool := ofDecimal false k place == finite false m e
  match reads below, reads above with
  | true, true => some (if roundQuotient below (n % d) d = below then below else above)
  | true, false => some below
  | false, true => some above
  | false, false => none

/-- The first count of digits for which a candidate reads back. -/
def searchDigits (m : Nat) (e : Int) (point : Int) : Nat → Nat → Digits
  | 0, count => ⟨((candidate? m e count point).getD 0), point⟩
  | fuel + 1, count =>
    match candidate? m e count point with
    | some k => if k = Nat.pow 10 count then ⟨1, point + 1⟩ else ⟨k, point⟩
    | none => searchDigits m e point fuel (count + 1)

def shortestDigits (m : Nat) (e : Int) : Digits :=
  let (num, den) := ratio m e
  searchDigits m e (pointOf num den) 17 1

def significant (n : Nat) : List Char :=
  ((Nat.toDigits 10 n).reverse.dropWhile (· == '0')).reverse

def renderPositive (m : Nat) (e : Int) : List Char :=
  let ds := shortestDigits m e
  let text := significant ds.digits
  let size : Int := text.length
  if -4 < ds.point ∧ ds.point ≤ 16 then
    if ds.point ≤ 0 then
      ['0', '.'] ++ List.replicate (-ds.point).toNat '0' ++ text
    else if size ≤ ds.point then
      text ++ List.replicate (ds.point - size).toNat '0' ++ ['.', '0']
    else
      text.take ds.point.toNat ++ '.' :: text.drop ds.point.toNat
  else
    let power := ds.point - 1
    let places := Nat.toDigits 10 power.natAbs
    let places := if places.length < 2 then '0' :: places else places
    let lead := text.take 1
    let rest := text.drop 1
    lead ++ (if rest.isEmpty then [] else '.' :: rest) ++
      ['e', if power < 0 then '-' else '+'] ++ places

def render : Binary64 → List Char
  | nan => ['n', 'a', 'n']
  | infinite negative => (if negative then ['-'] else []) ++ ['i', 'n', 'f']
  | finite negative m e =>
    (if negative then ['-'] else []) ++ (if m = 0 then ['0', '.', '0'] else renderPositive m e)

end Binary64

end SchemaAssist.Number
