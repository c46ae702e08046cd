/-
  Double-precision numbers on exact integers.

  A finite number is a sign, a mantissa and a power of two, so that rounding, truncation and
  printing are integer arithmetic.  Canonical form: the mantissa is below 2^53 and the exponent at
  least -1074, and the mantissa is at least 2^52 unless the exponent is -1074.
-/
namespace SchemaAssist.Number

inductive Binary64 where
  | nan
  | infinite (negative : Bool)
  /-- The number `± mantissa · 2 ^ exponent`. -/
  | finite (negative : Bool) (mantissa : Nat) (exponent : Int)
  deriving DecidableEq, Repr, Inhabited

namespace Binary64

def minExponent : Int := -1074

def maxExponent : Int := 971

def zero (negative : Bool) : Binary64 := finite negative 0 minExponent

/-- Quotient and remainder of `num / den` over `2 ^ e`, with the divisor used. -/
def scaled (num den : Nat) (e : Int) : Nat × Nat × Nat :=
  let n := num * Nat.pow 2 (-e).toNat
  let d := den * Nat.pow 2 e.toNat
  (n / d, n % d, d)

/-- Half a unit or more goes up, an exact half only to an even result. -/
def roundQuotient (q r d : Nat) : Nat :=
  if d < 2 * r then q + 1 else if 2 * r = d ∧ q % 2 = 1 then q + 1 else q

/-- The exponent that gives the quotient 53 significant bits, kept within range. -/
def fitExponent (num den : Nat) : Int :=
  let e : Int := (num.log2 : Int) - (den.log2 : Int) - 53
  let e := if Nat.pow 2 53 ≤ (scaled num den e).1 then e + 1 else e
  max e minExponent

/-- The double nearest to `num / den`; a tie goes to the even mantissa. -/
def ofRatio (negative : Bool) (num den : Nat) : Binary64 :=
  if num = 0 ∨ den = 0 then zero negative
  else
    let e := fitExponent num den
    let (q, r, d) := scaled num den e
    let m := roundQuotient q r d
    let (m, e) := if m = Nat.pow 2 53 then (Nat.pow 2 52, e + 1) else (m, e)
    if maxExponent < e then infinite negative
    else if m = 0 then zero negative
    else finite negative m e

/-- How many decimal digits a number has; none for zero. -/
def digitCount (n : Nat) : Nat := if n = 0 then 0 else (Nat.toDigits 10 n).length

/-- The double nearest to `digits · 10 ^ exponent`. -/
def ofDecimal (negative : Bool) (digits : Nat) (exponent : Int) : Binary64 :=
  let size : Int := (digitCount digits : Int) + exponent
  if digits = 0 then zero negative
  else if 310 < size then infinite negative
  else if size < -330 then zero negative
  else ofRatio negative (digits * Nat.pow 10 exponent.toNat) (Nat.pow 10 (-exponent).toNat)

/-- The exact value of a finite number as a quotient of naturals, without its sign. -/
def ratio (mantissa : Nat) (exponent : Int) : Nat × Nat :=
  (mantissa * Nat.pow 2 exponent.toNat, Nat.pow 2 (-exponent).toNat)

def truncate? : Binary64 → Option Int
  | finite negative m e =>
    let (n, d) := ratio m e
    some (if negative then -((n / d : Nat) : Int) else ((n / d : Nat) : Int))
  | _ => none

def negate : Binary64 → Binary64
  | nan => nan
  | infinite negative => infinite (!negative)
  | finite negative m e => finite (!negative) m e

/-- Numerical equality: zeros of either sign agree, and `nan` equals nothing. -/
def same : Binary64 → Binary64 → Bool
  | infinite a, infinite b => a == b
  | finite a m e, finite b n f => m == n && ((m == 0) || (a == b && e == f))
  | _, _ => false

def ratio? : Binary64 → Option (Int × Nat)
  | finite negative m e =>
    let (n, d) := ratio m e
    some (if negative then -(n : Int) else n, d)
  | _ => none

/-- Product, rounded once. -/
def mul (x y : Binary64) : Binary64 :=
  match x, y with
  | nan, _ | _, nan => nan
  | infinite a, infinite b => infinite (a != b)
  | infinite a, finite b m _ | finite b m _, infinite a => if m = 0 then nan else infinite (a != b)
  | finite a m e, finite b n f =>
    let (p, q) := ratio m e
    let (r, s) := ratio n f
    ofRatio (a != b) (p * r) (q * s)

/-- Sum, rounded once; an exact zero is negative only if both terms are. -/
def add (x y : Binary64) : Binary64 :=
  match x, y with
  | nan, _ | _, nan => nan
  | infinite a, infinite b => if a == b then infinite a else nan
  | infinite a, _ | _, infinite a => infinite a
  | finite a m e, finite b n f =>
    let (p, q) := ratio m e
    let (r, s) := ratio n f
    let u : Int := if a then -((p * s : Nat) : Int) else ((p * s : Nat) : Int)
    let v : Int := if b then -((r * q : Nat) : Int) else ((r * q : Nat) : Int)
    let sum := u + v
    if sum = 0 then zero (a && b) else ofRatio (decide (sum < 0)) sum.natAbs (q * s)

end Binary64

end SchemaAssist.Number
