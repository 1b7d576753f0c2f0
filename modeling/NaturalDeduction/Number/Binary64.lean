/-!
# Binary floating-point numbers

Numbers of the 64-bit binary format, decoded: a finite number is a sign, a significand and a power
of two, so that everything asked of it is integer arithmetic. The functions that build one keep the
format's normal form, a significand below `2 ^ 53` and an exponent of at least `-1074`, where the
significand is as large as that allows.

Rounding is to the nearest number of the format, and a tie goes to the even significand. Arithmetic
beyond what reading a numeral needs is not here.
-/

namespace NaturalDeduction

/-- A number of the 64-bit binary format; a finite one is `± significand * 2 ^ exponent`. -/
inductive Binary64
  | nan
  | infinite (negative : Bool)
  | finite (negative : Bool) (significand : Nat) (exponent : Int)
  deriving DecidableEq, Repr

namespace Binary64

/-- The least exponent of the format. -/
def minExponent : Int := -1074

/-- The greatest exponent of the format. -/
def maxExponent : Int := 971

/-- Zero, with either sign. -/
def zero (negative : Bool) : Binary64 := .finite negative 0 minExponent

/-- The quotient `n / d` rounded to the nearest integer, a tie to the even one. -/
def roundQuotient (n d : Nat) : Nat :=
  let q := n / d
  let twice := 2 * (n % d)
  if twice > d || (twice == d && q % 2 == 1) then q + 1 else q

/-- A quotient divided by a power of two, again as a quotient. -/
def dividePow2 (n d : Nat) (e : Int) : Nat × Nat :=
  if 0 ≤ e then (n, d * Nat.pow 2 e.toNat) else (n * Nat.pow 2 (-e).toNat, d)

/-- The exponent at which a positive quotient has a significand of 53 bits. -/
def quotientExponent (n d : Nat) : Int :=
  let e : Int := n.log2 - d.log2 - 52
  let (n', d') := dividePow2 n d e
  if n' / d' < Nat.pow 2 52 then e - 1 else e

/-- The number of the format nearest to `± n / d`. -/
def ofQuotient (negative : Bool) (n d : Nat) : Binary64 :=
  if n = 0 then zero negative
  else
    let e := max (quotientExponent n d) minExponent
    let (n', d') := dividePow2 n d e
    let m := roundQuotient n' d'
    let (m, e) := if m = Nat.pow 2 53 then (Nat.pow 2 52, e + 1) else (m, e)
    if maxExponent < e then .infinite negative else .finite negative m e

/-- The number nearest to `± digits * 10 ^ exponent`. The first two cases settle magnitudes far
outside the format without computing the power. -/
def ofDecimal (negative : Bool) (digits : Nat) (exponent : Int) : Binary64 :=
  let magnitude := (Nat.toDigits 10 digits).length + exponent
  if digits = 0 ∨ magnitude < -400 then zero negative
  else if 400 < magnitude then .infinite negative
  else if 0 ≤ exponent then ofQuotient negative (digits * Nat.pow 10 exponent.toNat) 1
  else ofQuotient negative digits (Nat.pow 10 (-exponent).toNat)

/-- The absolute value of `significand * 2 ^ exponent` as a quotient. -/
def quotient (significand : Nat) (exponent : Int) : Nat × Nat :=
  dividePow2 significand 1 (-exponent)

/-- The rounded sum of two numbers that are not negative. -/
def add : Binary64 → Binary64 → Binary64
  | .finite _ m e, .finite _ m' e' =>
    let (n, d) := quotient m e
    let (n', d') := quotient m' e'
    ofQuotient false (n * d' + n' * d) (d * d')
  | .nan, _ | _, .nan => .nan
  | .infinite _, _ | _, .infinite _ => .infinite false

/-- The rounded product of two numbers that are not negative, of which the second is no zero and
finite. -/
def mul : Binary64 → Binary64 → Binary64
  | .finite _ m e, .finite _ m' e' =>
    let (n, d) := quotient m e
    let (n', d') := quotient m' e'
    ofQuotient false (n * n') (d * d')
  | x, _ => x

/-- The same number with the other sign. -/
def negate : Binary64 → Binary64
  | .nan => .nan
  | .infinite negative => .infinite !negative
  | .finite negative m e => .finite (!negative) m e

/-- Whether the number is a zero, of either sign. -/
def isZero : Binary64 → Bool
  | .finite _ m _ => m == 0
  | _ => false

/-- A finite number with its fraction cut off. -/
def truncate (negative : Bool) (significand : Nat) (exponent : Int) : Int :=
  let (n, d) := quotient significand exponent
  if negative then -(n / d : Nat) else (n / d : Nat)

/-- The integer that a number is exactly equal to, if there is one. -/
def toInteger? : Binary64 → Option Int
  | .finite negative m e =>
    let (n, d) := quotient m e
    if n % d = 0 then some (truncate negative m e) else none
  | _ => none

example : ofDecimal false 25 (-1) = .finite false (5 * Nat.pow 2 50) (-51) := by decide +kernel
example : truncate true 15 (-1) = -7 := by decide

end Binary64

end NaturalDeduction
