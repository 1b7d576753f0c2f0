import NaturalDeduction.Number.Binary64

/-!
# The shortest numeral of a floating-point number

A finite number stands for every real that rounds to it: an interval around its value that reaches
half way to both neighbours, ends included exactly when the significand is even. Its shortest
numeral has the fewest digits that name a real of that interval, and of two such numerals it is the
one nearer to the value.

For a given number of digits only the two decimals next to the value can be nearest, one on either
side, so seventeen grids of two points each are all that has to be tried.

`Binary64.written` lays the digits out: positional from `0.0001` up to below ten to the sixteenth,
always with a point, and with an exponent of at least two digits otherwise.
-/

namespace NaturalDeduction.Binary64

/-- The interval of a positive number `m * 2 ^ e`, measured in quarters of `2 ^ e`: its lower end,
its value and its upper end. Below a power of two the neighbours are twice as close. -/
def quarters (m : Nat) (e : Int) : Nat × Nat × Nat :=
  (if m = Nat.pow 2 52 ∧ minExponent < e then 4 * m - 1 else 4 * m - 2, 4 * m, 4 * m + 2)

/-- A power of ten with an exponent of either sign, as a quotient. -/
def powerOfTen (k : Int) : Nat × Nat :=
  if 0 ≤ k then (Nat.pow 10 k.toNat, 1) else (1, Nat.pow 10 (-k).toNat)

/-- The greatest `p` with `10 ^ p ≤ n / d`, for a positive quotient. -/
def decimalMagnitude (n d : Nat) : Int :=
  let reaches (p : Int) : Bool := let (a, b) := powerOfTen p; a * d ≤ n * b
  let estimate : Int := ((n.log2 : Int) - d.log2) * 30103 / 100000
  if reaches (estimate + 1) then estimate + 1
  else if reaches estimate then estimate
  else estimate - 1

/-- The digits of the decimal of this grid that rounds to `m * 2 ^ e`, if one does: the nearer of
the value's two neighbours among the multiples of `10 ^ k`, the even one on a tie. -/
def nearestOnGrid? (m : Nat) (e k : Int) : Option Nat :=
  let (low, value, high) := quarters m e
  let (u, w) := dividePow2 1 4 (-e)
  let (a, b) := powerOfTen k
  -- `c * 10 ^ k` and `q * 2 ^ e / 4`, brought to one denominator
  let point (c : Nat) : Nat := c * a * w
  let real (q : Nat) : Nat := q * u * b
  let inside (c : Nat) : Bool :=
    if m % 2 = 0 then real low ≤ point c && point c ≤ real high
    else real low < point c && point c < real high
  let below := real value / (a * w)
  let above := below + 1
  match inside below && below != 0, inside above with
  | true, true =>
    let toBelow := real value - point below
    let toAbove := point above - real value
    if toBelow < toAbove || (toBelow == toAbove && below % 2 == 0) then some below else some above
  | true, false => some below
  | false, true => some above
  | false, false => none

/-- The shortest numeral of `m * 2 ^ e`, for a positive significand, as digits `d` and an exponent
`k`: the value is near `d * 10 ^ k`. -/
def shortest (m : Nat) (e : Int) : Nat × Int :=
  let (n, d) := quotient m e
  let p := decimalMagnitude n d
  let found := (List.range 17).findSome? fun (i : Nat) =>
    (nearestOnGrid? m e (p - i)).map fun c => (c, p - i)
  found.getD (m, e)

/-- The digits without the zeros at their end, and the exponent that makes up for them. -/
def dropZeros (digits : List Char) (k : Int) : List Char × Int :=
  let zeros := (digits.reverse.takeWhile (· == '0')).length
  (digits.take (digits.length - zeros), k + zeros)

/-- The decimal exponent of a numeral in scientific form: a sign and at least two digits. -/
def writtenExponent (p : Int) : List Char :=
  let digits := Nat.toDigits 10 p.natAbs
  (if p < 0 then '-' else '+') :: (if digits.length < 2 then '0' :: digits else digits)

/-- Digits `d₁ d₂ …` laid out as the number `d₁.d₂… * 10 ^ p`. -/
def layOut (digits : List Char) (p : Int) : List Char :=
  if -4 ≤ p ∧ p < 16 then
    if p < 0 then '0' :: '.' :: List.replicate (-p - 1).toNat '0' ++ digits
    else
      let whole := p.toNat + 1
      let padded := digits ++ List.replicate (whole - digits.length) '0'
      let fraction := padded.drop whole
      padded.take whole ++ '.' :: (if fraction.isEmpty then ['0'] else fraction)
  else
    let rest := digits.drop 1
    digits.take 1 ++ (if rest.isEmpty then [] else '.' :: rest) ++ 'e' :: writtenExponent p

/-- A floating-point number in writing. -/
def written : Binary64 → String
  | .nan => "nan"
  | .infinite negative => if negative then "-inf" else "inf"
  | .finite negative m e =>
    let body :=
      if m = 0 then ['0', '.', '0']
      else
        let (d, k) := shortest m e
        let (digits, k) := dropZeros (Nat.toDigits 10 d) k
        layOut digits (k + digits.length - 1)
    String.ofList (if negative then '-' :: body else body)

end NaturalDeduction.Binary64
