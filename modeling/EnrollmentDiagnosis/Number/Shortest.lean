import EnrollmentDiagnosis.Number.Binary64

set_option autoImplicit false

namespace EnrollmentDiagnosis.Number

/-- Digits `d₁d₂…` that stand for `0.d₁d₂… * 10 ^ point`. -/
structure DecimalDigits where
  digits : List Char
  point : Int
  deriving DecidableEq

/-- How decimal digits are written out. -/
structure DecimalLayout where
  /-- The smallest decimal exponent that is written positionally. -/
  positionalFrom : Int
  /-- The smallest decimal exponent above that range. -/
  positionalBelow : Int
  /-- The fewest digits of a written exponent. -/
  exponentDigits : Nat

/-- Positional from `1e-4` to below `1e16`, otherwise an exponent of at least two digits. -/
def plainLayout : DecimalLayout := ⟨-4, 16, 2⟩

/-- The decimal digits of a natural number. -/
def digitsOf (n : Nat) : List Char := Nat.toDigits 10 n

/-- Left-pads digits with zeros. -/
def padded (width : Nat) (digits : List Char) : List Char :=
  List.replicate (width - digits.length) '0' ++ digits

/-- The reals that round to `m * 2 ^ e`, as integer ends over a common power of two:
`(low, value, high, exponent)`. -/
def roundingInterval (m : Nat) (e : Int) : Nat × Nat × Nat × Int :=
  let lower := if m = twoTo 52 ∧ Binary64.minExponent < e then 4 * m - 1 else 4 * m - 2
  (lower, 4 * m, 4 * m + 2, e - 2)

/-- `n * 2 ^ e * 10 ^ k` as a fraction. -/
def scaledFraction (n : Nat) (e k : Int) : Nat × Nat :=
  (n * twoTo e.toNat * tenTo k.toNat, twoTo (-e).toNat * tenTo (-k).toNat)

/-- The exponent `p` with `10 ^ (p - 1) ≤ m * 2 ^ e < 10 ^ p`. -/
def decimalPoint (m : Nat) (e : Int) : Int :=
  let (top, bottom) := scaledFraction m e 0
  if bottom ≤ top then (digitsOf (top / bottom)).length
  else 1 - ((digitsOf (bottom / top)).length : Int)

/-- The multiple of `10 ^ (point - count)` nearest to `m * 2 ^ e` among its two neighbours on that
grid that round to it, if there is one. -/
def gridHit (m : Nat) (e : Int) (point : Int) (count : Nat) : Option Nat :=
  let (low, mid, high, exponent) := roundingInterval m e
  let shift := (count : Int) - point
  let (lowTop, bottom) := scaledFraction low exponent shift
  let (midTop, _) := scaledFraction mid exponent shift
  let (highTop, _) := scaledFraction high exponent shift
  let inside (candidate : Nat) : Bool :=
    if m % 2 = 0 then decide (lowTop ≤ candidate * bottom) && decide (candidate * bottom ≤ highTop)
    else decide (lowTop < candidate * bottom) && decide (candidate * bottom < highTop)
  let below := midTop / bottom
  let above := below + 1
  let fromBelow := midTop - below * bottom
  let fromAbove := above * bottom - midTop
  match inside below, inside above with
  | true, true =>
    if fromBelow < fromAbove then some below
    else if fromAbove < fromBelow then some above
    else some (if below % 2 = 0 then below else above)
  | true, false => some below
  | false, true => some above
  | false, false => none

/-- The first grid hit for one digit, two digits and so on. -/
def shortestHit (m : Nat) (e : Int) (point : Int) : Nat → Nat → Nat × Nat
  | count, 0 => ((gridHit m e point count).getD 0, count)
  | count, more + 1 =>
    match gridHit m e point count with
    | some hit => (hit, count)
    | none => shortestHit m e point (count + 1) more

/-- The fewest digits that read back as `m * 2 ^ e`, and of those the nearest. -/
def shortestDigits (m : Nat) (e : Int) : DecimalDigits :=
  if m = 0 then ⟨['0'], 1⟩
  else
    let point := decimalPoint m e
    let (hit, count) := shortestHit m e point 1 16
    let digits := digitsOf hit
    let trimmed := (digits.reverse.dropWhile (· == '0')).reverse
    ⟨trimmed, point + (digits.length : Int) - (count : Int)⟩

/-- Digits with a point after `point` of them, and at least one digit on either side. -/
def positional (d : DecimalDigits) : List Char :=
  if d.point ≤ 0 then
    '0' :: '.' :: List.replicate (-d.point).toNat '0' ++ d.digits
  else
    let whole := d.point.toNat
    if d.digits.length ≤ whole then
      d.digits ++ List.replicate (whole - d.digits.length) '0' ++ ['.', '0']
    else d.digits.take whole ++ '.' :: d.digits.drop whole

/-- One digit before the point and an exponent with its sign. -/
def scientific (layout : DecimalLayout) (d : DecimalDigits) : List Char :=
  let exponent := d.point - 1
  let mantissa := match d.digits with
    | [] => []
    | [c] => [c]
    | c :: rest => c :: '.' :: rest
  mantissa ++ 'e' :: (if exponent < 0 then '-' else '+') ::
    padded layout.exponentDigits (digitsOf exponent.natAbs)

/-- Digits in the notation that the layout chooses for their size. -/
def DecimalLayout.write (layout : DecimalLayout) (d : DecimalDigits) : List Char :=
  let exponent := d.point - 1
  if layout.positionalFrom ≤ exponent ∧ exponent < layout.positionalBelow then positional d
  else scientific layout d

/-- The text of a number, such as `0.1`, `500.0`, `1e-05`, `inf` or `nan`. -/
def Binary64.text : Binary64 → String
  | .nan => "nan"
  | .infinite negative => if negative then "-inf" else "inf"
  | .finite negative m e =>
    let body := plainLayout.write (shortestDigits m e)
    String.ofList (if negative then '-' :: body else body)

end EnrollmentDiagnosis.Number
