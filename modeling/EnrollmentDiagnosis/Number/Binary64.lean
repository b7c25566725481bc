set_option autoImplicit false

namespace EnrollmentDiagnosis.Number

/-- A number of the binary64 format; `finite negative m e` stands for `± m * 2 ^ e`. -/
inductive Binary64 where
  | finite (negative : Bool) (mantissa : Nat) (exponent : Int)
  | infinite (negative : Bool)
  | nan
  deriving DecidableEq, Inhabited

/-- The integer nearest to `num / den`; of two equally near ones, the even one. -/
def nearestQuotient (num den : Nat) : Nat :=
  let quotient := num / den
  let rest := num % den
  if 2 * rest < den then quotient
  else if den < 2 * rest then quotient + 1
  else if quotient % 2 = 0 then quotient
  else quotient + 1

/-- A power of two. -/
def twoTo (n : Nat) : Nat := Nat.pow 2 n

/-- A power of ten. -/
def tenTo (n : Nat) : Nat := Nat.pow 10 n

namespace Binary64

/-- The exponent of the smallest positive number. -/
def minExponent : Int := -1074

/-- The largest exponent of a finite number. -/
def maxExponent : Int := 971

/-- The number zero with the given sign. -/
def zero (negative : Bool) : Binary64 := finite negative 0 minExponent

/-- `num / den` as a fraction of `2 ^ exponent`. -/
def scaled (num den : Nat) (exponent : Int) : Nat × Nat :=
  if 0 ≤ exponent then (num, den * twoTo exponent.toNat)
  else (num * twoTo (-exponent).toNat, den)

/-- The exponent at which `num / den` has a mantissa of 53 bits, or the smallest exponent. -/
def exponentOf (num den : Nat) : Int :=
  let guess : Int := (Nat.log2 num : Int) - (Nat.log2 den : Int) - 52
  let (top, bottom) := scaled num den guess
  max minExponent (if top < twoTo 52 * bottom then guess - 1 else guess)

/-- The number nearest to `± num / den`, for a positive `den`. -/
def ofRatio (negative : Bool) (num den : Nat) : Binary64 :=
  if num = 0 then zero negative
  else
    let exponent := exponentOf num den
    let (top, bottom) := scaled num den exponent
    let mantissa := nearestQuotient top bottom
    let (mantissa, exponent) :=
      if mantissa = twoTo 53 then (twoTo 52, exponent + 1) else (mantissa, exponent)
    if maxExponent < exponent then infinite negative else finite negative mantissa exponent

/-- The number nearest to an integer. -/
def ofInt (value : Int) : Binary64 := ofRatio (decide (value < 0)) value.natAbs 1

/-- The number nearest to `± digits * 10 ^ exponent`. Exponents far outside the range are cut off
before the power is formed, which changes no result. -/
def ofDecimal (negative : Bool) (digits : Nat) (exponent : Int) : Binary64 :=
  let length : Int := (Nat.log2 digits / 3 : Nat) + 1
  if digits = 0 then zero negative
  else if exponent < -400 - length then zero negative
  else if 400 < exponent then infinite negative
  else if 0 ≤ exponent then ofRatio negative (digits * tenTo exponent.toNat) 1
  else ofRatio negative digits (tenTo (-exponent).toNat)

/-- The mantissa with its sign, as a multiple of `2 ^ at` for an exponent `at` that is not
larger. -/
def aligned (negative : Bool) (mantissa : Nat) (exponent target : Int) : Int :=
  let size : Int := (mantissa * twoTo (exponent - target).toNat : Nat)
  if negative then -size else size

/-- How two numbers compare; nothing compares with not-a-number, and the two zeros are equal. -/
def order : Binary64 → Binary64 → Option Ordering
  | nan, _ => none
  | _, nan => none
  | infinite a, infinite b => some (compare b.toNat a.toNat)
  | infinite a, finite .. => some (if a then .lt else .gt)
  | finite .., infinite b => some (if b then .gt else .lt)
  | finite a m e, finite b n f =>
    let target := min e f
    some (compare (aligned a m e target) (aligned b n f target))

/-- How a number compares with an integer, without rounding the integer. -/
def orderInt : Binary64 → Int → Option Ordering
  | nan, _ => none
  | infinite a, _ => some (if a then .lt else .gt)
  | finite a m e, n =>
    let target := min e 0
    some (compare (aligned a m e target) (n * twoTo (0 - target).toNat))

/-- True for numbers above the integer. -/
def exceeds (x : Binary64) (n : Int) : Bool := x.orderInt n == some .gt

/-- The number without its sign. -/
def magnitude : Binary64 → Binary64
  | finite _ m e => finite false m e
  | infinite _ => infinite false
  | nan => nan

def isFinite : Binary64 → Bool
  | finite .. => true
  | _ => false

/-- The value without its fraction, none for infinities and not-a-number. -/
def truncate? : Binary64 → Option Int
  | finite negative m e =>
    let size : Nat := if 0 ≤ e then m * twoTo e.toNat else m / twoTo (-e).toNat
    some (if negative then -(size : Int) else size)
  | _ => none

/-- The largest integer that is not above the value, none for infinities and not-a-number. -/
def floor? : Binary64 → Option Int
  | finite negative m e =>
    let size : Int := if negative then -(m : Int) else m
    some (if 0 ≤ e then size * twoTo e.toNat else size.fdiv (twoTo (-e).toNat))
  | _ => none

/-- True for finite numbers without a fraction. -/
def isWhole : Binary64 → Bool
  | finite _ m e => decide (0 ≤ e) || m % twoTo (-e).toNat == 0
  | _ => false

/-- True for the two zeros. -/
def isZero : Binary64 → Bool
  | finite _ m _ => m == 0
  | _ => false

end Binary64

end EnrollmentDiagnosis.Number
