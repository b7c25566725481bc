import EnrollmentDiagnosis.Number.Binary64

set_option autoImplicit false

namespace EnrollmentDiagnosis.Number.Binary64

/-- The number nearest to `± n * 2 ^ e`. -/
def ofScaled (negative : Bool) (n : Nat) (e : Int) : Binary64 :=
  if 0 ≤ e then ofRatio negative (n * twoTo e.toNat) 1 else ofRatio negative n (twoTo (-e).toNat)

/-- The sum; infinities of opposite signs have none. -/
def plus : Binary64 → Binary64 → Binary64
  | nan, _ => nan
  | _, nan => nan
  | infinite a, infinite b => if a = b then infinite a else nan
  | infinite a, finite .. => infinite a
  | finite .., infinite b => infinite b
  | finite a m e, finite b n f =>
    let target := min e f
    let total := aligned a m e target + aligned b n f target
    if total = 0 then zero (a && b) else ofScaled (decide (total < 0)) total.natAbs target

/-- The product; an infinity has none with zero. -/
def times : Binary64 → Binary64 → Binary64
  | nan, _ => nan
  | _, nan => nan
  | infinite a, infinite b => infinite (a != b)
  | infinite a, finite b n _ => if n = 0 then nan else infinite (a != b)
  | finite a m _, infinite b => if m = 0 then nan else infinite (a != b)
  | finite a m e, finite b n f => ofScaled (a != b) (m * n) (e + f)

/-- The number with the opposite sign. -/
def negated : Binary64 → Binary64
  | nan => nan
  | infinite a => infinite (!a)
  | finite a m e => finite (!a) m e

end EnrollmentDiagnosis.Number.Binary64
