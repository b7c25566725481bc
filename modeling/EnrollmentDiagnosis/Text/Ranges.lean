set_option autoImplicit false

namespace EnrollmentDiagnosis.Text

/-- True when one of the ranges holds the code point; the ranges ascend, so the search stops
early. -/
def inRanges : List (Nat × Nat) → Nat → Bool
  | [], _ => false
  | (first, last) :: rest, code =>
    if code < first then false
    else if code ≤ last then true
    else inRanges rest code

end EnrollmentDiagnosis.Text
