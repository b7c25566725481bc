set_option autoImplicit false

namespace EnrollmentDiagnosis.Text

/-- Every `step`-th code point from `first` to `last` maps to itself plus `shift`. -/
structure CaseRun where
  first : Nat
  last : Nat
  step : Nat
  shift : Int

/-- The image of a code point under the first run that holds it; the runs ascend. -/
def CaseRun.image? : List CaseRun → Nat → Option Nat
  | [], _ => none
  | run :: rest, code =>
    if code < run.first then none
    else if code ≤ run.last then
      if (code - run.first) % run.step = 0 then some ((code : Int) + run.shift).toNat
      else none
    else CaseRun.image? rest code

/-- The expansion listed for a code point. -/
def expansion? : List (Nat × List Nat) → Nat → Option (List Nat)
  | [], _ => none
  | (source, target) :: rest, code => if code = source then some target else expansion? rest code

end EnrollmentDiagnosis.Text
