import EnrollmentDiagnosis.Number.Shortest

set_option autoImplicit false

namespace EnrollmentDiagnosis.Time

/-- A number of microseconds in seconds. -/
def seconds (microseconds : Int) : Number.Binary64 :=
  .ofRatio (decide (microseconds < 0)) microseconds.natAbs 1000000

/-- A duration in hours, minutes and seconds; leading parts that are zero are left out. -/
structure HoursMinutesSeconds where
  hours : Nat
  minutes : Nat
  seconds : Nat
  deriving DecidableEq

def HoursMinutesSeconds.ofSeconds (total : Nat) : HoursMinutesSeconds :=
  ⟨total / 3600, total % 3600 / 60, total % 60⟩

def HoursMinutesSeconds.text (d : HoursMinutesSeconds) : String :=
  let number (n : Nat) := String.ofList (Number.digitsOf n)
  if d.hours ≠ 0 then
    number d.hours ++ "h " ++ number d.minutes ++ "m " ++ number d.seconds ++ "s"
  else if d.minutes ≠ 0 then number d.minutes ++ "m " ++ number d.seconds ++ "s"
  else number d.seconds ++ "s"

/-- Why a number of seconds has no text. -/
inductive DurationError where
  | infinite
  | notANumber
  deriving DecidableEq

def DurationError.message : DurationError → String
  | .infinite => "cannot convert float infinity to integer"
  | .notANumber => "cannot convert float NaN to integer"

/-- The whole seconds of a duration, none of them if it is negative. -/
def wholeSeconds : Number.Binary64 → Except DurationError Nat
  | .nan => .error .notANumber
  | .infinite negative => if negative then .ok 0 else .error .infinite
  | .finite negative m e =>
    .ok (if negative then 0 else ((Number.Binary64.finite false m e).truncate?.getD 0).toNat)

/-- The text of a number of seconds. -/
def durationText (x : Number.Binary64) : Except DurationError String :=
  (wholeSeconds x).map fun n => (HoursMinutesSeconds.ofSeconds n).text

end EnrollmentDiagnosis.Time
