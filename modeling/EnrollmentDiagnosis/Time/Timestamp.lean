import EnrollmentDiagnosis.Number.Shortest
import EnrollmentDiagnosis.Time.Calendar

set_option autoImplicit false

namespace EnrollmentDiagnosis.Time

def microsecondsPerSecond : Int := 1000000
def microsecondsPerDay : Int := 86400 * 1000000

/-- The microseconds from the first day of year one to the start of 1970. -/
def epochOffset : Int := 719162 * microsecondsPerDay

/-- A point in time, as microseconds of universal time since the start of year one. -/
structure Instant where
  microseconds : Int
  deriving DecidableEq, Inhabited

instance : LE Instant := ⟨fun a b => a.microseconds ≤ b.microseconds⟩
instance : LT Instant := ⟨fun a b => a.microseconds < b.microseconds⟩
instance (a b : Instant) : Decidable (a ≤ b) :=
  inferInstanceAs (Decidable (a.microseconds ≤ b.microseconds))
instance (a b : Instant) : Decidable (a < b) :=
  inferInstanceAs (Decidable (a.microseconds < b.microseconds))

/-- The microseconds from one instant to another. -/
def Instant.since (later earlier : Instant) : Int := later.microseconds - earlier.microseconds

/-- True for instants from year 1 to year 9999. -/
def Instant.inCalendar (t : Instant) : Bool :=
  decide (0 ≤ t.microseconds) && decide (t.microseconds < calendarDays * microsecondsPerDay)

/-- A wall clock reading as microseconds since the start of year one, and the seconds by which
that clock is ahead of universal time where this is known. -/
structure Timestamp where
  wall : Int
  offset : Option Int
  deriving DecidableEq, Inhabited

/-- A wall clock reading from its parts. -/
def wallClock (date : Date) (hour minute second microsecond : Nat) : Int :=
  (date.dayNumber : Int) * microsecondsPerDay +
    ((hour * 3600 + minute * 60 + second : Nat) : Int) * microsecondsPerSecond + microsecond

/-- The instant of a reading; a clock without an offset shows universal time. None when the
instant leaves the calendar. -/
def Timestamp.instant? (t : Timestamp) : Option Instant :=
  let shifted : Instant := ⟨t.wall - t.offset.getD 0 * microsecondsPerSecond⟩
  if shifted.inCalendar then some shifted else none

/-- The reading of a clock that shows universal time. -/
def Instant.timestamp (t : Instant) : Timestamp := ⟨t.microseconds, some 0⟩

/-- The parts of a wall clock reading. -/
structure ClockParts where
  date : Date
  hour : Nat
  minute : Nat
  second : Nat
  microsecond : Nat
  deriving DecidableEq

def Timestamp.parts (t : Timestamp) : ClockParts :=
  let day := (t.wall / microsecondsPerDay).toNat
  let inDay := (t.wall % microsecondsPerDay).toNat
  let seconds := inDay / 1000000
  ⟨Date.ofDayNumber day, seconds / 3600, seconds / 60 % 60, seconds % 60, inDay % 1000000⟩

/-- A number in decimal digits, with leading zeros up to the width. -/
def paddedNumber (width n : Nat) : List Char := Number.padded width (Number.digitsOf n)

/-- A date as `YYYY-MM-DD`. -/
def Date.isoChars (date : Date) : List Char :=
  paddedNumber 4 date.year ++ '-' :: paddedNumber 2 date.month ++ '-' :: paddedNumber 2 date.day

def Date.isoText (date : Date) : String := String.ofList date.isoChars

/-- An offset as `+HH:MM`. -/
def offsetChars (offset : Int) : List Char :=
  let minutes := offset.natAbs / 60
  (if offset < 0 then '-' else '+') :: paddedNumber 2 (minutes / 60) ++
    ':' :: paddedNumber 2 (minutes % 60)

/-- A reading as date, separator and time, where a fraction of six digits and the offset are
written only if there are any. -/
def Timestamp.isoChars (separator : Char) (t : Timestamp) : List Char :=
  let p := t.parts
  p.date.isoChars ++ separator :: paddedNumber 2 p.hour ++ ':' :: paddedNumber 2 p.minute ++
    ':' :: paddedNumber 2 p.second ++
    (if p.microsecond = 0 then [] else '.' :: paddedNumber 6 p.microsecond) ++
    (match t.offset with
      | none => []
      | some offset => offsetChars offset)

def Timestamp.isoText (t : Timestamp) : String := String.ofList (t.isoChars 'T')

/-- The text of a reading in which a space separates date and time. -/
def Timestamp.spacedText (t : Timestamp) : String := String.ofList (t.isoChars ' ')

def Instant.isoText (t : Instant) : String := t.timestamp.isoText

end EnrollmentDiagnosis.Time
