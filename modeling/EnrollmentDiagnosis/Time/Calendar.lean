set_option autoImplicit false

namespace EnrollmentDiagnosis.Time

structure Date where
  year : Nat
  month : Nat
  day : Nat
  deriving DecidableEq, Inhabited

def isLeapYear (year : Nat) : Bool := year % 4 == 0 && (year % 100 != 0 || year % 400 == 0)

/-- The lengths of the months. -/
def monthLengths (leap : Bool) : List Nat :=
  [31, if leap then 29 else 28, 31, 30, 31, 30, 31, 31, 30, 31, 30, 31]

/-- The number of days of a month, zero for a month that does not exist. -/
def monthLength (leap : Bool) (month : Nat) : Nat :=
  if month = 0 then 0 else (monthLengths leap)[month - 1]?.getD 0

/-- The days of the years before a year. -/
def daysBeforeYear (year : Nat) : Nat :=
  let y := year - 1
  y * 365 + y / 4 - y / 100 + y / 400

/-- The days of a year before a month. -/
def daysBeforeMonth (leap : Bool) (month : Nat) : Nat :=
  ((monthLengths leap).take (month - 1)).foldl (· + ·) 0

/-- The first and the last year of the calendar. -/
def minYear : Nat := 1
def maxYear : Nat := 9999

/-- True for dates that exist, from year 1 to year 9999. -/
def Date.isValid (date : Date) : Bool :=
  decide (minYear ≤ date.year) && decide (date.year ≤ maxYear) &&
  decide (1 ≤ date.month) && decide (date.month ≤ 12) &&
  decide (1 ≤ date.day) && decide (date.day ≤ monthLength (isLeapYear date.year) date.month)

/-- The number of days from the first day of year one to a date. -/
def Date.dayNumber (date : Date) : Nat :=
  daysBeforeYear date.year + daysBeforeMonth (isLeapYear date.year) date.month + (date.day - 1)

/-- The month and day of the `n`-th day of a year, counted from zero, found month by month. -/
def monthAndDay : List Nat → Nat → Nat → Nat × Nat
  | [], month, n => (month, n + 1)
  | length :: rest, month, n =>
    if n < length then (month, n + 1) else monthAndDay rest (month + 1) (n - length)

/-- The year of a day number and the days since that year's start. -/
def yearAndDay (n : Nat) : Nat × Nat :=
  let era := n / 146097
  let inEra := n % 146097
  let century := min (inEra / 36524) 3
  let inCentury := inEra - century * 36524
  let cycle := inCentury / 1461
  let inCycle := inCentury % 1461
  let year := min (inCycle / 365) 3
  (era * 400 + century * 100 + cycle * 4 + year + 1, inCycle - year * 365)

/-- The date with a day number. -/
def Date.ofDayNumber (n : Nat) : Date :=
  let (year, inYear) := yearAndDay n
  let (month, day) := monthAndDay (monthLengths (isLeapYear year)) 1 inYear
  ⟨year, month, day⟩

/-- The number of days from the first day of year one to the last day of year 9999, inclusive. -/
def calendarDays : Nat := 3652059

end EnrollmentDiagnosis.Time
