import EnrollmentDiagnosis.Number.Binary64
import EnrollmentDiagnosis.Text.Digit
import EnrollmentDiagnosis.Time.Timestamp

set_option autoImplicit false

namespace EnrollmentDiagnosis.Time

/-- A number of exactly `count` ASCII digits, and what follows it. -/
def fixedNumber? : Nat → List Char → Option (Nat × List Char)
  | count, s =>
    let digits := (s.take count).filterMap Text.asciiDigit?
    if digits.length = count then some (Text.digitsValue digits, s.drop count) else none

/-- Drops one expected character. -/
def expect? (c : Char) : List Char → Option (List Char)
  | d :: rest => if d = c then some rest else none
  | [] => none

/-- A date `YYYY-MM-DD` that exists, and what follows it. -/
def date? (s : List Char) : Option (Date × List Char) := do
  let (year, s) ← fixedNumber? 4 s
  let s ← expect? '-' s
  let (month, s) ← fixedNumber? 2 s
  let s ← expect? '-' s
  let (day, s) ← fixedNumber? 2 s
  let date : Date := ⟨year, month, day⟩
  if date.isValid then some (date, s) else none

/-- Digits after a point or a comma as microseconds; digits beyond the sixth are cut off. -/
def fraction? : List Char → Option (Nat × List Char)
  | '.' :: s | ',' :: s =>
    let digits := (s.takeWhile Char.isDigit).filterMap Text.asciiDigit?
    if digits.isEmpty then none
    else
      let six := digits.take 6
      some (Text.digitsValue six * Number.tenTo (6 - six.length), s.dropWhile Char.isDigit)
  | s => some (0, s)

/-- The seconds with their fraction, none of which need be written. -/
def seconds? : List Char → Option (Nat × Nat × List Char)
  | ':' :: s => do
    let (second, s) ← fixedNumber? 2 s
    let (microsecond, s) ← fraction? s
    some (second, microsecond, s)
  | s => some (0, 0, s)

/-- The offset at the end of a timestamp: none, `Z`, `±HH:MM` or `±HHMM`, within a day. -/
def offset? : List Char → Option (Option Int)
  | [] => some none
  | ['Z'] | ['z'] => some (some 0)
  | sign :: s => do
    let negative ←
      if sign = '+' then some false else if sign = '-' ∨ sign = '−' then some true else none
    let (hours, s) ← fixedNumber? 2 s
    let s := (expect? ':' s).getD s
    let (minutes, s) ← fixedNumber? 2 s
    if s.isEmpty && decide (minutes < 60) && decide (hours < 24) then
      let size : Int := ((hours * 60 + minutes) * 60 : Nat)
      some (some (if negative then -size else size))
    else none

/-- A timestamp in ISO 8601 text; a date alone is its midnight. -/
def isoTimestamp? (s : List Char) : Option Timestamp := do
  let (date, s) ← date? s
  match s with
  | [] => some ⟨wallClock date 0 0 0 0, none⟩
  | separator :: s =>
    if ['T', 't', ' ', '_'].contains separator then
      let (hour, s) ← fixedNumber? 2 s
      let s ← expect? ':' s
      let (minute, s) ← fixedNumber? 2 s
      let (second, microsecond, s) ← seconds? s
      let offset ← offset? s
      if hour < 24 ∧ minute < 60 ∧ second < 60 then
        some ⟨wallClock date hour minute second microsecond, offset⟩
      else none
    else none

/-- Numbers of a larger size count milliseconds and not seconds. -/
def millisecondWatershed : Int := 20000000000

/-- The reading of universal time at a number of seconds or milliseconds since 1970, and some
microseconds later. -/
def epochTimestamp? (count : Int) (microseconds : Nat) : Option Timestamp :=
  let unit : Int :=
    if count.natAbs ≤ millisecondWatershed.natAbs then microsecondsPerSecond else 1000
  let instant : Instant := ⟨epochOffset + count * unit + microseconds⟩
  if instant.inCalendar then some instant.timestamp else none

/-- The fraction of a number in millionths, where a half is rounded up. -/
def fractionMicroseconds : Number.Binary64 → Nat
  | .finite _ m e =>
    if 0 ≤ e then 0
    else
      let unit := Number.twoTo (-e).toNat
      match Number.Binary64.ofRatio false (m % unit * 1000000) unit with
      | .finite _ n f =>
        if 0 ≤ f then n * Number.twoTo f.toNat
        else (2 * n + Number.twoTo (-f).toNat) / Number.twoTo ((-f).toNat + 1)
      | _ => 0
  | _ => 0

/-- The reading at a fractional count: the size of the fraction is added to the count rounded
down. -/
def epochDecimal? (x : Number.Binary64) : Option Timestamp := do
  let count ← x.floor?
  epochTimestamp? count (fractionMicroseconds x)

/-- A number of ASCII digits with an optional sign and fraction. A fraction finer than a
microsecond is refused. -/
def epochText? (s : List Char) : Option Timestamp := do
  let (negative, s) := match s with
    | '-' :: rest => (true, rest)
    | '+' :: rest => (false, rest)
    | _ => (false, s)
  let whole := s.takeWhile Char.isDigit
  if whole.isEmpty then none
  let count := Text.digitsValue (whole.filterMap Text.asciiDigit?)
  match s.dropWhile Char.isDigit with
  | [] => epochTimestamp? (if negative then -(count : Int) else count) 0
  | '.' :: fraction =>
    let digits := fraction.filterMap Text.asciiDigit?
    let places := if (count : Int) < millisecondWatershed then 6 else 3
    if digits.length ≠ fraction.length ∨ places < digits.length then none
    let fraction := Text.digitsValue digits * Number.tenTo (places - digits.length)
    let size : Int := (count * Number.tenTo places + fraction : Nat)
    let instant : Instant := ⟨epochOffset + (if negative then -size else size)⟩
    if instant.inCalendar then some instant.timestamp else none
  | _ => none

/-- A timestamp in ISO 8601 text or as a count since 1970. -/
def Timestamp.ofText? (s : String) : Option Timestamp :=
  match isoTimestamp? s.toList with
  | some t => some t
  | none => epochText? s.toList

end EnrollmentDiagnosis.Time
