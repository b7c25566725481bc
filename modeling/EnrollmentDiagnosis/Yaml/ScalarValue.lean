import EnrollmentDiagnosis.Number.Arithmetic
import EnrollmentDiagnosis.Text.Lowercase
import EnrollmentDiagnosis.Value.Basic
import EnrollmentDiagnosis.Yaml.Tag

set_option autoImplicit false

namespace EnrollmentDiagnosis.Yaml

def withoutUnderscores (s : List Char) : List Char := s.filter (· != '_')

/-- The parts of a text between its colons. -/
def colonParts : List Char → List (List Char)
  | [] => [[]]
  | c :: rest =>
    if c = ':' then [] :: colonParts rest
    else match colonParts rest with
      | [] => [[c]]
      | part :: parts => (c :: part) :: parts

/-- Splits off one sign. -/
def signed : List Char → Bool × List Char
  | '-' :: rest => (true, rest)
  | '+' :: rest => (false, rest)
  | s => (false, s)

def numeral {α : Type} (result : Except Text.NumeralError α) : Except LoadError α :=
  result.mapError .numeral

/-- The number of the parts to the base sixty, the last of which counts units. -/
def sexagesimalInteger (parts : List (List Char)) : Except LoadError Int :=
  parts.foldlM (fun (total : Int) part => do
    return total * 60 + (← numeral (Text.integer 10 (String.ofList part)))) 0

/-- An integer to the base that its first characters name. -/
def integerValue (text : String) : Except LoadError Int := do
  let s := withoutUnderscores text.toList
  if s.isEmpty then throw .emptyNumber
  let (negative, s) := signed s
  let size ← match s with
    | [] => throw .emptyNumber
    | ['0'] => pure 0
    | '0' :: 'b' :: rest => numeral (Text.integer 2 (String.ofList rest))
    | '0' :: 'x' :: rest => numeral (Text.integer 16 (String.ofList rest))
    | '0' :: rest => numeral (Text.integer 8 (String.ofList ('0' :: rest)))
    | s =>
      if s.contains ':' then sexagesimalInteger (colonParts s)
      else numeral (Text.integer 10 (String.ofList s))
  return if negative then -size else size

/-- The sum of the parts, the last one first, weighted by powers of sixty. -/
def weightedSum : List Number.Binary64 → Nat → Number.Binary64 → Except LoadError Number.Binary64
  | [], _, total => .ok total
  | part :: rest, weight, total =>
    let factor := Number.Binary64.ofInt weight
    if factor.isFinite then weightedSum rest (weight * 60) (total.plus (part.times factor))
    else .error .weightOutOfRange

/-- A number with a fraction, which may be to the base sixty. -/
def floatValue (text : String) : Except LoadError Number.Binary64 := do
  let s := (Text.lower (String.ofList (withoutUnderscores text.toList))).toList
  if s.isEmpty then throw .emptyNumber
  let (negative, s) := signed s
  let word := String.ofList s
  let size ← if word = ".inf" then pure (.infinite false)
    else if word = ".nan" then pure .nan
    else if s.contains ':' then do
      let parts ← (colonParts s).mapM fun part => numeral (Text.decimal (String.ofList part))
      weightedSum parts.reverse 1 (.zero false)
    else numeral (Text.decimal word)
  return if negative then size.negated else size

def booleanValue (text : String) : Except LoadError Bool :=
  let word := Text.lower text
  if ["yes", "true", "on"].contains word then .ok true
  else if ["no", "false", "off"].contains word then .ok false
  else .error (.notBoolean word)

/-- The date of a timestamp, if it is one. -/
def TimestampParts.date (p : TimestampParts) : Except TimeFault Time.Date :=
  let date : Time.Date := ⟨p.year, p.month, p.day⟩
  if p.year < Time.minYear ∨ Time.maxYear < p.year then .error (.year p.year)
  else if p.month < 1 ∨ 12 < p.month then .error .month
  else if date.isValid then .ok date
  else .error .day

/-- A date, or a time whose offset is below a day. -/
def timestampValue (text : String) : Except LoadError Value :=
  match TimestampParts.ofText? (withoutFinalBreak text.toList) with
  | none => .error .notTimestamp
  | some p =>
    match p.clock with
    | none => (p.date.mapError .time).map .date
    | some (hour, minute, second, microsecond) => do
      let offset := p.offset.getD 0
      if 86400 ≤ offset.natAbs then throw (.time (.offset offset))
      let date ← p.date.mapError .time
      if 23 < hour then throw (.time .hour)
      if 59 < minute then throw (.time .minute)
      if 59 < second then throw (.time .second)
      return .time ⟨Time.wallClock date hour minute second microsecond, p.offset⟩

/-- The value of a digit of base 64. -/
def base64Digit? (c : Char) : Option Nat :=
  if 'A' ≤ c ∧ c ≤ 'Z' then some (c.toNat - 65)
  else if 'a' ≤ c ∧ c ≤ 'z' then some (c.toNat - 71)
  else if c.isDigit then some (c.toNat + 4)
  else if c = '+' then some 62
  else if c = '/' then some 63
  else none

/-- Bytes from digits of base 64, four of which give three bytes. Other characters are skipped, and
padding that completes a group of four ends the data. `held` are the digits of the group so far. -/
def base64Bytes? : List Char → List Nat → Nat → Option (List Nat)
  | [], held, _ => if held.isEmpty then some [] else none
  | c :: rest, held, padding =>
    if c = '=' then
      if 2 ≤ held.length then
        if 4 ≤ held.length + padding + 1 then some (partialBytes held)
        else base64Bytes? rest held (padding + 1)
      else base64Bytes? rest held padding
    else match base64Digit? c, held with
      | none, _ => base64Bytes? rest held padding
      | some d, [a, b, e] =>
        let n := ((a * 64 + b) * 64 + e) * 64 + d
        (base64Bytes? rest [] 0).map ([n / 65536, n / 256 % 256, n % 256] ++ ·)
      | some d, held => base64Bytes? rest (held ++ [d]) 0
where
  /-- The whole bytes in two or three digits. -/
  partialBytes : List Nat → List Nat
    | [a, b] => [(a * 64 + b) / 16]
    | [a, b, e] => [((a * 64 + b) * 64 + e) / 1024, ((a * 64 + b) * 64 + e) / 4 % 256]
    | _ => []

def bytesValue (text : String) : Except LoadError (List Nat) :=
  let s := text.toList
  if s.any fun c => 0x80 ≤ c.toNat then .error .malformed
  else match base64Bytes? s [] 0 with
    | some bytes => .ok bytes
    | none => .error .malformed

/-- The value of a scalar under its tag; tags of collections and tags without a meaning have
none. -/
def scalarValue (tag : Tag) (text : String) : Except LoadError Value :=
  match tag with
  | .null => .ok .null
  | .bool => (booleanValue text).map .bool
  | .int => (integerValue text).map .int
  | .float => (floatValue text).map .float
  | .timestamp => timestampValue text
  | .text => .ok (.text text)
  | .binary => (bytesValue text).map .bytes
  | _ => .error .malformed

end EnrollmentDiagnosis.Yaml
