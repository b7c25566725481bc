import EnrollmentDiagnosis.Number.Binary64
import EnrollmentDiagnosis.Text.Blank
import EnrollmentDiagnosis.Text.Digit
import EnrollmentDiagnosis.Text.Quoted

set_option autoImplicit false

namespace EnrollmentDiagnosis.Text

/-- Why a text is no numeral. -/
inductive NumeralError where
  | notInteger (base : Nat) (text : String)
  | notDecimal (text : String)
  | tooManyDigits (count : Nat)
  deriving DecidableEq

/-- The longest integer numeral that is converted. -/
def maxIntegerDigits : Nat := 4300

def NumeralError.message : NumeralError → String
  | .notInteger base text =>
    "invalid literal for int() with base " ++ toString base ++ ": " ++
      String.ofList ((quoted text).toList.take 200)
  | .notDecimal text => "could not convert string to float: " ++ quoted text
  | .tooManyDigits count =>
    "Exceeds the limit (" ++ toString maxIntegerDigits ++
      " digits) for integer string conversion: value has " ++ toString count ++
      " digits; use sys.set_int_max_str_digits() to increase the limit"

/-- The value of a digit to a base up to 36, where letters follow the decimal digits. -/
def baseDigit? (base : Nat) (c : Char) : Option Nat :=
  let value := match digit? c with
    | some d => d
    | none =>
      if 'a' ≤ c ∧ c ≤ 'z' then c.toNat - 'a'.toNat + 10
      else if 'A' ≤ c ∧ c ≤ 'Z' then c.toNat - 'A'.toNat + 10
      else base
  if value < base then some value else none

/-- The digits at the start of a text and what follows them; none for an underscore that does not
stand between two digits. -/
def digitRun? (base : Nat) : Bool → List Char → Option (List Nat × List Char)
  | afterDigit, [] => if afterDigit then some ([], []) else none
  | afterDigit, c :: rest =>
    if c = '_' then if afterDigit then digitRun? base false rest else none
    else match baseDigit? base c with
      | some d => (digitRun? base true rest).map fun (ds, tail) => (d :: ds, tail)
      | none => if afterDigit then some ([], c :: rest) else none

/-- The digits at the start of a text, possibly none, and what follows them. -/
def digits? (base : Nat) (s : List Char) : Option (List Nat × List Char) :=
  match s with
  | c :: _ => if c = '_' ∨ (baseDigit? base c).isSome then digitRun? base false s else some ([], s)
  | [] => some ([], [])

/-- Splits off one sign. -/
def signOf : List Char → Bool × List Char
  | '-' :: rest => (true, rest)
  | '+' :: rest => (false, rest)
  | s => (false, s)

/-- Drops the mark that names the base, such as `0x`, and one underscore behind it. -/
def dropBaseMark (base : Nat) : List Char → List Char
  | '0' :: mark :: rest =>
    if (base = 16 ∧ (mark = 'x' ∨ mark = 'X')) ∨ (base = 8 ∧ (mark = 'o' ∨ mark = 'O')) ∨
        (base = 2 ∧ (mark = 'b' ∨ mark = 'B')) then
      match rest with
      | '_' :: tail => tail
      | _ => rest
    else '0' :: mark :: rest
  | s => s

/-- The integer that a text denotes to a base. -/
def integer (base : Nat) (text : String) : Except NumeralError Int :=
  let (negative, body) := signOf (trimmed isWhiteSpace text.toList)
  match digits? base (dropBaseMark base body) with
  | none => .error (.notInteger base text)
  | some (ds, rest) =>
    if maxIntegerDigits < ds.length ∧ base = 10 then .error (.tooManyDigits ds.length)
    else if ds.isEmpty || !rest.isEmpty then .error (.notInteger base text)
    else
      let size : Int := (ds.foldl (fun total d => total * base + d) 0 : Nat)
      .ok (if negative then -size else size)

/-- The decimal exponent at the end of a numeral, zero where none is written. -/
def exponent? : List Char → Option Int
  | [] => some 0
  | mark :: rest =>
    if mark = 'e' ∨ mark = 'E' then
      let (negative, body) := signOf rest
      match digits? 10 body with
      | some (d :: ds, []) =>
        let size : Int := digitsValue (d :: ds)
        some (if negative then -size else size)
      | _ => none
    else none

/-- The number written with digits, a point and an exponent. -/
def decimalBody? (negative : Bool) (body : List Char) : Option Number.Binary64 := do
  let (whole, rest) ← digits? 10 body
  let (fraction, tail) ← match rest with
    | '.' :: after => digits? 10 after
    | _ => some ([], rest)
  if whole.isEmpty && fraction.isEmpty then none
  let exponent ← exponent? tail
  some (.ofDecimal negative (digitsValue (whole ++ fraction)) (exponent - fraction.length))

/-- The number that a text denotes, where `inf`, `infinity` and `nan` are numbers too. -/
def decimal? (text : String) : Option Number.Binary64 :=
  let (negative, body) := signOf (trimmed isWhiteSpace text.toList)
  let word := String.ofList (body.map Char.toLower)
  if word = "inf" ∨ word = "infinity" then some (.infinite negative)
  else if word = "nan" then some .nan
  else decimalBody? negative body

/-- The number that a text denotes, or why there is none. -/
def decimal (text : String) : Except NumeralError Number.Binary64 :=
  match decimal? text with
  | some x => .ok x
  | none => .error (.notDecimal text)

/-- The finite number that a text without its blanks denotes. -/
def finiteDecimal? (text : String) : Option Number.Binary64 := do
  let x ← decimal? (strip text)
  if x.isFinite then some x else none

end EnrollmentDiagnosis.Text
