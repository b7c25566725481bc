import EnrollmentDiagnosis.Text.Lowercase
import EnrollmentDiagnosis.Text.Numeral

set_option autoImplicit false

namespace EnrollmentDiagnosis

/-- What a confidence factor tests. -/
inductive FactorTest where
  | matched
  | countAtLeast (count : Int)
  | durationAbove (seconds : Int)
  | unsupported
  deriving DecidableEq, Inhabited

namespace FactorTest

/-- The word for the kind of a test. -/
def kind : FactorTest → String
  | matched => "exists"
  | countAtLeast _ => "count_gte"
  | durationAbove _ => "phase_duration_gt"
  | unsupported => "invalid"

/-- The number that a test compares with. -/
def threshold? : FactorTest → Option Int
  | matched => none
  | countAtLeast n => some n
  | durationAbove n => some n
  | unsupported => none

/-- True for the characters that stand for a lowercase letter regardless of case. -/
def standsFor (letter c : Char) : Bool :=
  c == letter || (c.isUpper && c.toLower == letter) ||
    (letter == 's' && c == 'ſ') || (letter == 'i' && (c == 'ı' || c == 'İ'))

/-- What follows a word in any case at the start of a text. -/
def afterWord? : List Char → List Char → Option (List Char)
  | [], s => some s
  | _ :: _, [] => none
  | letter :: word, c :: s => if standsFor letter c then afterWord? word s else none

/-- A number with an optional minus sign that takes up the whole text. -/
def signedDigits? (s : List Char) : Option (Except Text.NumeralError Int) :=
  let (negative, digits) := match s with
    | '-' :: rest => (true, rest)
    | _ => (false, s)
  let values := digits.filterMap Text.digit?
  if digits.isEmpty || values.length != digits.length then none
  else if Text.maxIntegerDigits < values.length then some (.error (.tooManyDigits values.length))
  else
    let size : Int := Text.digitsValue values
    some (.ok (if negative then -size else size))

/-- The number of a comparison that reads: word, blanks, sign of comparison, blanks, number. -/
def comparison? (word sign s : List Char) : Option (Except Text.NumeralError Int) := do
  let s ← afterWord? word s
  let s ← afterWord? sign (s.dropWhile Text.isBlank)
  signedDigits? (s.dropWhile Text.isBlank)

def countWord : List Char := ['c', 'o', 'u', 'n', 't']
def durationWord : List Char :=
  ['p', 'h', 'a', 's', 'e', '_', 'd', 'u', 'r', 'a', 't', 'i', 'o', 'n']

/-- The test that a text without blanks at its ends describes. -/
def parse (s : String) : Except Text.NumeralError FactorTest :=
  if Text.lower s = "exists" then .ok matched
  else match comparison? countWord ['>', '='] s.toList with
    | some number => number.map countAtLeast
    | none =>
      match comparison? durationWord ['>'] s.toList with
      | some number => number.map durationAbove
      | none => .ok unsupported

end FactorTest

/-- The test of a factor and the text that it was read from. -/
structure FactorExpression where
  test : FactorTest
  source : String
  deriving DecidableEq, Inhabited

/-- Reads an expression; blanks at the ends of its text are dropped. -/
def FactorExpression.parse (text : Option String) : Except Text.NumeralError FactorExpression :=
  let source := Text.strip (text.getD "")
  (FactorTest.parse source).map fun test => ⟨test, source⟩

end EnrollmentDiagnosis
