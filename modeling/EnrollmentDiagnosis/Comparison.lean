import EnrollmentDiagnosis.Pattern.Reading
import EnrollmentDiagnosis.Pattern.Search
import EnrollmentDiagnosis.Rule.Condition
import EnrollmentDiagnosis.Text.Folding

set_option autoImplicit false

namespace EnrollmentDiagnosis

/-- True when one text stands somewhere inside another. -/
def isPart (part : List Char) : List Char → Bool
  | [] => part.isEmpty
  | c :: rest => part.isPrefixOf (c :: rest) || isPart part rest

/-- A way of searching for patterns: the texts in which a pattern occurs, or the message of an
error that ends the search. -/
abbrev Matcher := String → Except String (String → Bool)

/-- True when a pattern occurs in a text. A pattern whose search ends with an error never does. -/
def Matcher.occurs (matcher : Matcher) (pattern text : String) : Bool :=
  match matcher pattern with
  | .ok occursIn => occursIn text
  | .error _ => false

/-- Searches with the patterns that are supported. A text that is no pattern occurs nowhere, but one
whose flags exclude each other ends the search. -/
def Pattern.matcher : Matcher := fun pattern =>
  match Pattern.ofText pattern with
  | .ok p => .ok p.occursIn
  | .error .invalid => .ok fun _ => false
  | .error (.clash message) => .error message

/-- True when both texts are finite numbers whose order is accepted. -/
def numbersCompare (accepted : Ordering → Bool) (left right : String) : Bool :=
  match Text.finiteDecimal? left, Text.finiteDecimal? right with
  | some a, some b => ((a.order b).map accepted).getD false
  | _, _ => false

namespace Operator

/-- True when an operator holds between a field and a value. Counts are not compared as fields. -/
def holds (matcher : Matcher) (operator : Operator) (field value : String) : Bool :=
  match operator with
  | .equals => Text.sameFold field value
  | .contains => isPart (Text.fold value).toList (Text.fold field).toList
  | .regex => matcher.occurs value field
  | .gt => numbersCompare (· == .gt) field value
  | .lt => numbersCompare (· == .lt) field value
  | .gte => numbersCompare (· != .lt) field value
  | .lte => numbersCompare (· != .gt) field value
  | .exists => field != ""
  | .countGte => false
  | .unknown => false

/-- True when a field satisfies an operator. -/
def accepts (matcher : Matcher) (operator : Option Operator) (field value : Option String) :
    Bool :=
  match operator, field with
  | some .exists, some field => field != ""
  | some operator, some field =>
    match value with
    | some value => operator.holds matcher field value
    | none => false
  | _, _ => false

/-- The operator that a label names, in any case. -/
def ofLabel? (label : String) : Option Operator := ofName? (plainLabel label)

end Operator

end EnrollmentDiagnosis
