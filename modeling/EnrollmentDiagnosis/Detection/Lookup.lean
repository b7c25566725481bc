import EnrollmentDiagnosis.Comparison
import EnrollmentDiagnosis.Event.Basic

set_option autoImplicit false

namespace EnrollmentDiagnosis

/-- Why a condition is not evaluated. -/
inductive DetectionFault where
  /-- A field holds an integer that has too many digits to be written. -/
  | unwritable
  /-- The search for a pattern ends with an error. -/
  | search (message : String)
  deriving DecidableEq

def DetectionFault.message : DetectionFault → String
  | unwritable => Value.unwritableReason
  | search message => message

/-- The text by which operators compare a value, if it can be written. -/
def Value.written (v : Value) : Except DetectionFault (Option String) :=
  if v.isWritable then .ok v.comparisonText else .error .unwritable

namespace Event

/-- The name that stands for an event's message and not for a datum. -/
def messageField : String := "message"

/-- The text of a field: the message, a datum of the payload or the end of a path into it. -/
def lookUp (e : Event) (name : String) : Except DetectionFault (Option String) :=
  if name = "" then .ok none
  else if Text.lower name = messageField then .ok (some e.message)
  else match e.payload.datum? name with
    | some d => d.toValue.written
    | none => .ok none

end Event

/-- Compares a field with a value by an operator. Only the search for a pattern can fail. -/
def Operator.check (matcher : Matcher) (operator : Option Operator)
    (field value : Option String) : Except DetectionFault Bool :=
  match operator, field, value with
  | some .regex, some field, some pattern =>
    ((matcher pattern).mapError .search).map fun occursIn => occursIn field
  | _, _, _ => .ok (accepts matcher operator field value)

end EnrollmentDiagnosis
