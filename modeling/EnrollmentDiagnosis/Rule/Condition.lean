import EnrollmentDiagnosis.Reading

set_option autoImplicit false

namespace EnrollmentDiagnosis

/-- Where a condition looks for its signal. -/
inductive Source where
  | eventType
  | eventData
  | eventCount
  | phaseDuration
  | appInstallDuration
  | eventCorrelation
  | unknown
  deriving DecidableEq, Inhabited

namespace Source

def all : List Source :=
  [eventType, eventData, eventCount, phaseDuration, appInstallDuration, eventCorrelation, unknown]

def name : Source → String
  | eventType => "event_type"
  | eventData => "event_data"
  | eventCount => "event_count"
  | phaseDuration => "phase_duration"
  | appInstallDuration => "app_install_duration"
  | eventCorrelation => "event_correlation"
  | unknown => "unknown"

/-- The source with exactly the given name. -/
def ofName? (name : String) : Option Source := all.find? (·.name == name)

/-- The sources that conditions are evaluated for, in the order in which they are described. -/
def known : List Source := all.filter (· != unknown)

end Source

/-- Comparisons of a payload value with the value of a condition. -/
inductive Operator where
  | equals
  | contains
  | regex
  | gt
  | lt
  | gte
  | lte
  | exists
  | countGte
  | unknown
  deriving DecidableEq, Inhabited

namespace Operator

def all : List Operator :=
  [equals, contains, regex, gt, lt, gte, lte, .exists, countGte, unknown]

def name : Operator → String
  | equals => "equals"
  | contains => "contains"
  | regex => "regex"
  | gt => "gt"
  | lt => "lt"
  | gte => "gte"
  | lte => "lte"
  | .exists => "exists"
  | countGte => "count_gte"
  | unknown => "unknown"

/-- The operator with exactly the given name. -/
def ofName? (name : String) : Option Operator := all.find? (·.name == name)

/-- True for the operators that need a value to compare with. -/
def needsValue : Operator → Bool
  | .exists => false
  | unknown => false
  | _ => true

end Operator

/-- The name that a label stands for: in lowercase and without the blanks at its ends. -/
def plainLabel (label : String) : String := Text.lower (Text.strip label)

/-- One testable statement about a session's events. -/
structure Condition where
  signal : String
  source : Source
  eventType : Option String
  dataField : Option String
  operator : Option Operator
  value : Option String
  required : Bool
  correlateEventType : Option String
  joinField : Option String
  timeWindowSeconds : Option Int
  eventAFilterField : Option String
  eventAFilterOperator : Option Operator
  eventAFilterValue : Option String
  deriving DecidableEq, Inhabited

namespace Condition

def sourceOf (v : Value) : Reading Source :=
  .ok ((Source.ofName? (plainLabel v.display)).getD .unknown)

/-- The operator that a value names; null and the empty text name none. -/
def operatorOf : Value → Reading (Option Operator)
  | .null => .ok none
  | .text "" => .ok none
  | v => .ok (some ((Operator.ofName? (plainLabel v.display)).getD .unknown))

/-- The text of a value to compare with; null has none. -/
def comparedValue (v : Value) : Reading (Option String) :=
  (Reading.display v).map fun _ => v.comparisonText

/-- The word for this kind of record in complaints. -/
def model : String := "RuleCondition"

def ofEntries (entries : List (Value × Value)) : Reading Condition :=
  let text (names : List String) :=
    Reading.defaulted entries names none (Reading.optional Reading.text)
  Condition.mk
    <$> Reading.required entries ["signal"] Reading.text
    <*> Reading.required entries ["source"] sourceOf
    <*> text ["eventType", "event_type"]
    <*> text ["dataField", "data_field"]
    <*> Reading.defaulted entries ["operator"] none operatorOf
    <*> Reading.defaulted entries ["value"] none comparedValue
    <*> Reading.defaulted entries ["required"] false Reading.boolean
    <*> text ["correlateEventType", "correlate_event_type"]
    <*> text ["joinField", "join_field"]
    <*> Reading.defaulted entries ["timeWindowSeconds", "time_window_seconds"] none
          (Reading.optional Reading.integer)
    <*> text ["eventAFilterField", "event_a_filter_field"]
    <*> Reading.defaulted entries ["eventAFilterOperator", "event_a_filter_operator"] none
          operatorOf
    <*> Reading.defaulted entries ["eventAFilterValue", "event_a_filter_value"] none comparedValue

def ofValue (v : Value) : Reading Condition := Reading.record model ofEntries v

/-- A text that may be absent. -/
def textOrNull : Option String → Value
  | none => .null
  | some s => .text s

/-- The record of a condition, with camel case names. -/
def toValue (c : Condition) : Value := .record [
  ("signal", .text c.signal),
  ("source", .text c.source.name),
  ("eventType", textOrNull c.eventType),
  ("dataField", textOrNull c.dataField),
  ("operator", textOrNull (c.operator.map Operator.name)),
  ("value", textOrNull c.value),
  ("required", .bool c.required),
  ("correlateEventType", textOrNull c.correlateEventType),
  ("joinField", textOrNull c.joinField),
  ("timeWindowSeconds", match c.timeWindowSeconds with
    | none => .null
    | some n => .int n),
  ("eventAFilterField", textOrNull c.eventAFilterField),
  ("eventAFilterOperator", textOrNull (c.eventAFilterOperator.map Operator.name)),
  ("eventAFilterValue", textOrNull c.eventAFilterValue)]

end Condition

end EnrollmentDiagnosis
