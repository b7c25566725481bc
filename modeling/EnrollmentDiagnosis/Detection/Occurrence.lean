import EnrollmentDiagnosis.Detection.Lookup
import EnrollmentDiagnosis.Evidence

set_option autoImplicit false

namespace EnrollmentDiagnosis

/-- An optional text; the empty text counts as absent. -/
def nonempty? : Option String → Option String
  | some "" => none
  | text => text

/-- The outcome of a search, with the reason for finding nothing. -/
def Outcome.ofSearch (reason : Reason) : Option Evidence → Outcome
  | some evidence => matched evidence
  | none => unmatched reason

namespace Condition

/-- The field of an event that a condition looks at. -/
def lookUpField (c : Condition) (e : Event) : Except DetectionFault (Option String) :=
  match c.dataField with
  | some name => e.lookUp name
  | none => .ok none

/-- The evidence of an event with a text in the field. -/
def fieldEvidence (c : Condition) (e : Event) (field : Option String) : Evidence :=
  .fieldMatch e.reference (c.dataField.getD "") (field.getD "")

/-- The evidence of an event, if its field satisfies the operator. -/
def examineField (matcher : Matcher) (c : Condition) (e : Event) :
    Except DetectionFault (Option Evidence) := do
  let field ← c.lookUpField e
  if ← Operator.check matcher c.operator field c.value then return some (c.fieldEvidence e field)
  else return none

/-- An event of the type occurred, and if a field is named, that field satisfies the operator. -/
def evaluateOccurrence (matcher : Matcher) (c : Condition) (events : List Event) :
    Except DetectionFault Outcome :=
  match Event.ofType events c.eventType with
  | [] => .ok (.unmatched .noMatchingEvents)
  | first :: rest =>
    if (nonempty? c.dataField).isSome then
      ((first :: rest).findSomeM? (c.examineField matcher)).map (.ofSearch .fieldNotMatched)
    else .ok (.matched (.occurrence first.reference (rest.length + 1)))

/-- A field of an event of the type satisfies the operator. -/
def evaluateData (matcher : Matcher) (c : Condition) (events : List Event) :
    Except DetectionFault Outcome :=
  ((Event.ofType events c.eventType).findSomeM? (c.examineField matcher)).map
    (.ofSearch .noMatchingData)

/-- The smallest count that satisfies a condition. -/
def countThreshold? (c : Condition) : Option Int :=
  if c.operator = some .countGte then (Text.integer 10 (Text.strip (c.value.getD ""))).toOption
  else none

/-- At least so many events of the type occurred. -/
def detectCount (c : Condition) (events : List Event) : Outcome :=
  let found := Event.ofType events c.eventType
  match c.countThreshold? with
  | some threshold =>
    if (found.length : Int) < threshold then .unmatched (.countTooLow found.length)
    else .matched (.tally (found.head?.map Event.reference) found.length threshold)
  | none => .unmatched (.countTooLow found.length)

end Condition

end EnrollmentDiagnosis
