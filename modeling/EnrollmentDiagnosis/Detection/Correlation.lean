import EnrollmentDiagnosis.Detection.Occurrence

set_option autoImplicit false

namespace EnrollmentDiagnosis

/-- What is asked of a field of an event; nothing where no field is named. -/
structure Filter where
  field : Option String
  operator : Option Operator
  value : Option String

/-- Whether an event passes a filter. -/
def Filter.check (matcher : Matcher) (f : Filter) (e : Event) : Except DetectionFault Bool :=
  match nonempty? f.field with
  | some field => do Operator.check matcher f.operator (← e.lookUp field) f.value
  | none => .ok true

namespace Condition

/-- The filter for the first event of a pair. -/
def filterA (c : Condition) : Filter :=
  ⟨c.eventAFilterField, c.eventAFilterOperator, c.eventAFilterValue⟩

/-- The filter for the second event of a pair. -/
def filterB (c : Condition) : Filter := ⟨c.dataField, c.operator, c.value⟩

/-- True when a time in microseconds fits the window of a condition; without a positive window any
time fits. -/
def inWindow (c : Condition) (delta : Int) : Bool :=
  let window := c.timeWindowSeconds.getD 0
  decide (window ≤ 0) || !(Time.seconds delta).magnitude.exceeds window

/-- Whether an event goes with another one whose join field has the given text. -/
def checkPair (c : Condition) (joinField joinValue : String) (a b : Event) :
    Except DetectionFault Bool :=
  if b.id = a.id then .ok false
  else (b.lookUp joinField).map fun
    | some value => Text.sameFold value joinValue && c.inWindow (b.time.since a.time)
    | none => false

def correlationOf (joinField joinValue : String) (a b : Event) : Correlation :=
  { eventA := a.reference
    messageA := a.message
    eventB := b.reference
    messageB := b.message
    joinField := joinField
    joinValue := joinValue
    delta := b.time.since a.time }

/-- The first pair with the given first event. -/
def examinePairs (c : Condition) (joinField : String) (candidates : List Event) (a : Event) :
    Except DetectionFault (Option Correlation) := do
  match nonempty? (← a.lookUp joinField) with
  | some joinValue =>
    let b ← candidates.findM? (c.checkPair joinField joinValue a)
    return b.map (correlationOf joinField joinValue a)
  | none => return none

/-- Two different events of the two types pass their filters and agree on the join field within the
window. -/
def evaluateCorrelation (matcher : Matcher) (c : Condition) (events : List Event) :
    Except DetectionFault Outcome :=
  match nonempty? c.eventType, nonempty? c.correlateEventType, nonempty? c.joinField with
  | some typeA, some typeB, some joinField => do
    let candidatesA ← (Event.ofType events (some typeA)).filterM (c.filterA.check matcher)
    if candidatesA.isEmpty then return .unmatched .noEventA
    else
      let candidatesB ← (Event.ofType events (some typeB)).filterM (c.filterB.check matcher)
      if candidatesB.isEmpty then return .unmatched .noEventB
      else
        let pair ← candidatesA.findSomeM? (c.examinePairs joinField candidatesB)
        return .ofSearch .noCorrelatedPair (pair.map .correlation)
  | _, _, _ => .ok (.unmatched .incompleteCorrelation)

end Condition

end EnrollmentDiagnosis
