import EnrollmentDiagnosis.Event.Record
import EnrollmentDiagnosis.Time.Duration

set_option autoImplicit false

namespace EnrollmentDiagnosis

/-- A phase that was entered with an event and left with the next change of phase, if there was
one. -/
structure PhaseSpan where
  start : EventReference
  finish : Option EventReference
  phase : String
  /-- How long the phase lasted, in microseconds. -/
  duration : Int
  deriving DecidableEq

/-- The installation of an app, from its start to its completion. -/
structure InstallSpan where
  start : EventReference
  completion : EventReference
  appId : String
  appName : String
  /-- How long the installation took, in microseconds. -/
  duration : Int
  deriving DecidableEq

/-- Two events that agree on a field. -/
structure Correlation where
  eventA : EventReference
  messageA : String
  eventB : EventReference
  messageB : String
  joinField : String
  joinValue : String
  /-- The time from the first event to the second, in microseconds. -/
  delta : Int
  deriving DecidableEq

/-- What is kept of a matched condition or a satisfied factor. -/
inductive Evidence where
  /-- The first event of a type, with their number. -/
  | occurrence (event : EventReference) (count : Nat)
  /-- An event whose field satisfies an operator. -/
  | fieldMatch (event : EventReference) (field value : String)
  /-- The number of events of a type, with the first of them. -/
  | tally (first : Option EventReference) (count : Nat) (threshold : Int)
  | phase (span : PhaseSpan)
  | install (span : InstallSpan)
  | correlation (pair : Correlation)
  /-- The mark of a satisfied factor. -/
  | mark
  /-- Evidence in the form of a value. -/
  | recorded (v : Value)
  deriving Inhabited

/-- The marker in place of an end for a phase that goes on. -/
def stillActive : String := "(still active)"

/-- The number of seconds in some microseconds, with its text. -/
def durationEntries (microseconds : Int) : List (String × Value) :=
  let seconds := Time.seconds microseconds
  let text := match Time.durationText seconds with
    | .ok text => text
    | .error _ => ""
  [("durationSeconds", .float seconds), ("durationFormatted", .text text)]

def PhaseSpan.entries (span : PhaseSpan) : List (String × Value) := [
  ("eventId", .text span.start.id),
  ("sequence", .int span.start.sequence),
  ("phaseStartTimestamp", .text span.start.time.isoText),
  ("phaseEndEventId", .text (match span.finish with
    | some event => event.id
    | none => stillActive)),
  ("phase", .text span.phase)] ++ durationEntries span.duration

def InstallSpan.entries (span : InstallSpan) : List (String × Value) := [
  ("eventId", .text span.completion.id),
  ("sequence", .int span.completion.sequence),
  ("startEventId", .text span.start.id),
  ("startTimestamp", .text span.start.time.isoText),
  ("endTimestamp", .text span.completion.time.isoText),
  ("eventType", .text span.completion.type),
  ("appId", .text span.appId),
  ("appName", .text span.appName)] ++ durationEntries span.duration

def Correlation.entries (pair : Correlation) : List (String × Value) := [
  ("eventA", .record (pair.eventA.entries ++ [("message", .text pair.messageA)])),
  ("eventB", .record (pair.eventB.entries ++ [("message", .text pair.messageB)])),
  ("joinField", .text pair.joinField),
  ("joinValue", .text pair.joinValue),
  ("timeDeltaSeconds", .float (Time.seconds pair.delta))]

/-- The value that stands for evidence. -/
def Evidence.toValue : Evidence → Value
  | occurrence event count => .record (event.entries ++ [("count", .int count)])
  | fieldMatch event field value =>
    .record (event.entries ++ [("field", .text field), ("value", .text value)])
  | tally first count threshold =>
    .record ((match first with
      | some event => event.entries
      | none => []) ++ [("count", .int count), ("threshold", .int threshold)])
  | phase span => .record span.entries
  | install span => .record span.entries
  | correlation pair => .record pair.entries
  | mark => .bool true
  | recorded v => v

/-- Why a condition does not match. -/
inductive Reason where
  | noMatchingEvents
  | fieldNotMatched
  | noMatchingData
  | countTooLow (count : Nat)
  | noPhaseEvents
  | noTargetPhase
  | phaseNotFound
  | noInstallMatched
  | incompleteCorrelation
  | noEventA
  | noEventB
  | noCorrelatedPair
  | unknownSource
  deriving DecidableEq, Inhabited

/-- The value that stands for a reason. -/
def Reason.toValue : Reason → Value
  | noMatchingEvents => .text "no matching events"
  | fieldNotMatched => .text "data field not matched"
  | noMatchingData => .text "no matching data"
  | countTooLow count => .record [("count", .int count)]
  | noPhaseEvents => .text "no phase events"
  | noTargetPhase => .text "no target phase"
  | phaseNotFound => .text "phase not found"
  | noInstallMatched => .text "no app install duration matched"
  | incompleteCorrelation => .text "incomplete correlation condition"
  | noEventA => .text "no event A candidates"
  | noEventB => .text "no event B candidates"
  | noCorrelatedPair => .text "no correlated event pair"
  | unknownSource => .text "unknown source"

/-- What the evaluation of a condition gives. -/
inductive Outcome where
  | matched (evidence : Evidence)
  | unmatched (reason : Reason)
  deriving Inhabited

/-- The evidence of a match. -/
def Outcome.evidence? : Outcome → Option Evidence
  | matched evidence => some evidence
  | unmatched _ => none

def Outcome.isMatch (outcome : Outcome) : Bool := outcome.evidence?.isSome

/-- The evidence or the reason as a value. -/
def Outcome.toValue : Outcome → Value
  | matched evidence => evidence.toValue
  | unmatched reason => reason.toValue

end EnrollmentDiagnosis
