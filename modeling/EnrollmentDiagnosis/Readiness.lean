import EnrollmentDiagnosis.Event.Basic

set_option autoImplicit false

namespace EnrollmentDiagnosis

/-- Whether to analyze a session, and why. -/
inductive Readiness where
  | noEvents
  | onDemand
  | notTerminal
  | failed
  | completed
  deriving DecidableEq, Inhabited

namespace Readiness

def shouldAnalyze : Readiness → Bool
  | noEvents => false
  | notTerminal => false
  | _ => true

def reason : Readiness → String
  | noEvents => "Session has no events"
  | onDemand => "Analysis requested on demand"
  | notTerminal => "Session has not reached a terminal state"
  | failed => "Enrollment failed"
  | completed => "Enrollment completed"

def completeType : String := "enrollment_complete"
def failedType : String := "enrollment_failed"

/-- True for events that report a failed enrollment. -/
def reportsFailure (e : Event) : Bool := Text.fold e.type == failedType || e.phase == .failed

/-- True for events that report the end of an enrollment. -/
def isTerminal (e : Event) : Bool :=
  [completeType, failedType].contains (Text.fold e.type) || e.phase == .complete ||
    e.phase == .failed

/-- The first terminal event decides how the enrollment ended. -/
def ofEvents (events : List Event) (onDemand : Bool) : Readiness :=
  if events.isEmpty then noEvents
  else if onDemand then .onDemand
  else match events.find? isTerminal with
    | none => notTerminal
    | some e => if reportsFailure e then failed else completed

end Readiness

end EnrollmentDiagnosis
