import EnrollmentDiagnosis.Detection.Correlation
import EnrollmentDiagnosis.Detection.Install
import EnrollmentDiagnosis.Detection.Phase

set_option autoImplicit false

namespace EnrollmentDiagnosis.Condition

/-- Evaluates a condition against the events of a session. A condition with an unknown source never
matches. -/
def evaluate (setting : DetectionSetting) (c : Condition) (events : List Event) :
    Except DetectionFault Outcome :=
  match c.source with
  | .eventType => c.evaluateOccurrence setting.matcher events
  | .eventData => c.evaluateData setting.matcher events
  | .eventCount => .ok (c.detectCount events)
  | .phaseDuration => c.evaluatePhase setting events
  | .appInstallDuration => c.evaluateInstall setting.matcher events
  | .eventCorrelation => c.evaluateCorrelation setting.matcher events
  | .unknown => .ok (.unmatched .unknownSource)

/-- The warning about a condition that cannot be evaluated. -/
def sourceNotice? (c : Condition) : Option String :=
  if c.source = .unknown then
    some ("Unknown condition source for signal '" ++ c.signal ++ "': ConditionSource.UNKNOWN")
  else none

end EnrollmentDiagnosis.Condition
