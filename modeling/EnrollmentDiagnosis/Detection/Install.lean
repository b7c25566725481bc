import EnrollmentDiagnosis.Detection.Occurrence

set_option autoImplicit false

namespace EnrollmentDiagnosis

/-- The fields that identify an app, in the order in which they are looked up. -/
def appKeyFields : List String := ["appId", "appName", "name"]

/-- The types of events with which an installation starts. -/
def installStartTypes : List String := ["app_install_started", "app_install_start"]

/-- The types of events with which an installation ends, unless a condition names one. -/
def installCompletionTypes : List String := ["app_install_completed", "app_install_failed"]

namespace Event

def hasTypeIn (e : Event) (types : List String) : Bool := types.any e.hasType

/-- The app that an event is about: the first identifying field that is not blank. -/
def lookUpAppKey (e : Event) : Except DetectionFault (Option String) :=
  appKeyFields.findSomeM? fun name =>
    (e.lookUp name).map (Option.filter fun value => Text.strip value != "")

/-- Whether an event is about the app with a key. -/
def checkApp (appKey : String) (e : Event) : Except DetectionFault Bool :=
  e.lookUpAppKey.map fun
    | some key => Text.sameFold key appKey
    | none => false

/-- The last start of an app up to a time, where starts are ordered by time. -/
def findLatestStart (starts : List Event) (time : Time.Instant) (appKey : String) :
    Except DetectionFault (Option Event) :=
  ((starts.takeWhile fun e => decide (e.time ≤ time)).filterM (checkApp appKey)).map List.getLast?

end Event

namespace Condition

/-- The types of events that complete an installation for a condition. -/
def completionTypes (c : Condition) : List String :=
  match nonempty? c.eventType with
  | some type => [type]
  | none => installCompletionTypes

/-- The time from a start to a completion, which is never negative. -/
def installDuration (start completion : Event) : Int := max 0 (completion.time.since start.time)

/-- The text of the time that an installation took, in seconds. -/
def installSeconds (start completion : Event) : String :=
  (Time.seconds (installDuration start completion)).text

/-- The span of an installation. The app's name is the first that is not empty. -/
def describeInstall (start completion : Event) (appKey : String) :
    Except DetectionFault InstallSpan := do
  let appId ← completion.lookUp "appId"
  let named ← match nonempty? (← completion.lookUp "appName") with
    | some name => .ok (some name)
    | none => (completion.lookUp "name").map nonempty?
  return {
    start := start.reference
    completion := completion.reference
    appId := appId.getD ""
    appName := named.getD appKey
    duration := installDuration start completion }

/-- The span of a completed installation whose duration satisfies the operator. -/
def examineInstall (matcher : Matcher) (c : Condition) (starts : List Event)
    (completion : Event) : Except DetectionFault (Option InstallSpan) := do
  match ← completion.lookUpAppKey with
  | some appKey =>
    match ← Event.findLatestStart starts completion.time appKey with
    | some start =>
      if ← Operator.check matcher c.operator (some (installSeconds start completion)) c.value then
        return some (← describeInstall start completion appKey)
      else return none
    | none => return none
  | none => return none

/-- An installation took a time that satisfies the operator. -/
def evaluateInstall (matcher : Matcher) (c : Condition) (events : List Event) :
    Except DetectionFault Outcome :=
  let ordered := Event.sort events
  let starts := ordered.filter (·.hasTypeIn installStartTypes)
  let completions := ordered.filter (·.hasTypeIn c.completionTypes)
  (completions.findSomeM? (c.examineInstall matcher starts)).map fun found =>
    .ofSearch .noInstallMatched (found.map .install)

end Condition

end EnrollmentDiagnosis
