import EnrollmentDiagnosis.Analysis
import EnrollmentDiagnosis.FetchError
import EnrollmentDiagnosis.OperationLog
import EnrollmentDiagnosis.Store.Diagnoses

set_option autoImplicit false

namespace EnrollmentDiagnosis

/-- Why a read fails: with a failure to fetch, which is passed on, or for another reason. -/
inductive ReadFailure where
  | fetch (e : FetchError)
  | other (reason : String)
  deriving DecidableEq, Inhabited

/-- The failure as it is reported when the source is read for a session. -/
def ReadFailure.reported (source tenant session : String) : ReadFailure → FetchError
  | fetch e => e
  | other reason => ⟨source, tenant, some session, reason⟩

/-- Why a session is not analyzed. -/
inductive SessionError where
  /-- There is nothing to read rules, events or diagnoses from. -/
  | incomplete
  | fetch (e : FetchError)
  deriving DecidableEq, Inhabited

def SessionError.message : SessionError → String
  | incomplete =>
    "RuleEngine needs a rule loader, event repository and result store to analyze sessions"
  | fetch e => e.message

namespace SessionAnalysis

/-- What the reads of an analysis give; none where there is nothing to read from. -/
structure Reads where
  rules : Option (Except ReadFailure (List Rule))
  events : Option (Except ReadFailure (List Event))
  diagnoses : Option (Except ReadFailure (List Diagnosis))

/-- What is analyzed: rules, events, and the identities of the rules that have been evaluated. -/
structure Material where
  rules : List Rule
  events : List Event
  evaluated : List String

/-- The identities of the rules that have a diagnosis. -/
def evaluatedRules (diagnoses : List Diagnosis) : List String := diagnoses.map (·.ruleId)

/-- Gathers what is analyzed. The first read that fails decides the error, and earlier diagnoses are
read only if there are events. -/
def gather (rules : Except ReadFailure (List Rule)) (events : Except ReadFailure (List Event))
    (diagnoses : Except ReadFailure (List Diagnosis)) (tenant session : String) :
    Except FetchError Material :=
  match rules with
  | .error e => .error (e.reported "rules" tenant session)
  | .ok rules =>
    match events with
    | .error e => .error (e.reported "events" tenant session)
    | .ok [] => .ok ⟨rules, [], []⟩
    | .ok (first :: rest) =>
      match diagnoses with
      | .error e => .error (e.reported "rule results" tenant session)
      | .ok diagnoses => .ok ⟨rules, first :: rest, evaluatedRules diagnoses⟩

/-- What the reads of an analysis come to. -/
def Reads.material (reads : Reads) (tenant session : String) : Except SessionError Material :=
  match reads.rules, reads.events, reads.diagnoses with
  | some rules, some events, some diagnoses =>
    (gather rules events diagnoses tenant session).mapError .fetch
  | _, _, _ => .error .incomplete

/-- The new diagnoses of a session. -/
def diagnose (engine : Analysis.Engine) (material : Material) (tenant session : String) :
    List Diagnosis :=
  (Analysis.analyze engine material.rules material.events material.evaluated).map
    (·.addressedTo tenant session)

/-- Analyzes a session. With `persist` the new diagnoses are stored in turn, and those that were
stored are the result. -/
def run (engine : Analysis.Engine) (reads : Reads) (store : DiagnosisStore)
    (tenant session : String) (persist : Bool) :
    Except SessionError (List Diagnosis) × DiagnosisStore :=
  match reads.material tenant session with
  | .error e => (.error e, store)
  | .ok material =>
    let diagnoses := diagnose engine material tenant session
    if persist then
      let (store, stored) := store.insertAll diagnoses
      (.ok stored, store)
    else (.ok diagnoses, store)

/-- The name under which an analysis is logged. -/
def operationName : String := "session_analysis"

/-- What is noted during the analysis of a session. An analysis that does not begin notes
nothing. -/
def notices (engine : Analysis.Engine) (maxEvents : Int) (elapsed : String) (reads : Reads)
    (tenant session : String) : List String :=
  match reads.material tenant session with
  | .error .incomplete => []
  | .error (.fetch _) => [(OperationLog.operationFailure elapsed operationName []).message]
  | .ok material =>
    Analysis.notices engine maxEvents material.rules material.events material.evaluated

end SessionAnalysis

end EnrollmentDiagnosis
