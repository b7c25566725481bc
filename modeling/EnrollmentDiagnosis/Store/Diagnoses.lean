import EnrollmentDiagnosis.Diagnosis

set_option autoImplicit false

namespace EnrollmentDiagnosis

/-- What a stored diagnosis is identified by. -/
structure DiagnosisKey where
  tenant : String
  session : String
  ruleId : String
  deriving DecidableEq, Inhabited

def Diagnosis.key (d : Diagnosis) : DiagnosisKey := ⟨d.tenant, d.session, d.ruleId⟩

/-- The diagnoses in the order in which they were stored. -/
structure DiagnosisStore where
  diagnoses : List Diagnosis
  deriving Inhabited

namespace DiagnosisStore

def empty : DiagnosisStore := ⟨[]⟩

def has (store : DiagnosisStore) (key : DiagnosisKey) : Bool :=
  store.diagnoses.any fun d => d.key == key

/-- Stores a diagnosis unless its key is taken; tells whether it was stored. -/
def insert (store : DiagnosisStore) (d : Diagnosis) : DiagnosisStore × Bool :=
  if store.has d.key then (store, false) else (⟨store.diagnoses ++ [d]⟩, true)

/-- Stores diagnoses in turn and tells which of them were stored. -/
def insertAll : DiagnosisStore → List Diagnosis → DiagnosisStore × List Diagnosis
  | store, [] => (store, [])
  | store, d :: rest =>
    let (store, inserted) := store.insert d
    let (store, stored) := insertAll store rest
    (store, if inserted then d :: stored else stored)

/-- The diagnoses of a session. -/
def ofSession (store : DiagnosisStore) (tenant session : String) : List Diagnosis :=
  store.diagnoses.filter fun d => d.tenant == tenant && d.session == session

end DiagnosisStore

end EnrollmentDiagnosis
