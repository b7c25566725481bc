set_option autoImplicit false

namespace EnrollmentDiagnosis

/-- What could not be fetched, for whom, and why. -/
structure FetchError where
  source : String
  tenant : String
  session : Option String
  reason : String
  deriving DecidableEq, Inhabited

def FetchError.target (e : FetchError) : String :=
  match e.session with
  | none => "tenant " ++ e.tenant
  | some session => "session " ++ session ++ " (tenant " ++ e.tenant ++ ")"

def FetchError.message (e : FetchError) : String :=
  let text := "Failed to fetch " ++ e.source ++ " for " ++ e.target
  if e.reason = "" then text else text ++ ": " ++ e.reason

end EnrollmentDiagnosis
