import EnrollmentDiagnosis.Rule.Condition
import EnrollmentDiagnosis.Rule.Factor

set_option autoImplicit false

namespace EnrollmentDiagnosis

/-- Severity of a diagnosis. -/
inductive Severity where
  | info
  | warning
  | high
  | critical
  deriving DecidableEq, Inhabited

namespace Severity

def all : List Severity := [info, warning, high, critical]

def name : Severity → String
  | info => "info"
  | warning => "warning"
  | high => "high"
  | critical => "critical"

/-- The severity with exactly the given name. -/
def ofName? (name : String) : Option Severity := all.find? (·.name == name)

end Severity

/-- Descriptive kind of a rule; both kinds are evaluated alike. -/
inductive Trigger where
  | single
  | correlation
  deriving DecidableEq, Inhabited

namespace Trigger

def all : List Trigger := [single, correlation]

def name : Trigger → String
  | single => "single"
  | correlation => "correlation"

def ofName? (name : String) : Option Trigger := all.find? (·.name == name)

end Trigger

/-- A weight that is added to the confidence when a test about a signal holds. -/
structure ConfidenceFactor where
  signal : String
  condition : String
  weight : Int
  expression : FactorExpression
  deriving DecidableEq, Inhabited

/-- An approach to remediation with its steps. -/
structure Remediation where
  title : String
  steps : List String
  deriving DecidableEq, Inhabited

/-- A link to related documentation. -/
structure RelatedDoc where
  title : String
  url : String
  deriving DecidableEq, Inhabited

/-- A failure pattern. -/
structure Rule where
  id : String
  title : String
  description : String
  severity : Severity
  category : String
  version : String
  author : String
  enabled : Bool
  isBuiltin : Bool
  isCommunity : Bool
  trigger : Trigger
  conditions : List Condition
  baseConfidence : Int
  factors : List ConfidenceFactor
  threshold : Int
  explanation : String
  remediation : List Remediation
  relatedDocs : List RelatedDoc
  tags : List String
  deriving DecidableEq, Inhabited

/-- The conditions that must all match for a rule to fire. -/
def Rule.requiredConditions (rule : Rule) : List Condition := rule.conditions.filter (·.required)

/-- Scores are percentages. -/
def minConfidence : Int := 0
def maxConfidence : Int := 100

end EnrollmentDiagnosis
