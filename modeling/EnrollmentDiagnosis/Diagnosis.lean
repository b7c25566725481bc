import EnrollmentDiagnosis.Confidence
import EnrollmentDiagnosis.Rule.Record

set_option autoImplicit false

namespace EnrollmentDiagnosis

/-- The identity of a new diagnosis and the time at which it is made. -/
structure Stamp where
  id : String
  time : Time.Timestamp
  deriving DecidableEq, Inhabited

/-- A diagnosis of one session by one rule. -/
structure Diagnosis where
  id : String
  session : String
  tenant : String
  ruleId : String
  ruleTitle : String
  severity : Severity
  category : String
  confidence : Int
  explanation : String
  remediation : List Remediation
  relatedDocs : List RelatedDoc
  evidence : MatchedEvidence
  detectedAt : Time.Timestamp
  deriving Inhabited

namespace Diagnosis

/-- The diagnosis of a rule with a confidence and evidence, not yet of any session. -/
def ofRule (stamp : Stamp) (rule : Rule) (confidence : Int) (evidence : MatchedEvidence) :
    Diagnosis :=
  { id := stamp.id
    session := ""
    tenant := ""
    ruleId := rule.id
    ruleTitle := rule.title
    severity := rule.severity
    category := rule.category
    confidence := confidence
    explanation := rule.explanation
    remediation := rule.remediation
    relatedDocs := rule.relatedDocs
    evidence := evidence
    detectedAt := stamp.time }

/-- The same diagnosis, of a tenant's session. -/
def addressedTo (d : Diagnosis) (tenant session : String) : Diagnosis :=
  { d with tenant := tenant, session := session }

/-- The word for this kind of record in complaints. -/
def model : String := "RuleResult"

/-- A severity by its exact name. -/
def severityOf (v : Value) : Reading Severity :=
  let found := match v with
    | .text s => Severity.ofName? s
    | _ => none
  match found with
  | some severity => .ok severity
  | none => .complain (.notOneOf (Severity.all.map Severity.name))

/-- Recorded evidence by signal; every key must be a text. -/
def evidenceOf : Value → Reading MatchedEvidence
  | .map entries => entriesOf entries
  | _ => .complain .notMapping
where
  entriesOf : List (Value × Value) → Reading MatchedEvidence
    | [] => .ok []
    | (k, v) :: rest =>
      Reading.apply ((Reading.text k).map fun signal => List.cons (signal, Evidence.recorded v))
        (entriesOf rest)

/-- Reads a diagnosis from the entries of a record. The stamp stands in for what is absent. -/
def ofEntries (stamp : Stamp) (entries : List (Value × Value)) : Reading Diagnosis :=
  Diagnosis.mk
    <$> Reading.defaulted entries ["resultId", "result_id"] stamp.id Reading.text
    <*> Reading.defaulted entries ["sessionId", "session_id"] "" Reading.text
    <*> Reading.defaulted entries ["tenantId", "tenant_id"] "" Reading.text
    <*> Reading.required entries ["ruleId", "rule_id"] Reading.text
    <*> Reading.required entries ["ruleTitle", "rule_title"] Reading.text
    <*> Reading.required entries ["severity"] severityOf
    <*> Reading.required entries ["category"] Reading.text
    <*> Reading.required entries ["confidenceScore", "confidence_score"]
          (Reading.integerWithin minConfidence maxConfidence)
    <*> Reading.defaulted entries ["explanation"] "" Reading.text
    <*> Reading.defaulted entries ["remediationSteps", "remediation_steps"] []
          (Reading.list Remediation.ofValue)
    <*> Reading.defaulted entries ["relatedDocs", "related_docs"] []
          (Reading.list RelatedDoc.ofValue)
    <*> Reading.defaulted entries ["matchedConditions", "matched_conditions"] [] evidenceOf
    <*> Reading.defaulted entries ["detectedAt", "detected_at"] stamp.time Reading.timestamp

def ofValue (stamp : Stamp) (v : Value) : Reading Diagnosis :=
  Reading.record model (ofEntries stamp) v

/-- The record of a diagnosis, with camel case names. -/
def toValue (d : Diagnosis) : Value := .record [
  ("resultId", .text d.id),
  ("sessionId", .text d.session),
  ("tenantId", .text d.tenant),
  ("ruleId", .text d.ruleId),
  ("ruleTitle", .text d.ruleTitle),
  ("severity", .text d.severity.name),
  ("category", .text d.category),
  ("confidenceScore", .int d.confidence),
  ("explanation", .text d.explanation),
  ("remediationSteps", .list (d.remediation.map Remediation.toValue)),
  ("relatedDocs", .list (d.relatedDocs.map RelatedDoc.toValue)),
  ("matchedConditions",
    .record (d.evidence.map fun (signal, evidence) => (signal, evidence.toValue))),
  ("detectedAt", .text d.detectedAt.isoText)]

end Diagnosis

end EnrollmentDiagnosis
