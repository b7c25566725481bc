import EnrollmentDiagnosis.Rule.Basic

set_option autoImplicit false

namespace EnrollmentDiagnosis

namespace ConfidenceFactor

/-- The word for this kind of record in complaints. -/
def model : String := "ConfidenceFactor"

/-- A factor with its condition's expression; an unreadable number is a complaint about the
factor. -/
def make (parts : String × String × Int) : Reading ConfidenceFactor :=
  let (signal, condition, weight) := parts
  match FactorExpression.parse (some condition) with
  | .ok expression => .ok ⟨signal, condition, weight, expression⟩
  | .error e => .complain (.rejected e.message)

def ofEntries (entries : List (Value × Value)) : Reading ConfidenceFactor :=
  let parts : Reading (String × String × Int) :=
    (fun signal condition weight => (signal, condition, weight))
      <$> Reading.required entries ["signal"] Reading.text
      <*> Reading.required entries ["condition"] Reading.text
      <*> Reading.defaulted entries ["weight"] 0 Reading.integer
  parts.andThen make

def ofValue (v : Value) : Reading ConfidenceFactor := Reading.record model ofEntries v

def toValue (f : ConfidenceFactor) : Value := .record [
  ("signal", .text f.signal),
  ("condition", .text f.condition),
  ("weight", .int f.weight)]

end ConfidenceFactor

namespace Remediation

def model : String := "RemediationStep"

def ofEntries (entries : List (Value × Value)) : Reading Remediation :=
  Remediation.mk
    <$> Reading.required entries ["title"] Reading.text
    <*> Reading.defaulted entries ["steps"] [] (Reading.list Reading.text)

def ofValue (v : Value) : Reading Remediation := Reading.record model ofEntries v

def toValue (r : Remediation) : Value := .record [
  ("title", .text r.title),
  ("steps", .list (r.steps.map .text))]

end Remediation

namespace RelatedDoc

def model : String := "RelatedDoc"

def ofEntries (entries : List (Value × Value)) : Reading RelatedDoc :=
  RelatedDoc.mk
    <$> Reading.required entries ["title"] Reading.text
    <*> Reading.required entries ["url"] Reading.text

def ofValue (v : Value) : Reading RelatedDoc := Reading.record model ofEntries v

def toValue (d : RelatedDoc) : Value := .record [
  ("title", .text d.title),
  ("url", .text d.url)]

end RelatedDoc

namespace Rule

/-- The severity that a value names; any other name is refused. -/
def severityOf (v : Value) : Reading Severity :=
  (Reading.display v).andThen fun text =>
    let label := plainLabel text
    match Severity.ofName? label with
    | some severity => .ok severity
    | none => .complain (.rejected (Text.quoted label ++ " is not a valid RuleSeverity"))

def categoryOf (v : Value) : Reading String := (Reading.display v).map plainLabel

/-- The trigger that a value names; anything else is a single one. -/
def triggerOf (v : Value) : Reading Trigger :=
  .ok ((Trigger.ofName? (plainLabel v.display)).getD .single)

/-- The word for this kind of record in complaints. -/
def model : String := "RuleDefinition"

/-- The names of the field that marks rules of the built-in library. -/
def builtinNames : List String := ["isBuiltin", "is_builtin"]

/-- The names of the field with the threshold. -/
def thresholdNames : List String := ["confidenceThreshold", "confidence_threshold"]

def ofEntries (entries : List (Value × Value)) : Reading Rule :=
  let percentage := Reading.integerWithin minConfidence maxConfidence
  Rule.mk
    <$> Reading.required entries ["ruleId", "rule_id"] Reading.text
    <*> Reading.required entries ["title"] Reading.text
    <*> Reading.defaulted entries ["description"] "" Reading.text
    <*> Reading.defaulted entries ["severity"] .warning severityOf
    <*> Reading.defaulted entries ["category"] "enrollment" categoryOf
    <*> Reading.defaulted entries ["version"] "1.0.0" Reading.text
    <*> Reading.defaulted entries ["author"] "" Reading.text
    <*> Reading.defaulted entries ["enabled"] true Reading.boolean
    <*> Reading.defaulted entries builtinNames false Reading.boolean
    <*> Reading.defaulted entries ["isCommunity", "is_community"] false Reading.boolean
    <*> Reading.defaulted entries ["trigger"] .single triggerOf
    <*> Reading.defaulted entries ["conditions"] [] (Reading.list Condition.ofValue)
    <*> Reading.defaulted entries ["baseConfidence", "base_confidence"] 50 percentage
    <*> Reading.defaulted entries ["confidenceFactors", "confidence_factors"] []
          (Reading.list ConfidenceFactor.ofValue)
    <*> Reading.defaulted entries thresholdNames 40 percentage
    <*> Reading.defaulted entries ["explanation"] "" Reading.text
    <*> Reading.defaulted entries ["remediationSteps", "remediation_steps", "remediation"] []
          (Reading.list Remediation.ofValue)
    <*> Reading.defaulted entries ["relatedDocs", "related_docs"] []
          (Reading.list RelatedDoc.ofValue)
    <*> Reading.defaulted entries ["tags"] [] (Reading.list Reading.text)

def ofValue (v : Value) : Reading Rule := Reading.record model ofEntries v

/-- The record of a rule, with camel case names. -/
def toValue (r : Rule) : Value := .record [
  ("ruleId", .text r.id),
  ("title", .text r.title),
  ("description", .text r.description),
  ("severity", .text r.severity.name),
  ("category", .text r.category),
  ("version", .text r.version),
  ("author", .text r.author),
  ("enabled", .bool r.enabled),
  ("isBuiltin", .bool r.isBuiltin),
  ("isCommunity", .bool r.isCommunity),
  ("trigger", .text r.trigger.name),
  ("conditions", .list (r.conditions.map Condition.toValue)),
  ("baseConfidence", .int r.baseConfidence),
  ("confidenceFactors", .list (r.factors.map ConfidenceFactor.toValue)),
  ("confidenceThreshold", .int r.threshold),
  ("explanation", .text r.explanation),
  ("remediationSteps", .list (r.remediation.map Remediation.toValue)),
  ("relatedDocs", .list (r.relatedDocs.map RelatedDoc.toValue)),
  ("tags", .list (r.tags.map .text))]

end Rule

end EnrollmentDiagnosis
