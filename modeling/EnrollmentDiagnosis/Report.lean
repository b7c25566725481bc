import EnrollmentDiagnosis.Diagnosis

set_option autoImplicit false

namespace EnrollmentDiagnosis

/-- The severities from the most to the least severe. -/
def Severity.ranking : List Severity := [.critical, .high, .warning, .info]

/-- The place of a severity in the ranking. -/
def Severity.rank : Severity → Nat
  | critical => 0
  | high => 1
  | warning => 2
  | info => 3

def Severity.symbol : Severity → String
  | critical => "🔴"
  | high => "🟠"
  | warning => "🟡"
  | info => "⚪"

def Severity.heading : Severity → String
  | critical => "Critical"
  | high => "High"
  | warning => "Warning"
  | info => "Info"

namespace Report

/-- True unless the second diagnosis ranks before the first: more severe ones come first, then the
more confident ones, then those whose rule has the smaller identity. -/
def inRank (a b : Diagnosis) : Bool :=
  if a.severity.rank ≠ b.severity.rank then decide (a.severity.rank < b.severity.rank)
  else if a.confidence ≠ b.confidence then decide (b.confidence < a.confidence)
  else decide (a.ruleId ≤ b.ruleId)

def ranked (diagnoses : List Diagnosis) : List Diagnosis := diagnoses.mergeSort inRank

/-- The diagnoses of one severity. -/
def ofSeverity (diagnoses : List Diagnosis) (severity : Severity) : List Diagnosis :=
  diagnoses.filter fun d => d.severity == severity

/-- The number of diagnoses of each severity that has any. -/
def counts (diagnoses : List Diagnosis) : List (Severity × Nat) :=
  (Severity.ranking.map fun severity => (severity, (ofSeverity diagnoses severity).length)).filter
    fun (_, count) => count != 0

def summary (diagnoses : List Diagnosis) : String :=
  if diagnoses.isEmpty then "✅ No issues detected"
  else
    let noun := if diagnoses.length = 1 then " issue" else " issues"
    let parts := (counts diagnoses).map fun (severity, count) =>
      integerText count ++ " " ++ severity.name
    "🚨 " ++ integerText diagnoses.length ++ noun ++ " detected: " ++ Value.joined parts

/-- Lines numbered from one. -/
def numberedSteps : Nat → List String → String
  | _, [] => ""
  | n, step :: rest => "  " ++ integerText n ++ ". " ++ step ++ "\n" ++ numberedSteps (n + 1) rest

def remediationText (r : Remediation) : String :=
  "- **" ++ r.title ++ "**\n" ++ numberedSteps 1 r.steps

def relatedDocText (d : RelatedDoc) : String := "- [" ++ d.title ++ "](" ++ d.url ++ ")\n"

/-- A heading with its items, unless there are none. -/
def block {α : Type} (heading : String) (text : α → String) (items : List α) : String :=
  if items.isEmpty then "" else heading ++ "\n" ++ String.join (items.map text) ++ "\n"

/-- One diagnosis. -/
def entry (d : Diagnosis) : String :=
  "### " ++ d.ruleTitle ++ " (`" ++ d.ruleId ++ "`)\n" ++
    "**Confidence:** " ++ integerText d.confidence ++ "% | **Category:** " ++ d.category ++
    "\n\n" ++
    (if d.explanation = "" then "" else Text.strip d.explanation ++ "\n\n") ++
    block "**How to fix:**" remediationText d.remediation ++
    block "**Related documentation:**" relatedDocText d.relatedDocs

/-- The section of one severity, unless it is empty. -/
def sectionText (diagnoses : List Diagnosis) (severity : Severity) : String :=
  match ofSeverity diagnoses severity with
  | [] => ""
  | group =>
    "## " ++ severity.symbol ++ " " ++ severity.heading ++ " Severity\n\n" ++
      String.join (group.map entry)

def title : String := "# Enrollment Analysis\n\n"

/-- The whole report. -/
def markdown (diagnoses : List Diagnosis) : String :=
  if diagnoses.isEmpty then title ++ "✅ No issues detected for this session."
  else
    let inOrder := ranked diagnoses
    Text.stripEnd (title ++ summary inOrder ++ "\n\n" ++
      String.join (Severity.ranking.map (sectionText inOrder))) ++ "\n"

end Report

end EnrollmentDiagnosis
