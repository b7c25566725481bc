import EnrollmentDiagnosis.Rule.Record
import EnrollmentDiagnosis.Yaml.Load

set_option autoImplicit false

namespace EnrollmentDiagnosis

namespace RuleBook

/-- What keeps a rule that can be read from working as intended. -/
inductive Problem where
  | noConditions
  | unknownSource (signal : String)
  | unknownOperator (signal : String)
  | noValue (signal : String) (operator : Operator)
  | noFilterValue (signal : String)
  | noJoinField (signal : String)
  | unsupportedFactor (signal condition : String)
  deriving DecidableEq

/-- A text as code in a message. -/
def code (s : String) : String := "`" ++ s ++ "`"

namespace Problem

def message : Problem → String
  | noConditions => "Rule has no conditions"
  | unknownSource signal =>
    "Condition " ++ code signal ++ " has an unknown source, expected one of: " ++
      Value.joined (Source.known.map fun source => code source.name)
  | unknownOperator signal => "Condition " ++ code signal ++ " has an unknown operator"
  | noValue signal operator =>
    "Condition " ++ code signal ++ " uses " ++ code operator.name ++ " without a " ++ code "value"
  | noFilterValue signal =>
    "Correlation condition " ++ code signal ++ " filters event A without a value"
  | noJoinField signal =>
    "Correlation condition " ++ code signal ++ " needs a " ++ code "join_field"
  | unsupportedFactor signal condition =>
    "Confidence factor " ++ code signal ++ " has an unsupported condition " ++ code condition

end Problem

/-- The operator that lacks a value to compare with, if it needs one. -/
def lacksValue (operator : Option Operator) (value : Option String) : Option Operator :=
  match operator, value with
  | some operator, none => if operator.needsValue then some operator else none
  | _, _ => none

end RuleBook

open RuleBook

/-- The problems of a condition. -/
def Condition.problems (c : Condition) : List Problem :=
  (if c.source = .unknown then [.unknownSource c.signal] else []) ++
  (if c.operator = some .unknown then [.unknownOperator c.signal] else []) ++
  (match lacksValue c.operator c.value with
    | some operator => [.noValue c.signal operator]
    | none => []) ++
  (match lacksValue c.eventAFilterOperator c.eventAFilterValue with
    | some _ => [.noFilterValue c.signal]
    | none => []) ++
  (if c.source = .eventCorrelation ∧ c.joinField.getD "" = "" then [.noJoinField c.signal] else [])

/-- The problem of a factor whose test is not supported. -/
def ConfidenceFactor.problems (f : ConfidenceFactor) : List Problem :=
  if f.expression.test = .unsupported then [.unsupportedFactor f.signal f.condition] else []

/-- The problems of a rule, its conditions and its factors. -/
def Rule.problems (rule : Rule) : List Problem :=
  (if rule.conditions.isEmpty then [.noConditions] else []) ++
    rule.conditions.flatMap Condition.problems ++ rule.factors.flatMap ConfidenceFactor.problems

namespace RuleBook

/-- What validation finds. Entries are counted from one. -/
inductive Verdict where
  | malformed
  | noRulesKey
  | notList
  | noRules
  | unreadable (position : Nat) (reason : String)
  | reusedId (position : Nat) (id : String)
  | flawed (id : String) (problems : List Problem)
  | valid (count : Nat)
  deriving DecidableEq

namespace Verdict

/-- True for the verdicts on documents that may be added. -/
def success : Verdict → Bool
  | noRules => true
  | valid _ => true
  | _ => false

/-- A document as it should be. -/
def exampleDocument : String :=
  "```yaml\n" ++
  "rules:\n" ++
  "  - rule_id: CUSTOM-001\n" ++
  "    title: Proxy authentication required\n" ++
  "    severity: high\n" ++
  "    category: network\n" ++
  "    conditions:\n" ++
  "      - signal: http_407_error\n" ++
  "        source: event_type\n" ++
  "        event_type: error_detected\n" ++
  "        data_field: errorCode\n" ++
  "        operator: contains\n" ++
  "        value: \"407\"\n" ++
  "        required: true\n" ++
  "```\n"

/-- The message about a verdict, in markdown. -/
def message : Verdict → String
  | malformed =>
    "❌ **Failed to parse rules YAML**\n\n" ++
      "Error details: " ++ code (Yaml.LoadError.message .malformed) ++ "\n\n" ++
      "**How to fix:**\n" ++
      "- Ensure your YAML is valid.\n" ++
      "- Check for indentation, missing colons, or invalid syntax."
  | noRulesKey =>
    "❌ **Invalid rules YAML: missing top-level " ++ code "rules:" ++ " key**\n\n" ++
      "Your file must start with a " ++ code "rules:" ++ " key, like:\n" ++ exampleDocument
  | notList =>
    "❌ **Invalid rules YAML: " ++ code "rules" ++ " must be a list**\n\nExample:\n" ++
      exampleDocument
  | noRules => "✅ **Rules YAML is valid but contains no rules.**"
  | unreadable position reason =>
    "❌ **Rule #" ++ integerText position ++ " failed validation**\n\n" ++
      "Error: " ++ code reason ++ "\n\n" ++
      "Please check your rule definition and fix the error above."
  | reusedId position id =>
    "❌ **Rule #" ++ integerText position ++ " reuses rule id " ++ code id ++
      "**\n\nRule ids must be unique."
  | flawed id problems =>
    "❌ **Rule " ++ code id ++ " failed validation**\n\n" ++
      String.intercalate "\n" (problems.map fun problem => "- " ++ problem.message)
  | valid count => "✅ **Rules YAML is valid and contains " ++ integerText count ++ " rules.**"

/-- The verdict on the entries from a position on, none if all are right. -/
def ofEntries? : Nat → List String → List Value → Option Verdict
  | _, _, [] => none
  | position, seen, entry :: rest =>
    match Rule.ofValue entry with
    | .invalid errors => some (unreadable position (errorReport Rule.model errors))
    | .broken fault => some (unreadable position fault.message)
    | .ok rule =>
      if seen.contains rule.id then some (reusedId position rule.id)
      else match rule.problems with
        | [] => ofEntries? (position + 1) (rule.id :: seen) rest
        | problems => some (flawed rule.id problems)

/-- The verdict on a loaded document. -/
def ofContent : Value → Verdict
  | .map fields =>
    match Value.find? fields "rules" with
    | none => noRulesKey
    | some (.list []) => noRules
    | some (.list entries) => (ofEntries? 1 [] entries).getD (valid entries.length)
    | some _ => notList
  | _ => noRulesKey

/-- The verdict on what was loaded. Only what is malformed is told; other errors are errors here
too. -/
def ofLoaded : Except Yaml.LoadError Value → Except Yaml.LoadError Verdict
  | .error .malformed => .ok malformed
  | .error e => .error e
  | .ok content => .ok (ofContent content)

end Verdict

/-- Validates the text of a rules document. A scalar that cannot be made a value of its type is an
error and no verdict. -/
def validate (text : String) : Except Yaml.LoadError Verdict := Verdict.ofLoaded (Yaml.load text)

/-- Validates a text on a stack of limited size. -/
def validateOn (stack : Yaml.Stack) (text : String) : Except Yaml.LoadError Verdict :=
  Verdict.ofLoaded (Yaml.loadOn stack text)

end RuleBook

end EnrollmentDiagnosis
