import EnrollmentDiagnosis.Detection.Dispatch
import EnrollmentDiagnosis.Diagnosis

set_option autoImplicit false

namespace EnrollmentDiagnosis

/-- A way of evaluating conditions against events, which may fail with a message. -/
abbrev Evaluator := Condition → List Event → Except String Outcome

/-- The evaluator for every source of signals. -/
def Condition.evaluator (setting : DetectionSetting) : Evaluator :=
  fun c events => (c.evaluate setting events).mapError DetectionFault.message

namespace Rule

/-- The evidence of the conditions that match, or none if a required one does not. -/
def matchConditions (evaluate : Evaluator) (events : List Event) :
    List Condition → MatchedEvidence → Except String (Option MatchedEvidence)
  | [], m => .ok (some m)
  | c :: rest, m =>
    match evaluate c events with
    | .error e => .error e
    | .ok outcome =>
      match outcome.evidence? with
      | some evidence => matchConditions evaluate events rest (m.put c.signal evidence)
      | none => if c.required then .ok none else matchConditions evaluate events rest m

/-- The diagnosis of a rule: every required condition matches, and the confidence reaches the
threshold. -/
def evaluate (stamp : Stamp) (evaluator : Evaluator) (rule : Rule) (events : List Event) :
    Except String (Option Diagnosis) :=
  match matchConditions evaluator events rule.conditions [] with
  | .error e => .error e
  | .ok none => .ok none
  | .ok (some m) =>
    match rule.score m events with
    | .error e => .error e.message
    | .ok (confidence, m) =>
      if confidence < rule.threshold then .ok none
      else .ok (some (Diagnosis.ofRule stamp rule confidence m))

/-- The conditions of a rule whose evaluation is reached. -/
def reachedConditions (evaluate : Evaluator) (events : List Event) : List Condition → List Condition
  | [] => []
  | c :: rest =>
    match evaluate c events with
    | .error _ => [c]
    | .ok outcome =>
      if c.required && !outcome.isMatch then [c] else c :: reachedConditions evaluate events rest

end Rule

namespace Analysis

/-- The rules that an analysis evaluates: the first enabled rule of each identity that is not among
those to skip. -/
def selected : List Rule → List String → List Rule
  | [], _ => []
  | rule :: rest, skip =>
    if !rule.enabled || skip.contains rule.id then selected rest skip
    else rule :: selected rest (rule.id :: skip)

/-- How rules are evaluated, and how their diagnoses are stamped. -/
structure Engine where
  evaluator : Evaluator
  /-- The stamp for the diagnosis of the rule with an identity. -/
  stampFor : String → Stamp

/-- The outcome of evaluating a rule. -/
def Engine.evaluate (engine : Engine) (events : List Event) (rule : Rule) :
    Except String (Option Diagnosis) :=
  rule.evaluate (engine.stampFor rule.id) engine.evaluator events

/-- The diagnoses of the rules that fire, in the order of the rules. -/
def analyze (engine : Engine) (rules : List Rule) (events : List Event) (evaluated : List String) :
    List Diagnosis :=
  if events.isEmpty then []
  else
    let ordered := Event.sort events
    (selected rules evaluated).filterMap fun rule =>
      match engine.evaluate ordered rule with
      | .ok diagnosis => diagnosis
      | .error _ => none

/-- What is noted while a rule is evaluated: conditions without a known source, and a failure. -/
def ruleNotices (engine : Engine) (events : List Event) (rule : Rule) : List String :=
  (Rule.reachedConditions engine.evaluator events rule.conditions).filterMap
      (fun c => match engine.evaluator c events with
        | .ok _ => c.sourceNotice?
        | .error _ => none) ++
    match engine.evaluate events rule with
    | .ok _ => []
    | .error e => ["Error evaluating rule " ++ rule.id ++ ": " ++ e]

/-- What is noted of a number of events beyond the expected one. -/
def sizeNotices (maxEvents : Int) (count : Nat) : List String :=
  if maxEvents < (count : Int) then
    ["Session has " ++ integerText count ++ " events, more than the expected maximum of " ++
      integerText maxEvents]
  else []

/-- What is noted during an analysis. More events than expected are noted and still evaluated. -/
def notices (engine : Engine) (maxEvents : Int) (rules : List Rule) (events : List Event)
    (evaluated : List String) : List String :=
  if events.isEmpty then []
  else
    let ordered := Event.sort events
    sizeNotices maxEvents ordered.length ++
      (selected rules evaluated).flatMap (ruleNotices engine ordered)

end Analysis

end EnrollmentDiagnosis
