import EnrollmentDiagnosis.Evidence
import EnrollmentDiagnosis.Rule.Basic
import EnrollmentDiagnosis.Text.Numeral

set_option autoImplicit false

namespace EnrollmentDiagnosis

/-- Evidence by signal, in the order in which the signals were matched. -/
abbrev MatchedEvidence := List (String × Evidence)

namespace MatchedEvidence

def signals (m : MatchedEvidence) : List String := m.map Prod.fst

def has (m : MatchedEvidence) (signal : String) : Bool := m.signals.contains signal

/-- Sets the evidence of a signal, which keeps its place if it has one. -/
def put (m : MatchedEvidence) (signal : String) (evidence : Evidence) : MatchedEvidence :=
  match m with
  | [] => [(signal, evidence)]
  | (s, e) :: rest =>
    if s = signal then (s, evidence) :: rest else (s, e) :: put rest signal evidence

end MatchedEvidence

/-- Why a score cannot be computed. -/
inductive ScoreError where
  /-- A recorded duration is an integer beyond all floats. -/
  | durationTooLarge
  /-- A weight has too many digits to be written. -/
  | weightUnwritable
  deriving DecidableEq

def ScoreError.message : ScoreError → String
  | durationTooLarge => "int too large to convert to float"
  | weightUnwritable => Value.unwritableReason

/-- The number that a recorded duration stands for, if it is one. -/
def recordedDuration : Value → Except ScoreError (Option Number.Binary64)
  | .bool b => .ok (some (.ofInt (if b then 1 else 0)))
  | .int n =>
    let x := Number.Binary64.ofInt n
    if x.isFinite then .ok (some x) else .error .durationTooLarge
  | .float x => .ok (some x)
  | .text s => .ok (Text.decimal? s)
  | _ => .ok none

/-- The duration in evidence that has one. -/
def Evidence.duration? : Evidence → Option (Except ScoreError (Option Number.Binary64))
  | phase span => some (.ok (some (Time.seconds span.duration)))
  | install span => some (.ok (some (Time.seconds span.duration)))
  | recorded (.map entries) => (Value.find? entries "durationSeconds").map recordedDuration
  | _ => none

/-- The duration in the first evidence that has one. -/
def MatchedEvidence.firstDuration (m : MatchedEvidence) :
    Except ScoreError (Option Number.Binary64) :=
  (m.findSome? fun entry => entry.2.duration?).getD (.ok none)

/-- The signal under which a satisfied factor is marked. -/
def factorMark (signal : String) : String := "factor_" ++ signal

/-- The number of events of a type. -/
def Event.countOfType (events : List Event) (type : String) : Nat := events.countP (·.hasType type)

/-- True when the evidence and the events satisfy a factor. -/
def ConfidenceFactor.applies (factor : ConfidenceFactor) (m : MatchedEvidence)
    (events : List Event) : Except ScoreError Bool :=
  match factor.expression.test with
  | .matched => .ok (m.has factor.signal)
  | .countAtLeast n => .ok (decide (n ≤ (Event.countOfType events factor.signal : Int)))
  | .durationAbove n => m.firstDuration.map fun duration =>
    match duration with
    | some x => x.exceeds n
    | none => false
  | .unsupported => .ok false

/-- A percentage within its bounds. -/
def clampConfidence (score : Int) : Int := max minConfidence (min score maxConfidence)

namespace Rule

/-- Adds the weights of satisfied factors in turn and marks them, so that later factors see the
marks of earlier ones. Every weight that is added is written down. -/
def addFactors (events : List Event) :
    List ConfidenceFactor → Int → MatchedEvidence → Except ScoreError (Int × MatchedEvidence)
  | [], confidence, m => .ok (confidence, m)
  | factor :: rest, confidence, m =>
    match factor.applies m events with
    | .error e => .error e
    | .ok true =>
      if Value.integerIsWritable factor.weight then
        addFactors events rest (confidence + factor.weight)
          (m.put (factorMark factor.signal) .mark)
      else .error .weightUnwritable
    | .ok false => addFactors events rest confidence m

/-- The confidence of a rule with its evidence, and the evidence with the marks of its factors. -/
def score (rule : Rule) (m : MatchedEvidence) (events : List Event) :
    Except ScoreError (Int × MatchedEvidence) :=
  (addFactors events rule.factors rule.baseConfidence m).map fun (confidence, m) =>
    (clampConfidence confidence, m)

end Rule

end EnrollmentDiagnosis
