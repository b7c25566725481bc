import EnrollmentDiagnosis.Detection.Occurrence

set_option autoImplicit false

namespace EnrollmentDiagnosis

/-- What the evaluation of conditions depends on besides the events. -/
structure DetectionSetting where
  matcher : Matcher
  /-- The type of the events that report a change of phase. -/
  phaseChangeType : String
  /-- The time until which a phase without an end has lasted. -/
  now : Time.Instant

instance : Inhabited DetectionSetting := ⟨⟨Pattern.matcher, default, default⟩⟩

/-- The field with the name of the phase that is entered. -/
def defaultPhaseField : String := "espPhase"

/-- The first element that satisfies a test, with the element after it. -/
def findWithNextM? {m : Type → Type} [Monad m] {α : Type} (test : α → m Bool) :
    List α → m (Option (α × Option α))
  | [] => return none
  | a :: rest => do
    if ← test a then return some (a, rest.head?) else findWithNextM? test rest

namespace Condition

/-- The field in which a condition looks for the phase that is entered. -/
def phaseField (c : Condition) : String := (nonempty? c.dataField).getD defaultPhaseField

/-- Whether a change of phase leads into the target. -/
def checkPhase (c : Condition) (target : String) (e : Event) : Except DetectionFault Bool :=
  (e.lookUp c.phaseField).map fun
    | some phase => Text.sameFold phase target
    | none => false

/-- The span of a phase, which is never negative. -/
def phaseSpan (setting : DetectionSetting) (target : String) (entered : Event)
    (next : Option Event) : PhaseSpan :=
  let finish := match next with
    | some e => e.time
    | none => setting.now
  ⟨entered.reference, next.map Event.reference, target, max 0 (finish.since entered.time)⟩

def phaseEvidence (setting : DetectionSetting) (target : String)
    (found : Event × Option Event) : Evidence := .phase (phaseSpan setting target found.1 found.2)

/-- The phase was entered; its span lasts until the next change of phase. -/
def evaluatePhase (setting : DetectionSetting) (c : Condition) (events : List Event) :
    Except DetectionFault Outcome :=
  match Event.sort (events.filter fun e => e.hasType setting.phaseChangeType) with
  | [] => .ok (.unmatched .noPhaseEvents)
  | changes =>
    match nonempty? c.value with
    | none => .ok (.unmatched .noTargetPhase)
    | some target =>
      (findWithNextM? (c.checkPhase target) changes).map fun found =>
        .ofSearch .phaseNotFound (found.map (phaseEvidence setting target))

end Condition

end EnrollmentDiagnosis
