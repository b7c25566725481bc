import EnrollmentDiagnosis.Detection.Dispatch
import EnrollmentDiagnosis.Proofs.AccountedErrors
import EnrollmentDiagnosis.Proofs.FieldTexts

set_option autoImplicit false

namespace EnrollmentDiagnosis

/-- The first element that satisfies a test, with the element after it. -/
def findWithNext? {α : Type} (test : α → Bool) : List α → Option (α × Option α)
  | [] => none
  | a :: rest => if test a then some (a, rest.head?) else findWithNext? test rest

theorem Answers.findWithNextM? {ε α : Type} {accounted : ε → Prop} {check : α → Except ε Bool}
    {test : α → Bool} {l : List α} (each : ∀ a ∈ l, Answers accounted (check a) (test a)) :
    Answers accounted (EnrollmentDiagnosis.findWithNextM? check l) (findWithNext? test l) := by
  induction l with
  | nil => exact ok accounted none
  | cons a rest ih =>
    obtain ⟨here, others⟩ := List.forall_mem_cons.mp each
    refine here.bind ?_
    unfold findWithNext?
    cases test a with
    | true => exact ok accounted (some (a, rest.head?))
    | false => exact ih others

namespace Event

/-- The app that an event is about: the first identifying field that is not blank. -/
def appKey? (e : Event) : Option String :=
  appKeyFields.findSome? fun name => (e.field? name).filter fun value => Text.strip value != ""

/-- True when an event is about the app with a key. -/
def isAbout (e : Event) (appKey : String) : Bool :=
  match e.appKey? with
  | some key => Text.sameFold key appKey
  | none => false

/-- The last start of an app up to a time, where starts are ordered by time. -/
def latestStart? (starts : List Event) (time : Time.Instant) (appKey : String) : Option Event :=
  ((starts.takeWhile fun e => decide (e.time ≤ time)).filter (·.isAbout appKey)).getLast?

end Event

/-- True when an event passes a filter. -/
def Filter.passes (matcher : Matcher) (f : Filter) (e : Event) : Bool :=
  match nonempty? f.field with
  | some field => Operator.accepts matcher f.operator (e.field? field) f.value
  | none => true

/-- The patterns that a filter can search for. -/
def Filter.SearchesFor (f : Filter) (pattern : String) : Prop :=
  (nonempty? f.field).isSome = true ∧ f.operator = some .regex ∧ f.value = some pattern

namespace Condition

/-- The text of the field that a condition looks at. -/
def fieldOf? (c : Condition) (e : Event) : Option String := c.dataField.bind e.field?

/-- True when the field of an event satisfies the operator of a condition. -/
def acceptsField (matcher : Matcher) (c : Condition) (e : Event) : Bool :=
  Operator.accepts matcher c.operator (c.fieldOf? e) c.value

/-- The evidence of the first event whose field satisfies the operator. -/
def fieldMatch? (matcher : Matcher) (c : Condition) (events : List Event) : Option Evidence :=
  (events.find? (c.acceptsField matcher)).map fun e => c.fieldEvidence e (c.fieldOf? e)

/-- The outcome of a condition on events of a type. -/
def detectOccurrence (matcher : Matcher) (c : Condition) (events : List Event) : Outcome :=
  match Event.ofType events c.eventType with
  | [] => .unmatched .noMatchingEvents
  | first :: rest =>
    if (nonempty? c.dataField).isSome then
      .ofSearch .fieldNotMatched (c.fieldMatch? matcher (first :: rest))
    else .matched (.occurrence first.reference (rest.length + 1))

/-- The outcome of a condition on a field. -/
def detectData (matcher : Matcher) (c : Condition) (events : List Event) : Outcome :=
  .ofSearch .noMatchingData (c.fieldMatch? matcher (Event.ofType events c.eventType))

/-- True for a change of phase into the target. -/
def entersPhase (c : Condition) (target : String) (e : Event) : Bool :=
  match e.field? c.phaseField with
  | some phase => Text.sameFold phase target
  | none => false

/-- The outcome of a condition on a phase. -/
def detectPhase (setting : DetectionSetting) (c : Condition) (events : List Event) : Outcome :=
  match Event.sort (events.filter fun e => e.hasType setting.phaseChangeType) with
  | [] => .unmatched .noPhaseEvents
  | changes =>
    match nonempty? c.value with
    | none => .unmatched .noTargetPhase
    | some target =>
      .ofSearch .phaseNotFound
        ((findWithNext? (c.entersPhase target) changes).map (phaseEvidence setting target))

def installSpan (start completion : Event) (appKey : String) : InstallSpan :=
  let named := (nonempty? (completion.field? "appName")).or (nonempty? (completion.field? "name"))
  { start := start.reference
    completion := completion.reference
    appId := (completion.field? "appId").getD ""
    appName := named.getD appKey
    duration := installDuration start completion }

/-- The span of a completed installation whose duration satisfies the operator. -/
def installOf? (matcher : Matcher) (c : Condition) (starts : List Event) (completion : Event) :
    Option InstallSpan := do
  let appKey ← completion.appKey?
  let start ← Event.latestStart? starts completion.time appKey
  if Operator.accepts matcher c.operator (some (installSeconds start completion)) c.value then
    some (installSpan start completion appKey)
  else none

/-- The outcome of a condition on installations. -/
def detectInstall (matcher : Matcher) (c : Condition) (events : List Event) : Outcome :=
  let ordered := Event.sort events
  let starts := ordered.filter (·.hasTypeIn installStartTypes)
  let completions := ordered.filter (·.hasTypeIn c.completionTypes)
  .ofSearch .noInstallMatched
    ((completions.findSome? (c.installOf? matcher starts)).map .install)

/-- True when an event goes with another one whose join field has the given text. -/
def pairsWith (c : Condition) (joinField joinValue : String) (a b : Event) : Bool :=
  b.id != a.id &&
    (match b.field? joinField with
      | some value => Text.sameFold value joinValue
      | none => false) &&
    c.inWindow (b.time.since a.time)

/-- The first pair with the given first event. -/
def pairFor? (c : Condition) (joinField : String) (candidates : List Event) (a : Event) :
    Option Correlation := do
  let joinValue ← nonempty? (a.field? joinField)
  let b ← candidates.find? (c.pairsWith joinField joinValue a)
  some (correlationOf joinField joinValue a b)

/-- The outcome of a condition on two types of events. -/
def detectCorrelation (matcher : Matcher) (c : Condition) (events : List Event) : Outcome :=
  match nonempty? c.eventType, nonempty? c.correlateEventType, nonempty? c.joinField with
  | some typeA, some typeB, some joinField =>
    match (Event.ofType events (some typeA)).filter (c.filterA.passes matcher) with
    | [] => .unmatched .noEventA
    | candidatesA =>
      match (Event.ofType events (some typeB)).filter (c.filterB.passes matcher) with
      | [] => .unmatched .noEventB
      | candidatesB =>
        .ofSearch .noCorrelatedPair
          ((candidatesA.findSome? (c.pairFor? joinField candidatesB)).map .correlation)
  | _, _, _ => .unmatched .incompleteCorrelation

/-- The outcome of a condition, if integers were written without a limit and no search for a pattern
ended with an error. -/
def detect (setting : DetectionSetting) (c : Condition) (events : List Event) : Outcome :=
  match c.source with
  | .eventType => c.detectOccurrence setting.matcher events
  | .eventData => c.detectData setting.matcher events
  | .eventCount => c.detectCount events
  | .phaseDuration => c.detectPhase setting events
  | .appInstallDuration => c.detectInstall setting.matcher events
  | .eventCorrelation => c.detectCorrelation setting.matcher events
  | .unknown => .unmatched .unknownSource

/-- The fields of an event that an evaluation can look up. -/
def LooksUp (setting : DetectionSetting) (c : Condition) (e : Event) (name : String) : Prop :=
  match c.source with
  | .eventType | .eventData => e.hasTypeIn c.eventType.toList = true ∧ c.dataField = some name
  | .phaseDuration => e.hasType setting.phaseChangeType = true ∧ name = c.phaseField
  | .appInstallDuration =>
    (e.hasTypeIn installStartTypes = true ∨ e.hasTypeIn c.completionTypes = true) ∧
      name ∈ appKeyFields
  | .eventCorrelation =>
    e.hasTypeIn c.eventType.toList = true ∧
        (c.eventAFilterField = some name ∨ c.joinField = some name) ∨
      e.hasTypeIn c.correlateEventType.toList = true ∧
        (c.dataField = some name ∨ c.joinField = some name)
  | .eventCount | .unknown => False

/-- The patterns that an evaluation can search for. -/
def SearchesFor (c : Condition) (pattern : String) : Prop :=
  match c.source with
  | .eventType | .eventData => c.filterB.SearchesFor pattern
  | .appInstallDuration => c.operator = some .regex ∧ c.value = some pattern
  | .eventCorrelation => c.filterA.SearchesFor pattern ∨ c.filterB.SearchesFor pattern
  | .phaseDuration | .eventCount | .unknown => False

/-- What can keep a condition from being evaluated. -/
inductive Hindered (setting : DetectionSetting) (c : Condition) (events : List Event) :
    DetectionFault → Prop
  /-- A field that is looked up cannot be written. -/
  | illegible {e : Event} {name : String} (member : e ∈ events)
      (looked : c.LooksUp setting e name) (illegible : e.isLegible name = false) :
      Hindered setting c events .unwritable
  /-- A pattern cannot be searched for. -/
  | refused {pattern message : String} (searched : c.SearchesFor pattern)
      (refused : setting.matcher pattern = .error message) :
      Hindered setting c events (.search message)

/-- A condition is evaluated and matches. -/
def Matches (setting : DetectionSetting) (events : List Event) (c : Condition) : Prop :=
  ∃ evidence, c.evaluate setting events = .ok (.matched evidence)

/-- A condition does not match: it is evaluated without evidence, or something hinders that. -/
def Misses (setting : DetectionSetting) (c : Condition) (events : List Event) : Prop :=
  (∃ reason, c.evaluate setting events = .ok (.unmatched reason)) ∨
    ∃ fault, c.evaluate setting events = .error fault ∧ c.Hindered setting events fault

/-- An evaluation ends at a field that holds an integer with too many digits to be written. -/
def Unwritten (setting : DetectionSetting) (c : Condition) (events : List Event) : Prop :=
  c.evaluate setting events = .error .unwritable ∧
    ∃ e ∈ events, ∃ name, c.LooksUp setting e name ∧ e.isLegible name = false

theorem Hindered.mono {setting : DetectionSetting} {c : Condition} {events more : List Event}
    {fault : DetectionFault} (hindered : c.Hindered setting events fault) (part : events ⊆ more) :
    c.Hindered setting more fault := by
  cases hindered with
  | illegible member looked illegible => exact .illegible (part member) looked illegible
  | refused searched refused => exact .refused searched refused

end Condition

end EnrollmentDiagnosis
