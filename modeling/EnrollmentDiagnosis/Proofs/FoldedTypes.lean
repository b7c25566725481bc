import EnrollmentDiagnosis.Proofs.CaseFolding
import EnrollmentDiagnosis.Proofs.DetectionCriteria
import EnrollmentDiagnosis.Proofs.DiagnosisStamps
import EnrollmentDiagnosis.Readiness
import Mathlib.Data.List.Forall2

set_option autoImplicit false

namespace EnrollmentDiagnosis

/-- The event with its type folded. -/
def Event.folded (e : Event) : Event := { e with type := Text.fold e.type }

/-- The condition with the types that it names folded. -/
def Condition.folded (c : Condition) : Condition :=
  { c with
    eventType := c.eventType.map Text.fold
    correlateEventType := c.correlateEventType.map Text.fold }

/-- The rule with the types in its conditions folded. -/
def Rule.folded (rule : Rule) : Rule :=
  { rule with conditions := rule.conditions.map Condition.folded }

/-- The setting with the type of phase changes folded. -/
def DetectionSetting.folded (setting : DetectionSetting) : DetectionSetting :=
  { setting with phaseChangeType := Text.fold setting.phaseChangeType }

def EventReference.folded (r : EventReference) : EventReference :=
  { r with type := Text.fold r.type }

def PhaseSpan.folded (span : PhaseSpan) : PhaseSpan :=
  { span with start := span.start.folded, finish := span.finish.map EventReference.folded }

def InstallSpan.folded (span : InstallSpan) : InstallSpan :=
  { span with start := span.start.folded, completion := span.completion.folded }

def Correlation.folded (pair : Correlation) : Correlation :=
  { pair with eventA := pair.eventA.folded, eventB := pair.eventB.folded }

/-- The evidence with the types of its events folded. -/
def Evidence.folded : Evidence → Evidence
  | occurrence event count => occurrence event.folded count
  | fieldMatch event field value => fieldMatch event.folded field value
  | tally first count threshold => tally (first.map EventReference.folded) count threshold
  | phase span => phase span.folded
  | install span => install span.folded
  | correlation pair => correlation pair.folded
  | mark => mark
  | recorded v => recorded v

def Outcome.folded : Outcome → Outcome
  | matched evidence => matched evidence.folded
  | unmatched reason => unmatched reason

def MatchedEvidence.folded (m : MatchedEvidence) : MatchedEvidence :=
  m.map fun (signal, evidence) => (signal, evidence.folded)

/-- The diagnosis with the types of the events in its evidence folded. -/
def Diagnosis.folded (d : Diagnosis) : Diagnosis := { d with evidence := d.evidence.folded }

namespace Event

@[simp] theorem hasType_folded_left (e : Event) (type : String) :
    e.folded.hasType type = e.hasType type := by
  simp only [hasType, folded, Text.sameFold_fold_left]

@[simp] theorem hasType_folded_right (e : Event) (type : String) :
    e.hasType (Text.fold type) = e.hasType type := by
  have empty : (Text.fold type != "") = (type != "") := by
    rw [Bool.eq_iff_iff, bne_iff_ne, bne_iff_ne, ne_eq, ne_eq, Text.fold_eq_empty_iff]
  simp only [hasType, Text.sameFold_fold_right, empty]

/-- A test that ignores folding keeps the same events. -/
theorem filter_folded {test other : Event → Bool} (same : ∀ e, other e.folded = test e)
    (events : List Event) :
    (events.map folded).filter other = (events.filter test).map folded := by
  rw [List.filter_map]
  congr 1
  exact List.filter_congr fun e _ => same e

theorem ofType_folded (events : List Event) (type : Option String) :
    ofType (events.map folded) (type.map Text.fold) = (ofType events type).map folded := by
  cases type with
  | none => rfl
  | some type =>
    apply filter_folded
    intro e
    rw [hasType_folded_left, hasType_folded_right]

theorem sort_folded (events : List Event) :
    sort (events.map folded) = (sort events).map folded := by
  have order : ∀ a ∈ events, ∀ b ∈ events, inOrder a b = inOrder a.folded b.folded :=
    fun _ _ _ _ => rfl
  exact (List.map_mergeSort order).symm

end Event

theorem nonempty?_fold (type : Option String) :
    nonempty? (type.map Text.fold) = (nonempty? type).map Text.fold := by
  cases type with
  | none => rfl
  | some type =>
    by_cases empty : type = ""
    · subst empty
      rfl
    · have given : Text.fold type ≠ "" := fun folded => empty (Text.fold_eq_empty_iff.mp folded)
      rw [Option.map_some, nonempty?_of_ne given, nonempty?_of_ne empty, Option.map_some]

section Searches

variable {ε α β γ δ : Type} {f : α → γ}

/-- A search that maps what it finds commutes with a map of the list. -/
theorem findSomeM?_map {g : β → δ} {look : α → Except ε (Option β)}
    {other : γ → Except ε (Option δ)}
    (commutes : ∀ a, other (f a) = (look a).map (Option.map g)) (l : List α) :
    (l.map f).findSomeM? other = (l.findSomeM? look).map (Option.map g) := by
  induction l with
  | nil => rfl
  | cons a rest ih =>
    rw [List.map_cons, List.findSomeM?, List.findSomeM?, commutes]
    cases look a with
    | error fault => rfl
    | ok found =>
      cases found with
      | none => exact ih
      | some b => rfl

variable {check : α → Except ε Bool} {other : γ → Except ε Bool}
  (same : ∀ a, other (f a) = check a)

include same

theorem findM?_map (l : List α) :
    (l.map f).findM? other = (l.findM? check).map (Option.map f) := by
  induction l with
  | nil => rfl
  | cons a rest ih =>
    rw [List.map_cons, List.findM?, List.findM?, same]
    cases check a with
    | error fault => rfl
    | ok verdict =>
      cases verdict with
      | false => exact ih
      | true => rfl

theorem findWithNextM?_map (l : List α) :
    findWithNextM? other (l.map f) =
      (findWithNextM? check l).map (Option.map fun found => (f found.1, found.2.map f)) := by
  induction l with
  | nil => rfl
  | cons a rest ih =>
    rw [List.map_cons, findWithNextM?, findWithNextM?, same]
    cases check a with
    | error fault => rfl
    | ok verdict =>
      cases verdict with
      | false => exact ih
      | true =>
        rw [List.head?_map]
        rfl

theorem filterAuxM_map (l kept : List α) :
    (l.map f).filterAuxM other (kept.map f) = (l.filterAuxM check kept).map (List.map f) := by
  induction l generalizing kept with
  | nil => rfl
  | cons a rest ih =>
    rw [List.map_cons, List.filterAuxM, List.filterAuxM, same]
    cases check a with
    | error fault => rfl
    | ok verdict =>
      cases verdict with
      | false => exact ih kept
      | true => exact ih (a :: kept)

theorem filterM_map (l : List α) :
    (l.map f).filterM other = (l.filterM check).map (List.map f) := by
  have gathered : (l.map f).filterAuxM other [] = (l.filterAuxM check []).map (List.map f) :=
    filterAuxM_map same l []
  rw [List.filterM, List.filterM, gathered]
  cases l.filterAuxM check [] with
  | error fault => rfl
  | ok kept => exact congrArg Except.ok List.map_reverse.symm

end Searches

namespace Condition

variable (setting : DetectionSetting) (c : Condition) (events : List Event)

theorem ofType_folded : Event.ofType (events.map Event.folded) c.folded.eventType =
    (Event.ofType events c.eventType).map Event.folded := Event.ofType_folded events c.eventType

theorem Outcome.ofSearch_folded (reason : Reason) (found : Option Evidence) :
    Outcome.ofSearch reason (found.map Evidence.folded) =
      (Outcome.ofSearch reason found).folded := by
  cases found <;> rfl

theorem examineField_folded (matcher : Matcher) (e : Event) :
    c.folded.examineField matcher e.folded =
      (c.examineField matcher e).map (Option.map Evidence.folded) := by
  have field : c.folded.lookUpField e.folded = c.lookUpField e := rfl
  have compared (text : Option String) :
      Operator.check matcher c.folded.operator text c.folded.value =
        Operator.check matcher c.operator text c.value := rfl
  unfold examineField
  rw [field]
  cases c.lookUpField e with
  | error fault => rfl
  | ok text =>
    show (Operator.check matcher c.folded.operator text c.folded.value >>= _) =
      (Operator.check matcher c.operator text c.value >>= _).map _
    rw [compared]
    cases Operator.check matcher c.operator text c.value with
    | error fault => rfl
    | ok verdict => cases verdict <;> rfl

theorem evaluateOccurrence_folded (matcher : Matcher) :
    c.folded.evaluateOccurrence matcher (events.map Event.folded) =
      (c.evaluateOccurrence matcher events).map Outcome.folded := by
  have field : c.folded.dataField = c.dataField := rfl
  unfold evaluateOccurrence
  rw [ofType_folded, field]
  cases Event.ofType events c.eventType with
  | nil => rfl
  | cons first rest =>
    have found := findSomeM?_map (c.examineField_folded matcher) (first :: rest)
    rw [List.map_cons] at found ⊢
    dsimp only
    rw [found, List.length_map]
    split
    · cases (first :: rest).findSomeM? (c.examineField matcher) with
      | error fault => rfl
      | ok evidence => exact congrArg Except.ok (Outcome.ofSearch_folded _ evidence)
    · rfl

theorem evaluateData_folded (matcher : Matcher) :
    c.folded.evaluateData matcher (events.map Event.folded) =
      (c.evaluateData matcher events).map Outcome.folded := by
  unfold evaluateData
  rw [ofType_folded, findSomeM?_map (c.examineField_folded matcher)]
  cases (Event.ofType events c.eventType).findSomeM? (c.examineField matcher) with
  | error fault => rfl
  | ok evidence => exact congrArg Except.ok (Outcome.ofSearch_folded _ evidence)

theorem detectCount_folded :
    c.folded.detectCount (events.map Event.folded) = (c.detectCount events).folded := by
  have threshold : c.folded.countThreshold? = c.countThreshold? := rfl
  unfold detectCount
  rw [ofType_folded, threshold]
  dsimp only
  rw [List.length_map, List.head?_map]
  cases c.countThreshold? with
  | none => rfl
  | some threshold =>
    dsimp only
    split
    · rfl
    · cases (Event.ofType events c.eventType).head? <;> rfl

theorem phaseEvidence_folded (target : String) (found : Event × Option Event) :
    phaseEvidence setting.folded target (found.1.folded, found.2.map Event.folded) =
      (phaseEvidence setting target found).folded := by
  obtain ⟨entered, next⟩ := found
  cases next <;> rfl

theorem evaluatePhase_folded :
    c.folded.evaluatePhase setting.folded (events.map Event.folded) =
      (c.evaluatePhase setting events).map Outcome.folded := by
  have changes : (events.map Event.folded).filter
      (fun e => e.hasType setting.folded.phaseChangeType) =
        (events.filter fun e => e.hasType setting.phaseChangeType).map Event.folded := by
    apply Event.filter_folded
    intro e
    rw [DetectionSetting.folded, Event.hasType_folded_left, Event.hasType_folded_right]
  have value : c.folded.value = c.value := rfl
  unfold evaluatePhase
  rw [changes, Event.sort_folded, value]
  cases Event.sort (events.filter fun e => e.hasType setting.phaseChangeType) with
  | nil => rfl
  | cons first rest =>
    rw [List.map_cons]
    dsimp only
    cases nonempty? c.value with
    | none => rfl
    | some target =>
      have entered : ∀ e : Event, c.folded.checkPhase target e.folded = c.checkPhase target e :=
        fun _ => rfl
      have found := findWithNextM?_map entered (first :: rest)
      rw [List.map_cons] at found
      dsimp only
      rw [found]
      cases findWithNextM? (c.checkPhase target) (first :: rest) with
      | error fault => rfl
      | ok found =>
        have span : (found.map fun found => (found.1.folded, found.2.map Event.folded)).map
            (phaseEvidence setting.folded target) =
              (found.map (phaseEvidence setting target)).map Evidence.folded := by
          cases found with
          | none => rfl
          | some found => exact congrArg some (phaseEvidence_folded setting target found)
        have outcome := Outcome.ofSearch_folded .phaseNotFound
          (found.map (phaseEvidence setting target))
        rw [← span] at outcome
        exact congrArg Except.ok outcome

theorem hasTypeIn_folded (e : Event) (types : List String) :
    e.folded.hasTypeIn types = e.hasTypeIn types := by
  have same : e.folded.hasType = e.hasType := funext e.hasType_folded_left
  rw [Event.hasTypeIn, same, Event.hasTypeIn]

theorem hasTypeIn_completionTypes_folded (e : Event) :
    e.folded.hasTypeIn c.folded.completionTypes = e.hasTypeIn c.completionTypes := by
  rw [hasTypeIn_folded]
  unfold completionTypes
  have types : nonempty? c.folded.eventType = (nonempty? c.eventType).map Text.fold :=
    nonempty?_fold c.eventType
  rw [types]
  cases nonempty? c.eventType with
  | none => rfl
  | some type =>
    simp only [Option.map_some, Event.hasTypeIn, List.any_cons, List.any_nil,
      Event.hasType_folded_right]

theorem findLatestStart_folded (starts : List Event) (time : Time.Instant) (appKey : String) :
    Event.findLatestStart (starts.map Event.folded) time appKey =
      (Event.findLatestStart starts time appKey).map (Option.map Event.folded) := by
  have about : ∀ e : Event, e.folded.checkApp appKey = e.checkApp appKey := fun _ => rfl
  have early : (starts.map Event.folded).takeWhile (fun e => decide (e.time ≤ time)) =
      (starts.takeWhile fun e => decide (e.time ≤ time)).map Event.folded := by
    rw [List.takeWhile_map]
    rfl
  unfold Event.findLatestStart
  rw [early, filterM_map about]
  cases (starts.takeWhile fun e => decide (e.time ≤ time)).filterM (Event.checkApp appKey) with
  | error fault => rfl
  | ok kept => exact congrArg Except.ok List.getLast?_map

theorem describeInstall_folded (start completion : Event) (appKey : String) :
    describeInstall start.folded completion.folded appKey =
      (describeInstall start completion appKey).map InstallSpan.folded := by
  have field (name : String) : completion.folded.lookUp name = completion.lookUp name := rfl
  unfold describeInstall
  rw [field, field, field]
  cases completion.lookUp "appId" with
  | error fault => rfl
  | ok appId =>
    cases completion.lookUp "appName" with
    | error fault => rfl
    | ok named =>
      simp only [Except.bind, bind]
      cases nonempty? named with
      | some name => rfl
      | none => cases completion.lookUp "name" <;> rfl

theorem examineInstall_folded (matcher : Matcher) (starts : List Event) (completion : Event) :
    c.folded.examineInstall matcher (starts.map Event.folded) completion.folded =
      (c.examineInstall matcher starts completion).map (Option.map InstallSpan.folded) := by
  have app : completion.folded.lookUpAppKey = completion.lookUpAppKey := rfl
  unfold examineInstall
  rw [app]
  cases completion.lookUpAppKey with
  | error fault => rfl
  | ok key =>
    cases key with
    | none => rfl
    | some appKey =>
      have started : Event.findLatestStart (starts.map Event.folded) completion.folded.time appKey =
          (Event.findLatestStart starts completion.time appKey).map (Option.map Event.folded) :=
        findLatestStart_folded starts completion.time appKey
      simp only [Except.bind, bind, started]
      cases Event.findLatestStart starts completion.time appKey with
      | error fault => rfl
      | ok latest =>
        cases latest with
        | none => rfl
        | some start =>
          have compared : Operator.check matcher c.folded.operator
              (some (installSeconds start.folded completion.folded)) c.folded.value =
                Operator.check matcher c.operator (some (installSeconds start completion))
                  c.value := rfl
          simp only [Except.map, Option.map_some, compared]
          cases Operator.check matcher c.operator (some (installSeconds start completion))
            c.value with
          | error fault => rfl
          | ok verdict =>
            cases verdict with
            | false => rfl
            | true =>
              simp only [↓reduceIte, describeInstall_folded]
              cases describeInstall start completion appKey <;> rfl

theorem evaluateInstall_folded (matcher : Matcher) :
    c.folded.evaluateInstall matcher (events.map Event.folded) =
      (c.evaluateInstall matcher events).map Outcome.folded := by
  have starts (ordered : List Event) :
      (ordered.map Event.folded).filter (·.hasTypeIn installStartTypes) =
        (ordered.filter (·.hasTypeIn installStartTypes)).map Event.folded := by
    apply Event.filter_folded
    exact fun e => hasTypeIn_folded e installStartTypes
  have completions (ordered : List Event) :
      (ordered.map Event.folded).filter (·.hasTypeIn c.folded.completionTypes) =
        (ordered.filter (·.hasTypeIn c.completionTypes)).map Event.folded := by
    apply Event.filter_folded
    exact c.hasTypeIn_completionTypes_folded
  unfold evaluateInstall
  dsimp only
  rw [Event.sort_folded, starts, completions,
    findSomeM?_map (c.examineInstall_folded matcher _)]
  generalize List.findSomeM? (m := Except DetectionFault) _ _ = search
  cases search with
  | error fault => rfl
  | ok span => cases span <;> rfl

theorem examinePairs_folded (joinField : String) (candidates : List Event) (a : Event) :
    c.folded.examinePairs joinField (candidates.map Event.folded) a.folded =
      (c.examinePairs joinField candidates a).map (Option.map Correlation.folded) := by
  have field : a.folded.lookUp joinField = a.lookUp joinField := rfl
  unfold examinePairs
  rw [field]
  cases a.lookUp joinField with
  | error fault => rfl
  | ok text =>
    simp only [Except.bind, bind]
    cases nonempty? text with
    | none => rfl
    | some joinValue =>
      have goes : ∀ b : Event, c.folded.checkPair joinField joinValue a.folded b.folded =
          c.checkPair joinField joinValue a b := fun _ => rfl
      simp only [findM?_map goes]
      cases candidates.findM? (c.checkPair joinField joinValue a) with
      | error fault => rfl
      | ok found => cases found <;> rfl

theorem evaluateCorrelation_folded (matcher : Matcher) :
    c.folded.evaluateCorrelation matcher (events.map Event.folded) =
      (c.evaluateCorrelation matcher events).map Outcome.folded := by
  have typeA : nonempty? c.folded.eventType = (nonempty? c.eventType).map Text.fold :=
    nonempty?_fold c.eventType
  have typeB : nonempty? c.folded.correlateEventType =
      (nonempty? c.correlateEventType).map Text.fold := nonempty?_fold c.correlateEventType
  have candidates (type : String) (f : Filter) :
      (Event.ofType (events.map Event.folded) (some (Text.fold type))).filterM (f.check matcher) =
        ((Event.ofType events (some type)).filterM (f.check matcher)).map
          (List.map Event.folded) := by
    have passes : ∀ e : Event, f.check matcher e.folded = f.check matcher e := fun _ => rfl
    rw [← Option.map_some, Event.ofType_folded]
    exact filterM_map passes _
  have filterA : c.folded.filterA = c.filterA := rfl
  have filterB : c.folded.filterB = c.filterB := rfl
  have join : c.folded.joinField = c.joinField := rfl
  unfold evaluateCorrelation
  rw [typeA, typeB, join, filterA, filterB]
  cases nonempty? c.eventType with
  | none => rfl
  | some typeA =>
  cases nonempty? c.correlateEventType with
  | none => rfl
  | some typeB =>
  cases nonempty? c.joinField with
  | none => rfl
  | some joinField =>
    simp only [Option.map_some, candidates]
    cases (Event.ofType events (some typeA)).filterM (c.filterA.check matcher) with
    | error fault => rfl
    | ok candidatesA =>
      simp only [Except.map, Except.bind, bind, List.isEmpty_map]
      split
      · rfl
      · cases (Event.ofType events (some typeB)).filterM (c.filterB.check matcher) with
        | error fault => rfl
        | ok candidatesB =>
          simp only [List.isEmpty_map, findSomeM?_map (c.examinePairs_folded joinField candidatesB)]
          split
          · rfl
          · cases candidatesA.findSomeM? (c.examinePairs joinField candidatesB) with
            | error fault => rfl
            | ok pair => cases pair <;> rfl

/-- Evaluation commutes with folding: with all types folded, the outcome is the same, with folded
types in its evidence, and so is the fault of a condition that is not evaluated. -/
theorem evaluate_folded :
    c.folded.evaluate setting.folded (events.map Event.folded) =
      (c.evaluate setting events).map Outcome.folded := by
  have source : c.folded.source = c.source := rfl
  unfold evaluate
  rw [source]
  cases c.source with
  | eventType => exact c.evaluateOccurrence_folded events setting.matcher
  | eventData => exact c.evaluateData_folded events setting.matcher
  | eventCount => exact congrArg Except.ok (c.detectCount_folded events)
  | phaseDuration => exact c.evaluatePhase_folded setting events
  | appInstallDuration => exact c.evaluateInstall_folded events setting.matcher
  | eventCorrelation => exact c.evaluateCorrelation_folded events setting.matcher
  | unknown => rfl

end Condition

namespace MatchedEvidence

theorem has_folded (m : MatchedEvidence) (signal : String) :
    m.folded.has signal = m.has signal := by
  have signals : m.folded.signals = m.signals := by
    simp only [MatchedEvidence.signals, folded, List.map_map]
    rfl
  rw [has, signals, has]

theorem put_folded (m : MatchedEvidence) (signal : String) (evidence : Evidence) :
    m.folded.put signal evidence.folded = (m.put signal evidence).folded := by
  induction m with
  | nil => rfl
  | cons entry rest ih =>
    obtain ⟨name, other⟩ := entry
    show put ((name, other.folded) :: folded rest) signal evidence.folded = _
    unfold put
    by_cases here : name = signal
    · rw [if_pos here, if_pos here]
      rfl
    · rw [if_neg here, if_neg here, ih]
      rfl

theorem duration?_folded (evidence : Evidence) :
    evidence.folded.duration? = evidence.duration? := by
  cases evidence <;> rfl

theorem firstDuration_folded (m : MatchedEvidence) :
    m.folded.firstDuration = m.firstDuration := by
  unfold firstDuration folded
  rw [List.findSome?_map]
  congr 2
  funext entry
  exact duration?_folded entry.2

end MatchedEvidence

namespace Rule

variable (setting : DetectionSetting) (rule : Rule) (events : List Event)

theorem countOfType_folded (type : String) :
    Event.countOfType (events.map Event.folded) type = Event.countOfType events type := by
  have same : (fun e => Event.hasType e type) ∘ Event.folded = fun e => Event.hasType e type :=
    funext fun e => e.hasType_folded_left type
  rw [Event.countOfType, List.countP_map, same, Event.countOfType]

theorem applies_folded (factor : ConfidenceFactor) (m : MatchedEvidence) :
    factor.applies m.folded (events.map Event.folded) = factor.applies m events := by
  simp only [ConfidenceFactor.applies, MatchedEvidence.has_folded,
    MatchedEvidence.firstDuration_folded, countOfType_folded]

theorem addFactors_folded (factors : List ConfidenceFactor) (confidence : Int)
    (m : MatchedEvidence) :
    addFactors (events.map Event.folded) factors confidence m.folded =
      (addFactors events factors confidence m).map fun (confidence, m) =>
        (confidence, m.folded) := by
  induction factors generalizing confidence m with
  | nil => rfl
  | cons factor rest ih =>
    unfold addFactors
    rw [applies_folded]
    cases factor.applies m events with
    | error e => rfl
    | ok applied =>
      cases applied with
      | true =>
        have marked : m.folded.put (factorMark factor.signal) .mark =
            (m.put (factorMark factor.signal) .mark).folded :=
          m.put_folded (factorMark factor.signal) .mark
        dsimp only
        rw [marked]
        split
        · exact ih _ _
        · rfl
      | false => exact ih _ _

theorem matchConditions_folded (conditions : List Condition) (m : MatchedEvidence) :
    matchConditions (Condition.evaluator setting.folded) (events.map Event.folded)
        (conditions.map Condition.folded) m.folded =
      (matchConditions (Condition.evaluator setting) events conditions m).map
        (Option.map MatchedEvidence.folded) := by
  induction conditions generalizing m with
  | nil => rfl
  | cons c rest ih =>
    rw [List.map_cons]
    unfold matchConditions
    rw [Condition.evaluator, Condition.evaluator, c.evaluate_folded setting events]
    cases c.evaluate setting events with
    | error fault => rfl
    | ok outcome =>
      cases outcome with
      | matched evidence =>
        have put : m.folded.put c.folded.signal evidence.folded =
            (m.put c.signal evidence).folded := m.put_folded c.signal evidence
        show matchConditions _ _ _ (m.folded.put c.folded.signal evidence.folded) = _
        rw [put]
        exact ih _
      | unmatched reason =>
        show (if c.required then _ else _) = (if c.required then _ else _ : Except String _).map _
        cases c.required with
        | true => rfl
        | false => exact ih m

theorem score_folded (m : MatchedEvidence) :
    rule.folded.score m.folded (events.map Event.folded) =
      (rule.score m events).map fun (confidence, m) => (confidence, m.folded) := by
  have added : addFactors (events.map Event.folded) rule.folded.factors rule.folded.baseConfidence
      m.folded = (addFactors events rule.factors rule.baseConfidence m).map fun (confidence, m) =>
        (confidence, m.folded) := addFactors_folded events rule.factors rule.baseConfidence m
  unfold score
  rw [added]
  cases addFactors events rule.factors rule.baseConfidence m <;> rfl

theorem evaluate_folded (stamp : Stamp) :
    rule.folded.evaluate stamp (Condition.evaluator setting.folded) (events.map Event.folded) =
      (rule.evaluate stamp (Condition.evaluator setting) events).map
        (Option.map Diagnosis.folded) := by
  have conditions : matchConditions (Condition.evaluator setting.folded) (events.map Event.folded)
      rule.folded.conditions [] =
        (matchConditions (Condition.evaluator setting) events rule.conditions []).map
          (Option.map MatchedEvidence.folded) :=
    matchConditions_folded setting events rule.conditions []
  unfold evaluate
  rw [conditions]
  cases matchConditions (Condition.evaluator setting) events rule.conditions [] with
  | error e => rfl
  | ok matched =>
    cases matched with
    | none => rfl
    | some m =>
      simp only [Except.map, Option.map_some, score_folded]
      cases rule.score m events with
      | error e => rfl
      | ok scored =>
        have threshold : rule.folded.threshold = rule.threshold := rfl
        simp only [threshold]
        split <;> rfl

end Rule

namespace Analysis

theorem selected_folded (rules : List Rule) (skip : List String) :
    selected (rules.map Rule.folded) skip = (selected rules skip).map Rule.folded := by
  induction rules generalizing skip with
  | nil => rfl
  | cons rule rest ih =>
    have enabled : rule.folded.enabled = rule.enabled := rfl
    have id : rule.folded.id = rule.id := rfl
    rw [List.map_cons, selected, selected, enabled, id]
    split
    · exact ih skip
    · rw [ih, List.map_cons]

theorem Engine.diagnosis?_folded (setting : DetectionSetting) (stampFor : String → Stamp)
    (events : List Event) (rule : Rule) :
    Engine.diagnosis? ⟨Condition.evaluator setting.folded, stampFor⟩ (events.map Event.folded)
        rule.folded =
      (Engine.diagnosis? ⟨Condition.evaluator setting, stampFor⟩ events rule).map
        Diagnosis.folded := by
  have evaluated : Engine.evaluate ⟨Condition.evaluator setting.folded, stampFor⟩
      (events.map Event.folded) rule.folded =
        (Engine.evaluate ⟨Condition.evaluator setting, stampFor⟩ events rule).map
          (Option.map Diagnosis.folded) :=
    Rule.evaluate_folded setting rule events (stampFor rule.id)
  unfold diagnosis?
  rw [evaluated]
  cases Engine.evaluate ⟨Condition.evaluator setting, stampFor⟩ events rule <;> rfl

/-- An analysis commutes with folding: with all types folded, it makes the same diagnoses, with
folded types in their evidence. -/
theorem analyze_folded (setting : DetectionSetting) (stampFor : String → Stamp) (rules : List Rule)
    (events : List Event) (evaluated : List String) :
    analyze ⟨Condition.evaluator setting.folded, stampFor⟩ (rules.map Rule.folded)
        (events.map Event.folded) evaluated =
      (analyze ⟨Condition.evaluator setting, stampFor⟩ rules events evaluated).map
        Diagnosis.folded := by
  by_cases empty : events = []
  · subst empty
    rfl
  · have emptyFolded : events.map Event.folded ≠ [] :=
      fun none => empty (List.map_eq_nil_iff.mp none)
    rw [analyze_of_nonempty empty, analyze_of_nonempty emptyFolded, Event.sort_folded,
      selected_folded, List.filterMap_map, List.map_filterMap]
    congr 1
    funext rule
    exact Engine.diagnosis?_folded setting stampFor (Event.sort events) rule

end Analysis

theorem Readiness.ofEvents_folded (events : List Event) (onDemand : Bool) :
    ofEvents (events.map Event.folded) onDemand = ofEvents events onDemand := by
  have terminal : isTerminal ∘ Event.folded = isTerminal := by
    funext e
    simp only [Function.comp_apply, isTerminal, Event.folded, Text.fold_fold]
  have failure (e : Event) : reportsFailure e.folded = reportsFailure e := by
    simp only [reportsFailure, Event.folded, Text.fold_fold]
  unfold ofEvents
  rw [List.isEmpty_map, List.find?_map, terminal]
  cases events.find? isTerminal with
  | none => rfl
  | some e => simp only [Option.map_some, failure]

/-- The second event is the first one with its type in another case at most. -/
def Event.Retyped (first second : Event) : Prop :=
  Text.fold first.type = Text.fold second.type ∧ second = { first with type := second.type }

/-- The second condition is the first one with its types in another case at most. -/
def Condition.Retyped (first second : Condition) : Prop :=
  first.eventType.map Text.fold = second.eventType.map Text.fold ∧
    first.correlateEventType.map Text.fold = second.correlateEventType.map Text.fold ∧
    second = { first with
      eventType := second.eventType, correlateEventType := second.correlateEventType }

/-- The second rule is the first one with the types in its conditions in another case at most. -/
def Rule.Retyped (first second : Rule) : Prop :=
  List.Forall₂ Condition.Retyped first.conditions second.conditions ∧
    second = { first with conditions := second.conditions }

theorem map_eq_of_forall₂ {α β : Type} {related : α → α → Prop} {f : α → β} {as bs : List α}
    (same : ∀ a b, related a b → f a = f b) (all : List.Forall₂ related as bs) :
    as.map f = bs.map f := by
  induction all with
  | nil => rfl
  | cons first _ ih => rw [List.map_cons, List.map_cons, same _ _ first, ih]

theorem Event.Retyped.folded_eq (first second : Event) (retyped : first.Retyped second) :
    first.folded = second.folded := by
  obtain ⟨types, rest⟩ := retyped
  rw [rest, Event.folded, types]
  rfl

theorem Condition.Retyped.folded_eq (first second : Condition) (retyped : first.Retyped second) :
    first.folded = second.folded := by
  obtain ⟨types, correlated, rest⟩ := retyped
  rw [rest, Condition.folded, types, correlated]
  rfl

theorem Rule.Retyped.folded_eq (first second : Rule) (retyped : first.Retyped second) :
    first.folded = second.folded := by
  obtain ⟨conditions, rest⟩ := retyped
  rw [rest, Rule.folded, map_eq_of_forall₂ Condition.Retyped.folded_eq conditions]
  rfl

/-- The case of event types does not matter. When the types of events, the types that conditions
name and the type of phase changes are replaced by types in another case, the same rules fire in the
same order with the same confidence, whatever identities and times their diagnoses get; the
diagnoses say the same but for the case of the types in their evidence. A session is ready for
analysis for the same reason. -/
theorem case_of_types_irrelevant (setting : DetectionSetting) (type : String)
    (stampFor stampLater : String → Stamp) (rules others : List Rule)
    (events replaced : List Event) (evaluated : List String) (onDemand : Bool)
    (phaseChanges : Text.fold setting.phaseChangeType = Text.fold type)
    (retypedRules : List.Forall₂ Rule.Retyped rules others)
    (retypedEvents : List.Forall₂ Event.Retyped events replaced) :
    (Analysis.analyze ⟨Condition.evaluator { setting with phaseChangeType := type }, stampLater⟩
        others replaced evaluated).map (fun d => (d.ruleId, d.confidence)) =
      (Analysis.analyze ⟨Condition.evaluator setting, stampFor⟩ rules events evaluated).map
        (fun d => (d.ruleId, d.confidence)) ∧
    (Analysis.analyze ⟨Condition.evaluator { setting with phaseChangeType := type }, stampLater⟩
        others replaced evaluated).map (·.folded.unstamped) =
      (Analysis.analyze ⟨Condition.evaluator setting, stampFor⟩ rules events evaluated).map
        (·.folded.unstamped) ∧
    Readiness.ofEvents replaced onDemand = Readiness.ofEvents events onDemand := by
  have foldedSetting : { setting with phaseChangeType := type }.folded = setting.folded := by
    rw [DetectionSetting.folded, DetectionSetting.folded, phaseChanges]
  have foldedRules := map_eq_of_forall₂ Rule.Retyped.folded_eq retypedRules
  have foldedEvents := map_eq_of_forall₂ Event.Retyped.folded_eq retypedEvents
  have folds (setting : DetectionSetting) (stampFor : String → Stamp) (rules : List Rule)
      (events : List Event) :
      (Analysis.analyze ⟨Condition.evaluator setting, stampFor⟩ rules events evaluated).map
          (·.folded.unstamped) =
        (Analysis.analyze ⟨Condition.evaluator setting.folded, stampFor⟩ (rules.map Rule.folded)
          (events.map Event.folded) evaluated).map Diagnosis.unstamped := by
    rw [Analysis.analyze_folded, List.map_map]
    rfl
  have said : (Analysis.analyze
      ⟨Condition.evaluator { setting with phaseChangeType := type }, stampLater⟩
        others replaced evaluated).map (·.folded.unstamped) =
      (Analysis.analyze ⟨Condition.evaluator setting, stampFor⟩ rules events evaluated).map
        (·.folded.unstamped) := by
    rw [folds, folds, foldedSetting, ← foldedRules, ← foldedEvents]
    exact Analysis.analyze_unstamped ⟨Condition.evaluator setting.folded, stampFor⟩ stampLater
      (rules.map Rule.folded) (events.map Event.folded) evaluated
  refine ⟨?_, said, ?_⟩
  · have fired := congrArg (List.map fun d => (d.ruleId, d.confidence)) said
    rw [List.map_map, List.map_map] at fired
    exact fired
  · rw [← Readiness.ofEvents_folded replaced, ← foldedEvents, Readiness.ofEvents_folded]

/-- A rule on events of a type, which is surer if a failed enrollment is among the events. -/
def ruleOnType (type : String) : Rule :=
  { (default : Rule) with
    id := "shipping"
    enabled := true
    conditions := [{ (default : Condition) with
      signal := "shipped", source := .eventType, eventType := some type, required := true }]
    baseConfidence := 60
    factors := [⟨"Enrollment_Failed", "count >= 1", 15, ⟨.countAtLeast 1, "count >= 1"⟩⟩]
    threshold := 50 }

def eventOfType (type : String) : Event := { (default : Event) with type := type }

/-- A setting in which phase changes have a type. -/
def settingOfType (type : String) : DetectionSetting := ⟨Pattern.matcher, type, ⟨0⟩⟩

/-- A rule fires with the same confidence when types are written in capitals, although the capitals
of one of them are more letters, and the session is ready for the same reason. -/
theorem capitals_fire_alike :
    (Analysis.analyze ⟨Condition.evaluator (settingOfType "PHASE_CHANGE"), fun _ => default⟩
        [ruleOnType "STRASSE"] [eventOfType "StraSSe", eventOfType "ENROLLMENT_FAILED"] []).map
          (fun d => (d.ruleId, d.confidence)) = [("shipping", 75)] ∧
      Readiness.ofEvents [eventOfType "StraSSe", eventOfType "ENROLLMENT_FAILED"] false =
        .failed := by
  have rules : List.Forall₂ Rule.Retyped [ruleOnType "straße"] [ruleOnType "STRASSE"] :=
    .cons ⟨.cons ⟨by decide +kernel, rfl, rfl⟩ .nil, rfl⟩ .nil
  have events : List.Forall₂ Event.Retyped [eventOfType "Straße", eventOfType "enrollment_failed"]
      [eventOfType "StraSSe", eventOfType "ENROLLMENT_FAILED"] :=
    .cons ⟨by decide +kernel, rfl⟩ (.cons ⟨by decide +kernel, rfl⟩ .nil)
  obtain ⟨fired, -, ready⟩ := case_of_types_irrelevant (settingOfType "phase_change") "PHASE_CHANGE"
    (fun _ => default) (fun _ => default) _ _ _ _ [] false (by decide +kernel) rules events
  have plain : (Analysis.analyze
      ⟨Condition.evaluator (settingOfType "phase_change"), fun _ => default⟩ [ruleOnType "straße"]
      [eventOfType "Straße", eventOfType "enrollment_failed"] []).map
        (fun d => (d.ruleId, d.confidence)) = [("shipping", 75)] := by
    have ordered : Event.sort [eventOfType "Straße", eventOfType "enrollment_failed"] =
        [eventOfType "Straße", eventOfType "enrollment_failed"] :=
      List.mergeSort_of_pairwise (by simp [Event.inOrder, eventOfType])
    rw [Analysis.analyze_of_nonempty (List.cons_ne_nil _ _), ordered]
    decide +kernel
  have failed : Readiness.ofEvents [eventOfType "Straße", eventOfType "enrollment_failed"] false =
      .failed := by decide +kernel
  exact ⟨fired.trans plain, ready.trans failed⟩

end EnrollmentDiagnosis
