import EnrollmentDiagnosis.Proofs.PlainDetection

set_option autoImplicit false

namespace EnrollmentDiagnosis

theorem nonempty?_eq_some {text : Option String} {s : String} (named : nonempty? text = some s) :
    text = some s := by
  unfold nonempty? at named
  split at named
  · cases named
  · exact named

namespace Event

theorem hasTypeIn_singleton (e : Event) (type : String) :
    e.hasTypeIn [type] = e.hasType type := by
  simp only [hasTypeIn, List.any_cons, List.any_nil, Bool.or_false]

theorem mem_ofType {events : List Event} {type : Option String} {e : Event}
    (member : e ∈ ofType events type) :
    e ∈ events ∧ e.hasTypeIn type.toList = true := by
  cases type with
  | none => cases member
  | some type =>
    rw [Option.toList_some, hasTypeIn_singleton]
    exact List.mem_filter.mp member

theorem sort_perm (events : List Event) : (sort events).Perm events :=
  List.mergeSort_perm events inOrder

theorem mem_sort {events : List Event} {e : Event} : e ∈ sort events ↔ e ∈ events :=
  (sort_perm events).mem_iff

end Event

namespace Operator

theorem accepts_absent (matcher : Matcher) (operator : Option Operator) (value : Option String) :
    accepts matcher operator none value = false := by
  cases operator with
  | none => rfl
  | some operator => cases operator <;> rfl

theorem check_absent (matcher : Matcher) (operator : Option Operator) (value : Option String) :
    check matcher operator none value = .ok (accepts matcher operator none value) := by
  cases operator with
  | none => rfl
  | some operator => cases operator <;> rfl

end Operator

namespace Condition

variable {setting : DetectionSetting} {c : Condition} {events : List Event}

/-- A field that is looked up has its text, or is one that hinders the evaluation. -/
theorem answers_lookUp {e : Event} {name : String} (member : e ∈ events)
    (looked : c.LooksUp setting e name) :
    Answers (c.Hindered setting events) (e.lookUp name) (e.field? name) := by
  rw [Event.lookUp_eq]
  split
  · exact .ok _ _
  · rename_i illegible
    exact .illegible member looked (by simpa using illegible)

/-- A comparison gives its verdict, or its pattern hinders the evaluation. -/
theorem answers_check {operator : Option Operator} {value : Option String}
    (searched : ∀ pattern, operator = some .regex → value = some pattern → c.SearchesFor pattern)
    (field : Option String) :
    Answers (c.Hindered setting events) (Operator.check setting.matcher operator field value)
      (Operator.accepts setting.matcher operator field value) := by
  unfold Operator.check
  split
  · rename_i text pattern
    have compared : Operator.accepts setting.matcher (some .regex) (some text) (some pattern) =
        setting.matcher.occurs pattern text := rfl
    rw [compared, Matcher.occurs]
    cases search : setting.matcher pattern with
    | ok occursIn => exact .ok _ _
    | error message => exact .refused (searched pattern rfl rfl) search
  · exact .ok _ _

section Occurrence

/-- Only a field with a name has a text. -/
theorem named_of_fieldOf? {e : Event} {text : String} (has : c.fieldOf? e = some text) :
    (nonempty? c.dataField).isSome = true := by
  unfold fieldOf? at has
  unfold nonempty?
  split
  · rename_i empty
    rw [empty] at has
    cases has
  · obtain ⟨name, named, -⟩ := Option.bind_eq_some_iff.mp has
    rw [named]
    rfl

theorem fieldMatch?_eq (matcher : Matcher) (c : Condition) (events : List Event) :
    c.fieldMatch? matcher events = events.findSome? fun e =>
      if c.acceptsField matcher e then some (c.fieldEvidence e (c.fieldOf? e)) else none := by
  rw [fieldMatch?, List.find?_eq_findSome?_guard, List.map_findSome?]
  congr 1
  funext e
  rw [Function.comp_apply, Option.guard, apply_ite (Option.map _)]
  rfl

theorem answers_examineField
    (looked : ∀ e, e.hasTypeIn c.eventType.toList = true → ∀ name, c.dataField = some name →
      c.LooksUp setting e name)
    (searched : ∀ pattern, c.filterB.SearchesFor pattern → c.SearchesFor pattern) :
    Answers (c.Hindered setting events)
      ((Event.ofType events c.eventType).findSomeM? (c.examineField setting.matcher))
      (c.fieldMatch? setting.matcher (Event.ofType events c.eventType)) := by
  have each : ∀ e ∈ Event.ofType events c.eventType, Answers (c.Hindered setting events)
      (c.examineField setting.matcher e)
      (if c.acceptsField setting.matcher e then some (c.fieldEvidence e (c.fieldOf? e))
        else none) := by
    intro e found
    obtain ⟨member, ofType⟩ := Event.mem_ofType found
    have field : Answers (c.Hindered setting events) (c.lookUpField e) (c.fieldOf? e) := by
      unfold lookUpField fieldOf?
      cases named : c.dataField with
      | none => exact .ok _ _
      | some name => exact answers_lookUp member (looked e ofType name named)
    have compared : Answers (c.Hindered setting events)
        (Operator.check setting.matcher c.operator (c.fieldOf? e) c.value)
        (c.acceptsField setting.matcher e) := by
      cases text : c.fieldOf? e with
      | none =>
        rw [acceptsField, text, Operator.check_absent]
        exact .ok _ _
      | some text =>
        have named : (nonempty? c.dataField).isSome = true := named_of_fieldOf? text
        rw [acceptsField, text]
        exact answers_check
          (fun pattern regex value => searched pattern ⟨named, regex, value⟩) _
    refine field.bind (compared.bind ?_)
    split
    · exact .ok _ _
    · exact .ok _ _
  rw [fieldMatch?_eq]
  exact Answers.findSomeM? each

theorem answers_evaluateOccurrence (source : c.source = .eventType) :
    Answers (c.Hindered setting events) (c.evaluateOccurrence setting.matcher events)
      (c.detectOccurrence setting.matcher events) := by
  have search : Answers (c.Hindered setting events)
      ((Event.ofType events c.eventType).findSomeM? (c.examineField setting.matcher))
      (c.fieldMatch? setting.matcher (Event.ofType events c.eventType)) :=
    answers_examineField
      (fun e ofType name named => by simp only [LooksUp, source]; exact ⟨ofType, named⟩)
      (fun pattern searches => by simp only [SearchesFor, source]; exact searches)
  unfold evaluateOccurrence detectOccurrence
  cases found : Event.ofType events c.eventType with
  | nil => exact .ok _ _
  | cons first rest =>
    rw [found] at search
    dsimp only
    split
    · exact search.map _
    · exact .ok _ _

theorem answers_evaluateData (source : c.source = .eventData) :
    Answers (c.Hindered setting events) (c.evaluateData setting.matcher events)
      (c.detectData setting.matcher events) :=
  (answers_examineField
    (fun e ofType name named => by simp only [LooksUp, source]; exact ⟨ofType, named⟩)
    (fun pattern searches => by simp only [SearchesFor, source]; exact searches)).map _

end Occurrence

theorem answers_evaluatePhase (source : c.source = .phaseDuration) :
    Answers (c.Hindered setting events) (c.evaluatePhase setting events)
      (c.detectPhase setting events) := by
  have search (target : String) :
      Answers (c.Hindered setting events)
        (findWithNextM? (c.checkPhase target)
          (Event.sort (events.filter (·.hasType setting.phaseChangeType))))
        (findWithNext? (c.entersPhase target)
          (Event.sort (events.filter (·.hasType setting.phaseChangeType)))) := by
    refine Answers.findWithNextM? fun e found => ?_
    obtain ⟨member, change⟩ := List.mem_filter.mp (Event.mem_sort.mp found)
    have looked : c.LooksUp setting e c.phaseField := by
      simp only [LooksUp, source, and_true]
      exact change
    exact (answers_lookUp member looked).map _
  unfold evaluatePhase detectPhase
  cases found : Event.sort (events.filter (·.hasType setting.phaseChangeType)) with
  | nil => exact .ok _ _
  | cons first rest =>
    rw [found] at search
    cases nonempty? c.value with
    | none => exact .ok _ _
    | some target => exact (search target).map _

section Install

/-- The events that an evaluation can ask for their app. -/
theorem looksUp_of_install (source : c.source = .appInstallDuration) {e : Event}
    (asked : e.hasTypeIn installStartTypes = true ∨ e.hasTypeIn c.completionTypes = true)
    {name : String} (identifies : name ∈ appKeyFields) : c.LooksUp setting e name := by
  simp only [LooksUp, source]
  exact ⟨asked, identifies⟩

theorem answers_lookUpAppKey {e : Event} (member : e ∈ events)
    (looked : ∀ name ∈ appKeyFields, c.LooksUp setting e name) :
    Answers (c.Hindered setting events) e.lookUpAppKey e.appKey? :=
  Answers.findSomeM? fun name identifies =>
    (answers_lookUp member (looked name identifies)).map _

theorem answers_findLatestStart {starts : List Event} (member : ∀ e ∈ starts, e ∈ events)
    (looked : ∀ e ∈ starts, ∀ name ∈ appKeyFields, c.LooksUp setting e name)
    (time : Time.Instant) (appKey : String) :
    Answers (c.Hindered setting events) (Event.findLatestStart starts time appKey)
      (Event.latestStart? starts time appKey) := by
  have part := (List.takeWhile_sublist (l := starts) fun e => decide (e.time ≤ time)).subset
  refine (Answers.filterM fun e early => ?_).map _
  exact (answers_lookUpAppKey (member e (part early)) (looked e (part early))).map _

theorem answers_describeInstall {completion : Event} (member : completion ∈ events)
    (looked : ∀ name ∈ appKeyFields, c.LooksUp setting completion name) (start : Event)
    (appKey : String) :
    Answers (c.Hindered setting events) (describeInstall start completion appKey)
      (installSpan start completion appKey) := by
  have field (name : String) (identifies : name ∈ appKeyFields) :=
    answers_lookUp member (looked name identifies)
  refine (field "appId" (by decide)).bind ((field "appName" (by decide)).bind ?_)
  cases named : nonempty? (completion.field? "appName") with
  | some name =>
    rw [installSpan, named]
    exact .ok _ _
  | none =>
    refine ((field "name" (by decide)).map nonempty?).bind ?_
    rw [installSpan, named]
    exact .ok _ _

theorem answers_examineInstall (source : c.source = .appInstallDuration) {starts : List Event}
    (started : ∀ e ∈ starts, e ∈ events ∧ e.hasTypeIn installStartTypes = true)
    {completion : Event} (member : completion ∈ events)
    (completes : completion.hasTypeIn c.completionTypes = true) :
    Answers (c.Hindered setting events) (c.examineInstall setting.matcher starts completion)
      (c.installOf? setting.matcher starts completion) := by
  have looked : ∀ name ∈ appKeyFields, c.LooksUp setting completion name :=
    fun name => looksUp_of_install source (.inr completes)
  unfold examineInstall installOf?
  refine (answers_lookUpAppKey member looked).bind ?_
  cases completion.appKey? with
  | none => exact .ok _ _
  | some appKey =>
    have latest : Answers (c.Hindered setting events)
        (Event.findLatestStart starts completion.time appKey)
        (Event.latestStart? starts completion.time appKey) :=
      answers_findLatestStart (fun e start => (started e start).1)
        (fun e start name => looksUp_of_install source (.inl (started e start).2)) _ _
    refine latest.bind ?_
    simp only [Option.bind_eq_bind, Option.bind_some]
    cases Event.latestStart? starts completion.time appKey with
    | none => exact .ok _ _
    | some start =>
      have compared : Answers (c.Hindered setting events)
          (Operator.check setting.matcher c.operator (some (installSeconds start completion))
            c.value)
          (Operator.accepts setting.matcher c.operator (some (installSeconds start completion))
            c.value) :=
        answers_check
          (fun pattern regex value => by simp only [SearchesFor, source]; exact ⟨regex, value⟩) _
      refine compared.bind ?_
      rw [Option.bind_some]
      split
      · exact (answers_describeInstall member looked start appKey).map some
      · exact .ok _ _

theorem answers_evaluateInstall (source : c.source = .appInstallDuration) :
    Answers (c.Hindered setting events) (c.evaluateInstall setting.matcher events)
      (c.detectInstall setting.matcher events) := by
  refine (Answers.map (Answers.findSomeM? fun completion found => ?_) _)
  obtain ⟨ordered, completes⟩ := List.mem_filter.mp found
  refine answers_examineInstall source (fun e start => ?_) (Event.mem_sort.mp ordered) completes
  obtain ⟨early, starts⟩ := List.mem_filter.mp start
  exact ⟨Event.mem_sort.mp early, starts⟩

end Install

section Correlation

theorem answers_filter {f : Filter} {e : Event} (member : e ∈ events)
    (looked : ∀ name, f.field = some name → c.LooksUp setting e name)
    (searched : ∀ pattern, f.SearchesFor pattern → c.SearchesFor pattern) :
    Answers (c.Hindered setting events) (f.check setting.matcher e)
      (f.passes setting.matcher e) := by
  unfold Filter.check Filter.passes
  cases named : nonempty? f.field with
  | none => exact .ok _ _
  | some name =>
    refine (answers_lookUp member (looked name (nonempty?_eq_some named))).bind
      (answers_check (fun pattern regex value => ?_) _)
    exact searched pattern ⟨by rw [named]; rfl, regex, value⟩

theorem answers_checkPair {joinField : String} {b : Event} (member : b ∈ events)
    (looked : c.LooksUp setting b joinField) (joinValue : String) (a : Event) :
    Answers (c.Hindered setting events) (c.checkPair joinField joinValue a b)
      (c.pairsWith joinField joinValue a b) := by
  unfold checkPair pairsWith
  by_cases same : b.id = a.id
  · rw [if_pos same, bne_eq_false_iff_eq.mpr same]
    exact .ok _ _
  · rw [if_neg same, bne_iff_ne.mpr same, Bool.true_and]
    have answers := answers_lookUp member looked
    cases found : b.field? joinField with
    | none =>
      rw [found] at answers
      exact answers.map _
    | some value =>
      rw [found] at answers
      exact answers.map _

theorem answers_examinePairs {joinField : String} {candidates : List Event} {a : Event}
    (member : a ∈ events) (looked : c.LooksUp setting a joinField)
    (others : ∀ b ∈ candidates, b ∈ events ∧ c.LooksUp setting b joinField) :
    Answers (c.Hindered setting events) (c.examinePairs joinField candidates a)
      (c.pairFor? joinField candidates a) := by
  refine (answers_lookUp member looked).bind ?_
  unfold pairFor?
  cases nonempty? (a.field? joinField) with
  | none => exact .ok _ _
  | some joinValue =>
    have search : Answers (c.Hindered setting events)
        (candidates.findM? (c.checkPair joinField joinValue a))
        (candidates.find? (c.pairsWith joinField joinValue a)) :=
      Answers.findM? fun b candidate =>
        answers_checkPair (others b candidate).1 (others b candidate).2 joinValue a
    refine search.bind ?_
    simp only [Option.bind_eq_bind, Option.bind_some]
    cases candidates.find? (c.pairsWith joinField joinValue a) with
    | none => exact .ok _ _
    | some b => exact .ok _ _

theorem answers_candidates {f : Filter} {type : Option String}
    (looked : ∀ e, e.hasTypeIn type.toList = true → ∀ name, f.field = some name →
      c.LooksUp setting e name)
    (searched : ∀ pattern, f.SearchesFor pattern → c.SearchesFor pattern) :
    Answers (c.Hindered setting events)
      ((Event.ofType events type).filterM (f.check setting.matcher))
      ((Event.ofType events type).filter (f.passes setting.matcher)) := by
  refine Answers.filterM fun e found => ?_
  obtain ⟨member, ofType⟩ := Event.mem_ofType found
  exact answers_filter member (looked e ofType) searched

/-- The join field is looked up in the candidates of both types. -/
theorem looksUp_of_candidate (source : c.source = .eventCorrelation) {joinField : String}
    (joins : c.joinField = some joinField) {type : Option String}
    (ofType : type = c.eventType ∨ type = c.correlateEventType) {passes : Event → Bool} {e : Event}
    (found : e ∈ (Event.ofType events type).filter passes) :
    e ∈ events ∧ c.LooksUp setting e joinField := by
  obtain ⟨member, typed⟩ := Event.mem_ofType (List.mem_of_mem_filter found)
  refine ⟨member, ?_⟩
  simp only [LooksUp, source, joins, or_true, and_true]
  rcases ofType with rfl | rfl
  · exact .inl typed
  · exact .inr typed

theorem answers_evaluateCorrelation (source : c.source = .eventCorrelation) :
    Answers (c.Hindered setting events) (c.evaluateCorrelation setting.matcher events)
      (c.detectCorrelation setting.matcher events) := by
  unfold evaluateCorrelation detectCorrelation
  cases namedA : nonempty? c.eventType with
  | none => exact .ok _ _
  | some typeA =>
  cases namedB : nonempty? c.correlateEventType with
  | none => exact .ok _ _
  | some typeB =>
  cases joined : nonempty? c.joinField with
  | none => exact .ok _ _
  | some joinField =>
    have candidatesA : Answers (c.Hindered setting events)
        ((Event.ofType events c.eventType).filterM (c.filterA.check setting.matcher))
        ((Event.ofType events c.eventType).filter (c.filterA.passes setting.matcher)) :=
      answers_candidates
        (fun e ofType name named => by
          simp only [LooksUp, source]
          exact .inl ⟨ofType, .inl named⟩)
        (fun pattern searches => by simp only [SearchesFor, source]; exact .inl searches)
    have candidatesB : Answers (c.Hindered setting events)
        ((Event.ofType events c.correlateEventType).filterM (c.filterB.check setting.matcher))
        ((Event.ofType events c.correlateEventType).filter (c.filterB.passes setting.matcher)) :=
      answers_candidates
        (fun e ofType name named => by
          simp only [LooksUp, source]
          exact .inr ⟨ofType, .inl named⟩)
        (fun pattern searches => by simp only [SearchesFor, source]; exact .inr searches)
    rw [nonempty?_eq_some namedA] at candidatesA
    rw [nonempty?_eq_some namedB] at candidatesB
    have joins := nonempty?_eq_some joined
    dsimp only
    refine candidatesA.bind ?_
    cases foundA : (Event.ofType events (some typeA)).filter (c.filterA.passes setting.matcher) with
    | nil => exact .ok _ _
    | cons firstA othersA =>
      refine candidatesB.bind ?_
      cases foundB :
        (Event.ofType events (some typeB)).filter (c.filterB.passes setting.matcher) with
      | nil => exact .ok _ _
      | cons firstB othersB =>
        refine Answers.bind (Answers.findSomeM? fun a candidate => ?_) (.ok _ _)
        rw [← foundA] at candidate
        obtain ⟨member, looked⟩ := looksUp_of_candidate source joins
          (.inl (nonempty?_eq_some namedA).symm) candidate
        refine answers_examinePairs member looked fun b goes => ?_
        rw [← foundB] at goes
        exact looksUp_of_candidate source joins (.inr (nonempty?_eq_some namedB).symm) goes

end Correlation

/-- Evaluation gives the plain outcome, unless something hinders it. -/
theorem answers_evaluate (setting : DetectionSetting) (c : Condition) (events : List Event) :
    Answers (c.Hindered setting events) (c.evaluate setting events) (c.detect setting events) := by
  unfold evaluate detect
  cases source : c.source with
  | eventType => exact answers_evaluateOccurrence source
  | eventData => exact answers_evaluateData source
  | eventCount => exact .ok _ _
  | phaseDuration => exact answers_evaluatePhase source
  | appInstallDuration => exact answers_evaluateInstall source
  | eventCorrelation => exact answers_evaluateCorrelation source
  | unknown => exact .ok _ _

theorem detect_of_evaluate {outcome : Outcome}
    (returned : c.evaluate setting events = .ok outcome) : c.detect setting events = outcome :=
  ((answers_evaluate _ _ _).eq_of_ok returned).symm

/-- Where every field can be written and every pattern can be searched for, evaluation gives the
plain outcome. -/
theorem evaluate_eq_detect (legible : ∀ e ∈ events, ∀ name, e.isLegible name = true)
    (searchable : ∀ pattern, c.SearchesFor pattern →
      ∃ occursIn, setting.matcher pattern = .ok occursIn) :
    c.evaluate setting events = .ok (c.detect setting events) := by
  refine (answers_evaluate setting c events).eq_ok ?_
  rintro fault (⟨member, -, illegible⟩ | ⟨searched, refused⟩)
  · rw [legible _ member _] at illegible
    cases illegible
  · obtain ⟨occursIn, searches⟩ := searchable _ searched
    cases searches.symm.trans refused

end Condition

end EnrollmentDiagnosis
