import EnrollmentDiagnosis.Proofs.AcceptedDocuments
import EnrollmentDiagnosis.Proofs.LatestStarts
import EnrollmentDiagnosis.Proofs.MatchedConditions
import EnrollmentDiagnosis.Proofs.MeetableFilters
import EnrollmentDiagnosis.Proofs.RuleLoading

set_option autoImplicit false

namespace EnrollmentDiagnosis

open RuleBook

/-- Zero is not above an integer that is not negative. -/
theorem Number.Binary64.exceeds_zero {n : Int} (nonnegative : 0 ≤ n) :
    (zero false).exceeds n = false := by
  rw [Bool.eq_false_iff]
  intro above
  have size : 0 ≤ n * (twoTo (0 - minExponent).toNat : Int) :=
    Int.mul_nonneg nonnegative (Int.natCast_nonneg _)
  have target : min minExponent 0 = minExponent := rfl
  simp only [exceeds, zero, orderInt, target, aligned, Nat.zero_mul, Bool.false_eq_true, ↓reduceIte,
    beq_iff_eq, Option.some.injEq, compare_gt_iff_gt] at above
  omega

theorem Event.typed_of_mem_ofType {events : List Event} {type : Option String} {e : Event}
    (member : e ∈ Event.ofType events type) : (nonempty? type).isSome = true := by
  cases type with
  | none => cases member
  | some type =>
    have typed := List.of_mem_filter member
    simp only [hasType, Bool.and_eq_true, bne_iff_ne] at typed
    rw [nonempty?_of_ne typed.1]
    rfl

namespace Condition

/-- True when the events that complete an installation start one as well. -/
def completesByStart (c : Condition) : Bool :=
  c.completionTypes.any fun type => installStartTypes.any (Text.sameFold type)

/-- What a condition needs, besides what validation asks for, so that some events match. -/
inductive Live (matcher : Matcher) (c : Condition) : Prop
  | occurrence (source : c.source = .eventType) (typed : (nonempty? c.eventType).isSome = true)
      (meetable : (nonempty? c.dataField).isSome = true → c.filterB.Meetable matcher)
  | data (source : c.source = .eventData) (typed : (nonempty? c.eventType).isSome = true)
      (named : (nonempty? c.dataField).isSome = true) (meetable : c.filterB.Meetable matcher)
  | count {threshold : Int} (source : c.source = .eventCount)
      (limit : c.countThreshold? = some threshold)
      (typed : 0 < threshold → (nonempty? c.eventType).isSome = true)
  | phase (source : c.source = .phaseDuration) (target : (nonempty? c.value).isSome = true)
  /-- Some installation has an acceptable duration; it is none for events that are their own
  start. -/
  | install {duration : Int} (source : c.source = .appInstallDuration)
      (possible : (⟨duration⟩ : Time.Instant).inCalendar = true)
      (immediate : c.completesByStart = true → duration = 0)
      (accepted : Operator.accepts matcher c.operator (some (Time.seconds duration).text) c.value =
        true)
  /-- Two texts in the join field differ in case at most and fit the two filters. -/
  | correlation {textA textB : String} (source : c.source = .eventCorrelation)
      (typedA : (nonempty? c.eventType).isSome = true)
      (typedB : (nonempty? c.correlateEventType).isSome = true) (present : textA ≠ "")
      (alike : Text.sameFold textB textA = true)
      (fitsA : c.filterA.Fits matcher (c.joinField.getD "") textA)
      (fitsB : c.filterB.Fits matcher (c.joinField.getD "") textB)

/-- Some events at times of the calendar match. -/
def CanMatch (matcher : Matcher) (phaseChangeType : String) (c : Condition) : Prop :=
  ∃ (now : Time.Instant) (events : List Event), now.inCalendar = true ∧
    (∀ e ∈ events, e.time.inCalendar = true) ∧ c.Matches ⟨matcher, phaseChangeType, now⟩ events

variable {matcher : Matcher} {c : Condition} {events : List Event} {phaseChangeType : String}

/-- What validation asks of a condition and a match depends on. -/
structure Sound (c : Condition) : Prop where
  stated : lacksValue c.filterB.operator c.filterB.value = none
  statedA : lacksValue c.filterA.operator c.filterA.value = none
  joined : c.source = .eventCorrelation → c.joinField.getD "" ≠ ""

theorem sound_of_problems (none_found : c.problems = []) : c.Sound := by
  simp only [problems, List.append_eq_nil_iff] at none_found
  obtain ⟨⟨⟨-, value⟩, valueA⟩, join⟩ := none_found
  constructor
  · cases lacks : lacksValue c.operator c.value with
    | none => exact lacks
    | some operator =>
      rw [lacks] at value
      cases value
  · cases lacks : lacksValue c.eventAFilterOperator c.eventAFilterValue with
    | none => exact lacks
    | some operator =>
      rw [lacks] at valueA
      cases valueA
  · intro correlates absent
    rw [if_pos ⟨correlates, absent⟩] at join
    cases join

theorem passes_filterB (named : (nonempty? c.dataField).isSome = true) (e : Event) :
    c.filterB.passes matcher e = c.acceptsField matcher e := by
  obtain ⟨field, found⟩ := Option.isSome_iff_exists.mp named
  have sameField : nonempty? c.filterB.field = some field := found
  rw [Filter.passes_of_named sameField, acceptsField, fieldOf?, nonempty?_eq_some found]
  rfl

theorem named_of_acceptsField {e : Event} (accepted : c.acceptsField matcher e = true) :
    (nonempty? c.dataField).isSome = true := by
  cases text : c.fieldOf? e with
  | none =>
    rw [acceptsField, text, Operator.accepts_absent] at accepted
    cases accepted
  | some text => exact named_of_fieldOf? ‹_›

theorem live_of_occurrence (sound : c.Sound) (source : c.source = .eventType)
    (matched : (c.detectOccurrence matcher events).isMatch = true) : c.Live matcher := by
  obtain ⟨e, member, accepted⟩ := (detectOccurrence_isMatch_iff _ c events).mp matched
  refine .occurrence source (Event.typed_of_mem_ofType member) fun named => ?_
  exact Filter.meetable_of_passes sound.stated named
    ((passes_filterB named e).trans (accepted named))

theorem live_of_data (sound : c.Sound) (source : c.source = .eventData)
    (matched : (c.detectData matcher events).isMatch = true) : c.Live matcher := by
  obtain ⟨e, member, accepted⟩ := (detectData_isMatch_iff _ c events).mp matched
  have named := named_of_acceptsField accepted
  exact .data source (Event.typed_of_mem_ofType member) named
    (Filter.meetable_of_passes sound.stated named ((passes_filterB named e).trans accepted))

theorem live_of_count (source : c.source = .eventCount)
    (matched : (c.detectCount events).isMatch = true) : c.Live matcher := by
  obtain ⟨threshold, limit, reached⟩ := (detectCount_isMatch_iff c events).mp matched
  refine .count source limit fun positive => ?_
  have nonempty : 0 < (Event.ofType events c.eventType).length := by omega
  obtain ⟨e, member⟩ := List.exists_mem_of_length_pos nonempty
  exact Event.typed_of_mem_ofType member

theorem live_of_phase {setting : DetectionSetting} (source : c.source = .phaseDuration)
    (matched : (c.detectPhase setting events).isMatch = true) : c.Live matcher := by
  obtain ⟨target, wanted, -⟩ := (detectPhase_isMatch_iff c events setting).mp matched
  exact .phase source (by rw [wanted]; rfl)

theorem hasTypeIn_installStartTypes {e : Event} {type : String} (typed : e.hasType type = true) :
    e.hasTypeIn installStartTypes = installStartTypes.any (Text.sameFold type) := by
  simp only [Event.hasType, Text.sameFold, Bool.and_eq_true, beq_iff_eq] at typed
  simp only [Event.hasTypeIn, Event.hasType, Text.sameFold, installStartTypes, typed.2,
    List.any_cons, List.any_nil]
  rfl

/-- The completion of an installation is a start too if its type is one of starts. -/
theorem hasTypeIn_of_completes {e : Event} (completes : e.hasTypeIn c.completionTypes = true) :
    e.hasTypeIn installStartTypes = c.completesByStart := by
  unfold completesByStart
  unfold completionTypes at completes ⊢
  cases typed : nonempty? c.eventType with
  | some type =>
    rw [typed] at completes
    rw [hasTypeIn_installStartTypes ((Event.hasTypeIn_singleton e type).symm.trans completes),
      List.any_cons, List.any_nil, Bool.or_false]
  | none =>
    rw [typed] at completes
    obtain ⟨type, member, ofType⟩ := List.any_eq_true.mp completes
    rw [hasTypeIn_installStartTypes ofType]
    rcases List.mem_cons.mp member with rfl | last
    · rfl
    · rw [List.mem_singleton.mp last]
      rfl

theorem live_of_install (source : c.source = .appInstallDuration)
    (calendar : ∀ e ∈ events, e.time.inCalendar = true)
    (matched : (c.detectInstall matcher events).isMatch = true) : c.Live matcher := by
  obtain ⟨completion, member, completes, installed⟩ :=
    (detectInstall_isMatch_iff _ c events).mp matched
  obtain ⟨appKey, start, key, latest, accepted⟩ := (installOf?_isSome _ c _ completion).mp installed
  have starts := mem_installStarts.mp (Event.latestStart?_mem latest)
  obtain ⟨-, early, noneLater⟩ := Event.latestStart?_latest (installStarts_ordered events) latest
  have before : start.time.microseconds ≤ completion.time.microseconds := early
  refine .install source ?_ (fun byStart => ?_) accepted
  · have first := calendar start starts.1
    have last := calendar completion member
    simp only [Time.Instant.inCalendar, Bool.and_eq_true, decide_eq_true_eq] at first last ⊢
    simp only [installDuration, Time.Instant.since]
    omega
  -- The completion is itself one of the starts up to its time, so the latest one is not earlier.
  · have own : completion ∈ installStarts events :=
      mem_installStarts.mpr ⟨member, (hasTypeIn_of_completes completes).trans byStart⟩
    have about : completion.isAbout appKey = true := by
      simp only [Event.isAbout, key, Text.sameFold, beq_self_eq_true]
    have late : completion.time.microseconds ≤ start.time.microseconds :=
      noneLater completion own about (Int.le_refl _)
    simp only [installDuration, Time.Instant.since]
    omega

theorem live_of_correlation (sound : c.Sound) (source : c.source = .eventCorrelation)
    (matched : (c.detectCorrelation matcher events).isMatch = true) : c.Live matcher := by
  obtain ⟨typeA, typeB, joinField, typedA, typedB, joined, a, -, b, -, ⟨-, passesA⟩, ⟨-, passesB⟩,
    textA, hasA, pairs⟩ := (detectCorrelation_isMatch_iff _ c events).mp matched
  have named := nonempty?_ne_empty joined
  have field : c.joinField.getD "" = joinField := by rw [nonempty?_eq_some joined]; rfl
  simp only [pairsWith, Bool.and_eq_true] at pairs
  obtain ⟨⟨-, alike⟩, -⟩ := pairs
  split at alike
  · rename_i textB hasB
    refine .correlation source (by rw [typedA]; rfl) (by rw [typedB]; rfl)
      (nonempty?_ne_empty hasA) alike ?_ ?_
    · rw [field]
      exact Filter.fits_of_passes sound.statedA named (nonempty?_eq_some hasA) passesA
    · rw [field]
      exact Filter.fits_of_passes sound.stated named hasB passesB
  · cases alike

/-- Conditions that some events match have what they need. -/
theorem live_of_canMatch (sound : c.Sound) (canMatch : c.CanMatch matcher phaseChangeType) :
    c.Live matcher := by
  obtain ⟨now, events, -, calendar, evidence, returned⟩ := canMatch
  have matched : (c.detect ⟨matcher, phaseChangeType, now⟩ events).isMatch = true := by
    rw [detect_of_evaluate returned]
    rfl
  unfold detect at matched
  split at matched <;> rename_i source
  · exact live_of_occurrence sound source matched
  · exact live_of_data sound source matched
  · exact live_of_count source matched
  · exact live_of_phase source matched
  · exact live_of_install source calendar matched
  · exact live_of_correlation sound source matched
  · cases matched

theorem canMatch_of_isMatch (events : List Event)
    (calendar : ∀ e ∈ events, e.time.inCalendar = true)
    (legible : ∀ e ∈ events, ∀ name, e.isLegible name = true)
    (searchable : ∀ pattern, c.SearchesFor pattern → ∃ occursIn, matcher pattern = .ok occursIn)
    (matched : (c.detect ⟨matcher, phaseChangeType, default⟩ events).isMatch = true) :
    c.CanMatch matcher phaseChangeType := by
  refine ⟨default, events, rfl, calendar, ?_⟩
  have returned : c.evaluate ⟨matcher, phaseChangeType, default⟩ events =
      .ok (c.detect ⟨matcher, phaseChangeType, default⟩ events) :=
    evaluate_eq_detect legible searchable
  cases outcome : c.detect ⟨matcher, phaseChangeType, default⟩ events with
  | matched evidence => exact ⟨evidence, returned.trans (congrArg Except.ok outcome)⟩
  | unmatched reason =>
    rw [outcome] at matched
    cases matched

theorem inCalendar_singleton {e : Event} (calendar : e.time.inCalendar = true) :
    ∀ other ∈ [e], other.time.inCalendar = true := List.forall_mem_singleton.mpr calendar

theorem inCalendar_pair {a b : Event} (calendarA : a.time.inCalendar = true)
    (calendarB : b.time.inCalendar = true) : ∀ e ∈ [a, b], e.time.inCalendar = true :=
  List.forall_mem_cons.mpr ⟨calendarA, inCalendar_singleton calendarB⟩

/-- An event of the type of a condition that passes the filter of the condition. -/
theorem exists_accepted (sound : c.Sound) (typed : (nonempty? c.eventType).isSome = true)
    (meetable : (nonempty? c.dataField).isSome = true → c.filterB.Meetable matcher) :
    ∃ e : Event, e.time.inCalendar = true ∧ (∀ name, e.isLegible name = true) ∧
      e ∈ Event.ofType [e] c.eventType ∧
      ((nonempty? c.dataField).isSome = true → c.acceptsField matcher e = true) := by
  obtain ⟨type, found⟩ := Option.isSome_iff_exists.mp typed
  obtain ⟨fields, passes⟩ := Filter.exists_passes sound.stated meetable
  have ofType : (Event.bearing "a" type fields).hasType type = true :=
    Event.hasType_self (nonempty?_ne_empty found)
  refine ⟨Event.bearing "a" type fields, rfl, Event.isLegible_bearing _ _ _, ?_, fun named => ?_⟩
  · rw [nonempty?_eq_some found]
    exact List.mem_filter.mpr ⟨List.mem_singleton.mpr rfl, ofType⟩
  · rw [← passes_filterB named, passes]

/-- Where the filter can be met, a condition on a field searches for no pattern in vain. -/
theorem searchable_of_meetable (source : c.source = .eventType ∨ c.source = .eventData)
    (meetable : (nonempty? c.dataField).isSome = true → c.filterB.Meetable matcher)
    (pattern : String) (searched : c.SearchesFor pattern) :
    ∃ occursIn, matcher pattern = .ok occursIn := by
  have searches : c.filterB.SearchesFor pattern := by
    unfold SearchesFor at searched
    rcases source with source | source
    · rw [source] at searched
      exact searched
    · rw [source] at searched
      exact searched
  exact (meetable searches.1).ok searches

theorem canMatch_of_occurrence (sound : c.Sound) (source : c.source = .eventType)
    (typed : (nonempty? c.eventType).isSome = true)
    (meetable : (nonempty? c.dataField).isSome = true → c.filterB.Meetable matcher) :
    c.CanMatch matcher phaseChangeType := by
  obtain ⟨e, calendar, legible, ofType, accepted⟩ := exists_accepted sound typed meetable
  refine canMatch_of_isMatch [e] (inCalendar_singleton calendar)
    (List.forall_mem_singleton.mpr legible) (searchable_of_meetable (.inl source) meetable) ?_
  rw [detect, source]
  exact (detectOccurrence_isMatch_iff _ c [e]).mpr ⟨e, ofType, accepted⟩

theorem canMatch_of_data (sound : c.Sound) (source : c.source = .eventData)
    (typed : (nonempty? c.eventType).isSome = true)
    (named : (nonempty? c.dataField).isSome = true) (meetable : c.filterB.Meetable matcher) :
    c.CanMatch matcher phaseChangeType := by
  obtain ⟨e, calendar, legible, ofType, accepted⟩ := exists_accepted sound typed fun _ => meetable
  refine canMatch_of_isMatch [e] (inCalendar_singleton calendar)
    (List.forall_mem_singleton.mpr legible)
    (searchable_of_meetable (.inr source) fun _ => meetable) ?_
  rw [detect, source]
  exact (detectData_isMatch_iff _ c [e]).mpr ⟨e, ofType, accepted named⟩

/-- A condition that compares nothing with a pattern searches for none. -/
theorem searchable_of_source (source : c.source = .eventCount ∨ c.source = .phaseDuration)
    (pattern : String) (searched : c.SearchesFor pattern) :
    ∃ occursIn, matcher pattern = .ok occursIn := by
  unfold SearchesFor at searched
  rcases source with source | source
  · rw [source] at searched
    cases searched
  · rw [source] at searched
    cases searched

/-- As many events as are counted match, and none where none is needed. -/
theorem canMatch_of_count (source : c.source = .eventCount) {threshold : Int}
    (limit : c.countThreshold? = some threshold)
    (typed : 0 < threshold → (nonempty? c.eventType).isSome = true) :
    c.CanMatch matcher phaseChangeType := by
  by_cases positive : 0 < threshold
  · obtain ⟨type, found⟩ := Option.isSome_iff_exists.mp (typed positive)
    let e := Event.bearing "a" type []
    have ofType : e.hasType type = true := Event.hasType_self (nonempty?_ne_empty found)
    have counted : (List.replicate threshold.toNat e).filter (fun other => other.hasType type) =
        List.replicate threshold.toNat e := List.filter_replicate_of_pos ofType
    refine canMatch_of_isMatch (List.replicate threshold.toNat e) (fun other member => ?_)
      (fun other member => ?_) (searchable_of_source (.inl source)) ?_
    · rw [List.eq_of_mem_replicate member]
      rfl
    · rw [List.eq_of_mem_replicate member]
      exact Event.isLegible_bearing _ _ _
    · rw [detect, source]
      refine (detectCount_isMatch_iff c _).mpr ⟨threshold, limit, ?_⟩
      rw [nonempty?_eq_some found, Event.ofType_some, counted, List.length_replicate]
      omega
  · refine canMatch_of_isMatch [] (List.forall_mem_nil _) (List.forall_mem_nil _)
      (searchable_of_source (.inl source)) ?_
    rw [detect, source]
    refine (detectCount_isMatch_iff c _).mpr ⟨threshold, limit, ?_⟩
    omega

theorem canMatch_of_phase (phases : phaseChangeType ≠ "") (source : c.source = .phaseDuration)
    (target : (nonempty? c.value).isSome = true) : c.CanMatch matcher phaseChangeType := by
  obtain ⟨name, wanted⟩ := Option.isSome_iff_exists.mp target
  have named : c.phaseField ≠ "" := by
    unfold phaseField
    cases found : nonempty? c.dataField with
    | none =>
      rw [Option.getD_none]
      decide
    | some given =>
      rw [Option.getD_some]
      exact nonempty?_ne_empty found
  let change := Event.bearing "a" phaseChangeType [(c.phaseField, name)]
  have enters : c.entersPhase name change = true := by
    have has : change.field? c.phaseField = some name := Event.field?_bearing named _ _ _ _
    simp only [entersPhase, has, Text.sameFold, beq_self_eq_true]
  refine canMatch_of_isMatch [change] (inCalendar_singleton rfl)
    (List.forall_mem_singleton.mpr (Event.isLegible_bearing _ _ _))
    (searchable_of_source (.inr source)) ?_
  rw [detect, source]
  exact (detectPhase_isMatch_iff c _ _).mpr
    ⟨name, wanted, change, List.mem_singleton.mpr rfl, Event.hasType_self phases, enters⟩

/-- An event of the installation of an app. -/
def installing (type : String) (time : Time.Instant) : Event :=
  { (default : Event) with type := type, time := time, payload := [("appId", .text "app")] }

theorem isAbout_installing (type : String) (time : Time.Instant) :
    (installing type time).isAbout "app" = true := rfl

theorem isLegible_installing (type : String) (time : Time.Instant) (name : String) :
    (installing type time).isLegible name = true := Event.isLegible_of_isWritable rfl name

theorem exists_completionType (c : Condition) : ∃ type ∈ c.completionTypes, type ≠ "" := by
  unfold completionTypes
  cases typed : nonempty? c.eventType with
  | some type => exact ⟨type, List.mem_singleton.mpr rfl, nonempty?_ne_empty typed⟩
  | none => exact ⟨"app_install_completed", List.mem_cons_self, by decide⟩

/-- An installation takes as long as wanted, from a start at the first instant. -/
theorem canMatch_of_install (source : c.source = .appInstallDuration) {duration : Int}
    (possible : (⟨duration⟩ : Time.Instant).inCalendar = true)
    (immediate : c.completesByStart = true → duration = 0)
    (accepted : Operator.accepts matcher c.operator (some (Time.seconds duration).text) c.value =
      true) :
    c.CanMatch matcher phaseChangeType := by
  obtain ⟨type, completing, named⟩ := exists_completionType c
  let first := installing "app_install_started" ⟨0⟩
  let completion := installing type ⟨duration⟩
  have nonnegative : 0 ≤ duration := by
    simp only [Time.Instant.inCalendar, Bool.and_eq_true, decide_eq_true_eq] at possible
    exact possible.1
  have completes : completion.hasTypeIn c.completionTypes = true :=
    List.any_eq_true.mpr ⟨type, completing, Event.hasType_self named⟩
  have started : first ∈ installStarts [first, completion] :=
    mem_installStarts.mpr ⟨List.mem_cons_self, by decide⟩
  have ordered := installStarts_ordered [first, completion]
  obtain ⟨start, latest⟩ := Option.isSome_iff_exists.mp ((Event.latestStart?_isSome ordered).mpr
    ⟨first, started, isAbout_installing _ _, nonnegative⟩)
  have takes : installDuration start completion = duration := by
    obtain ⟨member, isStart⟩ := mem_installStarts.mp (Event.latestStart?_mem latest)
    rcases List.mem_cons.mp member with rfl | last
    · simp only [installDuration, Time.Instant.since, first, completion, installing]
      omega
    · obtain rfl := List.mem_singleton.mp last
      have none_taken : duration = 0 :=
        immediate ((hasTypeIn_of_completes completes).symm.trans isStart)
      simp only [installDuration, Time.Instant.since]
      omega
  refine canMatch_of_isMatch [first, completion] (inCalendar_pair rfl possible)
    (List.forall_mem_cons.mpr ⟨isLegible_installing _ _,
      List.forall_mem_singleton.mpr (isLegible_installing _ _)⟩) (fun pattern searched => ?_) ?_
  · simp only [SearchesFor, source] at searched
    rw [searched.1, searched.2] at accepted
    exact Operator.ok_of_accepts accepted
  · rw [detect, source]
    refine (detectInstall_isMatch_iff _ c _).mpr
      ⟨completion, List.mem_cons_of_mem _ (List.mem_singleton.mpr rfl), completes, ?_⟩
    refine (installOf?_isSome _ c _ completion).mpr ⟨"app", start, rfl, latest, ?_⟩
    rw [installSeconds, takes, accepted]

/-- Events at the same time are in any window. -/
theorem inWindow_zero (c : Condition) : c.inWindow 0 = true := by
  unfold inWindow
  dsimp only
  by_cases closed : c.timeWindowSeconds.getD 0 ≤ 0
  · rw [decide_eq_true closed, Bool.true_or]
  · have positive : 0 ≤ c.timeWindowSeconds.getD 0 := by omega
    have none_passed : (Time.seconds 0).magnitude = .zero false := rfl
    rw [none_passed, Number.Binary64.exceeds_zero positive, Bool.not_false, Bool.or_true]

theorem canMatch_of_correlation (sound : c.Sound) (source : c.source = .eventCorrelation)
    (typedA : (nonempty? c.eventType).isSome = true)
    (typedB : (nonempty? c.correlateEventType).isSome = true) {textA textB : String}
    (present : textA ≠ "") (alike : Text.sameFold textB textA = true)
    (fitsA : c.filterA.Fits matcher (c.joinField.getD "") textA)
    (fitsB : c.filterB.Fits matcher (c.joinField.getD "") textB) :
    c.CanMatch matcher phaseChangeType := by
  have named := sound.joined source
  have joined : nonempty? c.joinField = some (c.joinField.getD "") := by
    cases join : c.joinField with
    | none => exact absurd (by rw [join]; rfl) named
    | some field =>
      rw [join] at named
      exact nonempty?_of_ne named
  obtain ⟨typeA, foundA⟩ := Option.isSome_iff_exists.mp typedA
  obtain ⟨typeB, foundB⟩ := Option.isSome_iff_exists.mp typedB
  obtain ⟨restA, passesA⟩ := fitsA.exists_passes sound.statedA named
  obtain ⟨restB, passesB⟩ := fitsB.exists_passes sound.stated named
  let a := Event.bearing "a" typeA ((c.joinField.getD "", textA) :: restA)
  let b := Event.bearing "b" typeB ((c.joinField.getD "", textB) :: restB)
  have hasA : nonempty? (a.field? (c.joinField.getD "")) = some textA := by
    rw [Event.field?_bearing named, nonempty?_of_ne present]
  have hasB : b.field? (c.joinField.getD "") = some textB := Event.field?_bearing named _ _ _ _
  have pairs : c.pairsWith (c.joinField.getD "") textA a b = true := by
    have apart : (b.id != a.id) = true := rfl
    have near : c.inWindow (b.time.since a.time) = true := inWindow_zero c
    simp only [pairsWith, hasB, alike, apart, near, Bool.and_true]
  refine canMatch_of_isMatch [a, b] (inCalendar_pair rfl rfl)
    (List.forall_mem_cons.mpr ⟨Event.isLegible_bearing _ _ _,
      List.forall_mem_singleton.mpr (Event.isLegible_bearing _ _ _)⟩) (fun pattern searched => ?_)
    ?_
  · simp only [SearchesFor, source] at searched
    rcases searched with searches | searches
    · exact fitsA.ok searches
    · exact fitsB.ok searches
  · rw [detect, source]
    exact (detectCorrelation_isMatch_iff _ c _).mpr ⟨typeA, typeB, _, foundA, foundB, joined, a,
      List.mem_cons_self, b, List.mem_cons_of_mem _ (List.mem_singleton.mpr rfl),
      ⟨Event.hasType_self (nonempty?_ne_empty foundA), passesA "a" typeA⟩,
      ⟨Event.hasType_self (nonempty?_ne_empty foundB), passesB "b" typeB⟩, textA, hasA, pairs⟩

/-- A condition in which validation finds no problem is matched by some events if and only if it has
what its source needs. -/
theorem canMatch_iff_live (sound : c.Sound) (phases : phaseChangeType ≠ "") :
    c.CanMatch matcher phaseChangeType ↔ c.Live matcher := by
  refine ⟨live_of_canMatch sound, fun live => ?_⟩
  cases live with
  | occurrence source typed meetable => exact canMatch_of_occurrence sound source typed meetable
  | data source typed named meetable => exact canMatch_of_data sound source typed named meetable
  | count source limit typed => exact canMatch_of_count source limit typed
  | phase source target => exact canMatch_of_phase phases source target
  | install source possible immediate accepted =>
    exact canMatch_of_install source possible immediate accepted
  | correlation source typedA typedB present alike fitsA fitsB =>
    exact canMatch_of_correlation sound source typedA typedB present alike fitsA fitsB

end Condition

theorem Rule.sound_of_problems {rule : Rule} (none_found : rule.problems = []) {c : Condition}
    (member : c ∈ rule.conditions) : c.Sound := by
  simp only [problems, List.append_eq_nil_iff, List.flatMap_eq_nil_iff] at none_found
  exact Condition.sound_of_problems (none_found.1.2 c member)

namespace RuleBook

/-- When validation accepts a document, a condition of one of its rules is matched by some events if
and only if it has what its source needs. -/
theorem accepted_conditions_live {text : String} {verdict : Verdict}
    (validated : validate text = .ok verdict) (accepted : verdict.success = true)
    (matcher : Matcher) (phaseChangeType : String) (phases : phaseChangeType ≠ "") :
    ∃ fields, ∃ written : List Written, Yaml.load text = .ok (.map fields) ∧
      Value.find? fields "rules" = some (.list (written.map (·.entry))) ∧
      ∀ w ∈ written, ∀ c ∈ w.rule.conditions,
        c.CanMatch matcher phaseChangeType ↔ c.Live matcher := by
  obtain ⟨fields, written, loaded, found, -, sound⟩ := written_of_validate validated accepted
  refine ⟨fields, written, loaded, found, fun w inWritten c inRule => ?_⟩
  exact Condition.canMatch_iff_live (Rule.sound_of_problems (sound w inWritten) inRule) phases

/-- The conditions of the rules in a loaded document. -/
def conditionsIn : Value → List Condition
  | .map fields =>
    match Value.find? fields "rules" with
    | some (.list entries) => entries.flatMap fun entry =>
      match Rule.ofValue entry with
      | .ok rule => rule.conditions
      | _ => []
    | _ => []
  | _ => []

theorem conditionsIn_written {fields : List (Value × Value)} {written : List Written}
    (found : Value.find? fields "rules" = some (.list (written.map (·.entry)))) :
    conditionsIn (.map fields) = written.flatMap (·.rule.conditions) := by
  simp only [conditionsIn, found, List.flatMap_map, Written.reads]

theorem validate_of_load {text : String} {content : Value} (loaded : Yaml.load text = .ok content) :
    validate text = .ok (Verdict.ofContent content) := by
  rw [validate, loaded, Verdict.ofLoaded]

/-- A document of a rule with a condition on an event, and with a correlation of that event with one
of a type that is not given. -/
def unpaired : String :=
  "rules:\n- rule_id: R\n  title: T\n  conditions:\n" ++
  "  - signal: s\n    source: event_type\n    event_type: a\n" ++
  "  - signal: p\n    source: event_correlation\n    event_type: a\n    join_field: j\n"

def occurs : Condition :=
  { (default : Condition) with signal := "s", source := .eventType, eventType := some "a" }

def correlates : Condition :=
  { (default : Condition) with
    signal := "p", source := .eventCorrelation, eventType := some "a", joinField := some "j" }

theorem correlates_not_live (matcher : Matcher) : ¬correlates.Live matcher := by
  intro live
  cases live with
  | correlation _ _ typedB => cases typedB
  | _ source => cases source

/-- The document is accepted, and its conditions are those two. -/
theorem unpaired_accepted :
    validate unpaired = .ok (.valid 1) ∧ ∃ content, Yaml.load unpaired = .ok content ∧
      conditionsIn content = [occurs, correlates] := by
  have evaluated : (Yaml.load unpaired).toOption.map
      (fun content => (Verdict.ofContent content, conditionsIn content)) =
        some (.valid 1, [occurs, correlates]) := by decide +kernel
  obtain ⟨content, loaded, found⟩ := Except.ok_of_toOption_map evaluated
  obtain ⟨verdict, conditions⟩ := Prod.mk.inj found
  refine ⟨?_, content, loaded, conditions⟩
  rw [validate_of_load loaded, verdict]

theorem unpaired_conditions_live :
    validate unpaired = .ok (.valid 1) ∧ "change" ≠ "" ∧
      ∃ fields, ∃ written : List Written, Yaml.load unpaired = .ok (.map fields) ∧
        Value.find? fields "rules" = some (.list (written.map (·.entry))) ∧
        written.flatMap (·.rule.conditions) = [occurs, correlates] ∧
        occurs.CanMatch Pattern.matcher "change" ∧
        ¬correlates.CanMatch Pattern.matcher "change" := by
  obtain ⟨validated, content, loads, conditions⟩ := unpaired_accepted
  have named : "change" ≠ "" := by decide
  obtain ⟨fields, written, loaded, found, each⟩ :=
    accepted_conditions_live validated rfl Pattern.matcher "change" named
  have same : content = .map fields := Except.ok.inj (loads.symm.trans loaded)
  rw [same, conditionsIn_written found] at conditions
  have eachOf (c : Condition) (member : c ∈ [occurs, correlates]) :
      c.CanMatch Pattern.matcher "change" ↔ c.Live Pattern.matcher := by
    rw [← conditions] at member
    obtain ⟨w, inWritten, inRule⟩ := List.mem_flatMap.mp member
    exact each w inWritten c inRule
  refine ⟨validated, named, fields, written, loaded, found, conditions, ?_, ?_⟩
  · exact (eachOf occurs (by simp)).mpr (.occurrence rfl rfl fun unnamed => by cases unnamed)
  · exact fun matched => correlates_not_live _ ((eachOf correlates (by simp)).mp matched)

/-- Validation accepts a condition that no events match. -/
theorem unpaired_never_matches :
    ¬∀ (text : String) (verdict : Verdict) (fields : List (Value × Value)) (written : List Written),
      validate text = .ok verdict → verdict.success = true → Yaml.load text = .ok (.map fields) →
      Value.find? fields "rules" = some (.list (written.map (·.entry))) →
      ∀ w ∈ written, ∀ c ∈ w.rule.conditions,
        ∃ matcher phaseChangeType, c.CanMatch matcher phaseChangeType := by
  intro always
  obtain ⟨validated, content, loads, conditions⟩ := unpaired_accepted
  obtain ⟨fields, written, loaded, found, -, sound⟩ := written_of_validate validated rfl
  have same : content = .map fields := Except.ok.inj (loads.symm.trans loaded)
  rw [same, conditionsIn_written found] at conditions
  have member : correlates ∈ written.flatMap (·.rule.conditions) := by
    rw [conditions]
    exact List.mem_cons_of_mem _ (List.mem_singleton.mpr rfl)
  obtain ⟨w, inWritten, inRule⟩ := List.mem_flatMap.mp member
  obtain ⟨_, _, matched⟩ := always unpaired _ fields written validated rfl loaded found w inWritten
    correlates inRule
  exact correlates_not_live _
    (Condition.live_of_canMatch (Rule.sound_of_problems (sound w inWritten) inRule) matched)

end RuleBook

end EnrollmentDiagnosis
