import EnrollmentDiagnosis.Proofs.DetectionCriteria

set_option autoImplicit false

namespace EnrollmentDiagnosis

namespace Value

/-- The value that a path of names leads to. -/
def along? : Value → List String → Option Value
  | v, [] => some v
  | .map entries, name :: path =>
    match find? entries name with
    | some v => v.along? path
    | none => none
  | _, _ :: _ => none

@[simp] theorem along?_nil (v : Value) : v.along? [] = some v := by cases v <;> rfl

@[simp] theorem along?_record_nil (name : String) (path : List String) :
    (record []).along? (name :: path) = none := rfl

@[simp] theorem along?_record_here (name : String) (v : Value) (rest : List (String × Value))
    (path : List String) :
    (record ((name, v) :: rest)).along? (name :: path) = v.along? path := by
  simp only [record, along?, List.map_cons, find?, ↓reduceIte]

@[simp] theorem along?_record_elsewhere {key name : String} (other : key ≠ name) (v : Value)
    (rest : List (String × Value)) (path : List String) :
    (record ((key, v) :: rest)).along? (name :: path) = (record rest).along? (name :: path) := by
  simp only [record, along?, List.map_cons, find?, other, ↓reduceIte]

end Value

/-- The ways in which evidence names an event. -/
inductive Naming where
  | event
  | installStart
  | phaseEnd
  | eventA
  | eventB
  deriving DecidableEq

namespace Naming

/-- Where the identity of the event stands. -/
@[simp] def idPath : Naming → List String
  | event => ["eventId"]
  | installStart => ["startEventId"]
  | phaseEnd => ["phaseEndEventId"]
  | eventA => ["eventA", "eventId"]
  | eventB => ["eventB", "eventId"]

/-- Where its sequence can stand. -/
@[simp] def sequencePaths : Naming → List (List String)
  | event => [["sequence"]]
  | installStart => []
  | phaseEnd => []
  | eventA => [["eventA", "sequence"]]
  | eventB => [["eventB", "sequence"]]

/-- Where its time can stand. -/
@[simp] def timePaths : Naming → List (List String)
  | event => [["timestamp"], ["phaseStartTimestamp"], ["endTimestamp"]]
  | installStart => [["startTimestamp"]]
  | phaseEnd => []
  | eventA => [["eventA", "timestamp"]]
  | eventB => [["eventB", "timestamp"]]

end Naming

/-- A value records an event: its identity, and its sequence and its time where they stand. -/
structure Value.Records (v : Value) (naming : Naming) (event : EventReference) : Prop where
  id : v.along? naming.idPath = some (.text event.id)
  sequence : ∀ path ∈ naming.sequencePaths, ∀ recorded,
    v.along? path = some recorded → recorded = .int event.sequence
  time : ∀ path ∈ naming.timePaths, ∀ recorded,
    v.along? path = some recorded → recorded = .text event.time.isoText

namespace Evidence

/-- The event that evidence names in some way. -/
def named? : Evidence → Naming → Option EventReference
  | occurrence event _, .event => some event
  | fieldMatch event _ _, .event => some event
  | tally first _ _, .event => first
  | phase span, .event => some span.start
  | phase span, .phaseEnd => span.finish
  | install span, .event => some span.completion
  | install span, .installStart => some span.start
  | correlation pair, .eventA => some pair.eventA
  | correlation pair, .eventB => some pair.eventB
  | _, _ => none

/-- The value that stands for evidence records the events that the evidence names. -/
theorem records_of_named {evidence : Evidence} {naming : Naming} {event : EventReference}
    (named : evidence.named? naming = some event) : evidence.toValue.Records naming event := by
  cases evidence with
  | occurrence first count | fieldMatch first field value | tally first count threshold =>
    cases naming with
    | event =>
      cases named
      constructor <;> simp [toValue, EventReference.entries]
    | _ => cases named
  | phase span =>
    cases naming with
    | event =>
      cases named
      constructor <;> simp [toValue, PhaseSpan.entries, durationEntries]
    | phaseEnd =>
      have finished : span.finish = some event := named
      constructor <;> simp [toValue, PhaseSpan.entries, finished]
    | _ => cases named
  | install span =>
    cases naming with
    | event | installStart =>
      cases named
      constructor <;> simp [toValue, InstallSpan.entries, durationEntries]
    | _ => cases named
  | correlation pair =>
    cases naming with
    | eventA | eventB =>
      cases named
      constructor <;> simp [toValue, Correlation.entries, EventReference.entries]
    | _ => cases named
  | mark | recorded => cases named

/-- An identity in the value that stands for evidence is that of an event which the evidence names,
or the marker of a phase that goes on, whose start the evidence names. -/
theorem named_of_present {evidence : Evidence} (taken : ∀ v, evidence ≠ .recorded v)
    {naming : Naming} {id : Value} (present : evidence.toValue.along? naming.idPath = some id) :
    (∃ event, evidence.named? naming = some event) ∨
      naming = .phaseEnd ∧ id = .text stillActive ∧
        ∃ event, evidence.named? .event = some event := by
  cases evidence with
  | occurrence first count =>
    cases naming with
    | event => exact .inl ⟨first, rfl⟩
    | _ => simp [toValue, EventReference.entries] at present
  | fieldMatch first field value =>
    cases naming with
    | event => exact .inl ⟨first, rfl⟩
    | _ => simp [toValue, EventReference.entries] at present
  | tally first count threshold =>
    cases first with
    | none => cases naming <;> simp [toValue] at present
    | some first =>
      cases naming with
      | event => exact .inl ⟨first, rfl⟩
      | _ => simp [toValue, EventReference.entries] at present
  | phase span =>
    cases naming with
    | event => exact .inl ⟨span.start, rfl⟩
    | phaseEnd =>
      cases finish : span.finish with
      | some event => exact .inl ⟨event, finish⟩
      | none =>
        simp only [toValue, PhaseSpan.entries, finish] at present
        exact .inr ⟨rfl, by simpa using present.symm, span.start, rfl⟩
    | _ => simp [toValue, PhaseSpan.entries, durationEntries] at present
  | install span =>
    cases naming with
    | event => exact .inl ⟨span.completion, rfl⟩
    | installStart => exact .inl ⟨span.start, rfl⟩
    | _ => simp [toValue, InstallSpan.entries, durationEntries] at present
  | correlation pair =>
    cases naming with
    | eventA => exact .inl ⟨pair.eventA, rfl⟩
    | eventB => exact .inl ⟨pair.eventB, rfl⟩
    | _ => simp [toValue, Correlation.entries] at present
  | mark => cases naming <;> cases present
  | recorded v => exact absurd rfl (taken v)

end Evidence

/-- What is found with its successor splits the list, with no element before it that passes. -/
theorem split_of_findWithNext? {α : Type} {test : α → Bool} {l : List α} {a : α} {next : Option α}
    (found : findWithNext? test l = some (a, next)) :
    ∃ before after, l = before ++ a :: after ∧ next = after.head? ∧ test a = true ∧
      ∀ b ∈ before, ¬test b = true := by
  induction l with
  | nil => cases found
  | cons first rest ih =>
    unfold findWithNext? at found
    split at found
    · rename_i passes
      cases found
      exact ⟨[], rest, rfl, rfl, passes, List.forall_mem_nil _⟩
    · rename_i fails
      obtain ⟨before, after, rfl, follows, passes, failed⟩ := ih found
      exact ⟨first :: before, after, rfl, follows, passes,
        List.forall_mem_cons.mpr ⟨fails, failed⟩⟩

/-- What is found with its successor are two elements of the list. -/
theorem findWithNext?_mem {α : Type} {test : α → Bool} {l : List α} {a : α} {next : Option α}
    (found : findWithNext? test l = some (a, next)) : ∀ b, b = a ∨ next = some b → b ∈ l := by
  obtain ⟨before, after, rfl, rfl, -, -⟩ := split_of_findWithNext? found
  rintro b (rfl | follows)
  · exact List.mem_append_right before List.mem_cons_self
  · exact List.mem_append_right before (List.mem_cons_of_mem _ (List.mem_of_head? follows))

namespace Event

theorem latestStart?_mem {starts : List Event} {time : Time.Instant} {appKey : String}
    {start : Event} (found : latestStart? starts time appKey = some start) :
    start ∈ starts := by
  have member := List.mem_of_getLast? found
  exact (List.takeWhile_sublist _).subset (List.mem_of_mem_filter member)

end Event

namespace Condition

/-- Evidence that a condition of each source takes from events. -/
inductive Grounded (setting : DetectionSetting) (c : Condition) (events : List Event) :
    Evidence → Prop
  | occurrence {e : Event} (count : Nat) (source : c.source = .eventType)
      (member : e ∈ Event.ofType events c.eventType) :
      Grounded setting c events (.occurrence e.reference count)
  | field {e : Event} (field : Option String)
      (source : c.source = .eventType ∨ c.source = .eventData)
      (member : e ∈ Event.ofType events c.eventType) :
      Grounded setting c events (c.fieldEvidence e field)
  | tally {first : Event} {rest : List Event} (threshold : Int) (source : c.source = .eventCount)
      (found : Event.ofType events c.eventType = first :: rest) :
      Grounded setting c events (.tally (some first.reference) (rest.length + 1) threshold)
  | emptyTally (threshold : Int) (source : c.source = .eventCount) :
      Grounded setting c events (.tally none 0 threshold)
  | phase {entered : Event} {next : Option Event} (target : String)
      (source : c.source = .phaseDuration)
      (changes : ∀ e, e = entered ∨ next = some e →
        e ∈ events ∧ e.hasType setting.phaseChangeType = true) :
      Grounded setting c events (.phase (phaseSpan setting target entered next))
  | install {start completion : Event} (appKey : String) (source : c.source = .appInstallDuration)
      (started : start ∈ events ∧ start.hasTypeIn installStartTypes = true)
      (completed : completion ∈ events ∧ completion.hasTypeIn c.completionTypes = true) :
      Grounded setting c events (.install (installSpan start completion appKey))
  | correlation {a b : Event} (joinField joinValue : String) (source : c.source = .eventCorrelation)
      (memberA : a ∈ Event.ofType events c.eventType)
      (memberB : b ∈ Event.ofType events c.correlateEventType) (different : a.id ≠ b.id) :
      Grounded setting c events (.correlation (correlationOf joinField joinValue a b))

variable {setting : DetectionSetting} {matcher : Matcher} {c : Condition} {events : List Event}
  {evidence : Evidence}

theorem fieldMatch?_grounded (source : c.source = .eventType ∨ c.source = .eventData)
    (found : c.fieldMatch? matcher (Event.ofType events c.eventType) = some evidence) :
    c.Grounded setting events evidence := by
  obtain ⟨e, accepted, rfl⟩ := Option.map_eq_some_iff.mp found
  exact .field _ source (List.mem_of_find?_eq_some accepted)

theorem detectOccurrence_grounded (source : c.source = .eventType)
    (matched : c.detectOccurrence matcher events = .matched evidence) :
    c.Grounded setting events evidence := by
  unfold detectOccurrence at matched
  split at matched
  · cases matched
  · rename_i first rest found
    split at matched
    · rw [Outcome.ofSearch_eq_matched, ← found] at matched
      exact fieldMatch?_grounded (.inl source) matched
    · cases matched
      have member : first ∈ Event.ofType events c.eventType := found ▸ List.mem_cons_self
      exact .occurrence _ source member

theorem detectData_grounded (source : c.source = .eventData)
    (matched : c.detectData matcher events = .matched evidence) :
    c.Grounded setting events evidence :=
  fieldMatch?_grounded (.inr source) (Outcome.ofSearch_eq_matched.mp matched)

theorem detectCount_grounded (source : c.source = .eventCount)
    (matched : c.detectCount events = .matched evidence) : c.Grounded setting events evidence := by
  unfold detectCount at matched
  dsimp only at matched
  split at matched
  · split at matched
    · cases matched
    · cases matched
      cases found : Event.ofType events c.eventType with
      | nil => exact .emptyTally _ source
      | cons first rest => exact .tally _ source found
  · cases matched

theorem detectPhase_grounded (source : c.source = .phaseDuration)
    (matched : c.detectPhase setting events = .matched evidence) :
    c.Grounded setting events evidence := by
  unfold detectPhase at matched
  split at matched
  · cases matched
  · split at matched
    · cases matched
    · obtain ⟨⟨entered, next⟩, found, rfl⟩ :=
        Option.map_eq_some_iff.mp (Outcome.ofSearch_eq_matched.mp matched)
      refine .phase _ source fun e named => ?_
      have member := findWithNext?_mem found e named
      rwa [Event.mem_sort, List.mem_filter] at member

/-- An installation goes from one of the starts to its completion. -/
theorem installOf?_eq_some {starts : List Event} {completion : Event} {span : InstallSpan}
    (found : c.installOf? matcher starts completion = some span) :
    ∃ start ∈ starts, ∃ appKey, span = installSpan start completion appKey := by
  simp only [installOf?, Option.bind_eq_bind, Option.bind_eq_some_iff,
    Option.ite_none_right_eq_some, Option.some.injEq] at found
  obtain ⟨appKey, -, start, latest, -, rfl⟩ := found
  exact ⟨start, Event.latestStart?_mem latest, appKey, rfl⟩

theorem detectInstall_grounded (source : c.source = .appInstallDuration)
    (matched : c.detectInstall matcher events = .matched evidence) :
    c.Grounded setting events evidence := by
  obtain ⟨span, found, rfl⟩ := Option.map_eq_some_iff.mp (Outcome.ofSearch_eq_matched.mp matched)
  obtain ⟨completion, completes, installed⟩ := List.exists_of_findSome?_eq_some found
  obtain ⟨start, starts, appKey, rfl⟩ := installOf?_eq_some installed
  rw [List.mem_filter, Event.mem_sort] at completes starts
  exact .install appKey source starts completes

theorem pairFor?_eq_some {joinField : String} {candidates : List Event} {a : Event}
    {pair : Correlation} (found : c.pairFor? joinField candidates a = some pair) :
    ∃ b ∈ candidates, a.id ≠ b.id ∧ ∃ joinValue, pair = correlationOf joinField joinValue a b := by
  simp only [pairFor?, Option.bind_eq_bind, Option.bind_eq_some_iff, Option.some.injEq] at found
  obtain ⟨joinValue, -, b, accepted, rfl⟩ := found
  have pairs := List.find?_some accepted
  simp only [pairsWith, Bool.and_eq_true, bne_iff_ne] at pairs
  exact ⟨b, List.mem_of_find?_eq_some accepted, pairs.1.1.symm, joinValue, rfl⟩

theorem detectCorrelation_grounded (source : c.source = .eventCorrelation)
    (matched : c.detectCorrelation matcher events = .matched evidence) :
    c.Grounded setting events evidence := by
  unfold detectCorrelation at matched
  split at matched
  · rename_i typeA typeB joinField namedA namedB joined
    split at matched
    · cases matched
    · split at matched
      · cases matched
      · obtain ⟨pair, found, rfl⟩ :=
          Option.map_eq_some_iff.mp (Outcome.ofSearch_eq_matched.mp matched)
        obtain ⟨a, candidateA, paired⟩ := List.exists_of_findSome?_eq_some found
        obtain ⟨b, candidateB, different, joinValue, rfl⟩ := pairFor?_eq_some paired
        refine .correlation joinField joinValue source ?_ ?_ different
        · rw [nonempty?_eq_some namedA]
          exact List.mem_of_mem_filter candidateA
        · rw [nonempty?_eq_some namedB]
          exact List.mem_of_mem_filter candidateB
  · cases matched

/-- The evidence of a match is taken from the events, whatever the source. -/
theorem grounded_of_detect (matched : c.detect setting events = .matched evidence) :
    c.Grounded setting events evidence := by
  unfold detect at matched
  split at matched <;> rename_i source
  · exact detectOccurrence_grounded source matched
  · exact detectData_grounded source matched
  · exact detectCount_grounded source matched
  · exact detectPhase_grounded source matched
  · exact detectInstall_grounded source matched
  · exact detectCorrelation_grounded source matched
  · cases matched

/-- The types of which an event that evidence names can be. -/
def expectedTypes (setting : DetectionSetting) (c : Condition) : Naming → List String
  | .event =>
    match c.source with
    | .phaseDuration => [setting.phaseChangeType]
    | .appInstallDuration => c.completionTypes
    | _ => c.eventType.toList
  | .installStart => installStartTypes
  | .phaseEnd => [setting.phaseChangeType]
  | .eventA => c.eventType.toList
  | .eventB => c.correlateEventType.toList

/-- An event that grounded evidence names is one of the events, of an expected type. -/
theorem Grounded.of_named (grounded : c.Grounded setting events evidence) {naming : Naming}
    {event : EventReference} (named : evidence.named? naming = some event) :
    ∃ e ∈ events, e.reference = event ∧ e.hasTypeIn (c.expectedTypes setting naming) = true := by
  cases grounded with
  | @occurrence e count source member =>
    cases naming <;> cases named
    rw [expectedTypes, source]
    exact ⟨e, (Event.mem_ofType member).1, rfl, (Event.mem_ofType member).2⟩
  | @field e field source member =>
    cases naming <;> cases named
    have types : c.expectedTypes setting .event = c.eventType.toList := by
      rcases source with source | source <;> rw [expectedTypes, source]
    rw [types]
    exact ⟨e, (Event.mem_ofType member).1, rfl, (Event.mem_ofType member).2⟩
  | @tally first rest threshold source found =>
    cases naming <;> cases named
    rw [expectedTypes, source]
    have member : first ∈ Event.ofType events c.eventType := found ▸ List.mem_cons_self
    exact ⟨first, (Event.mem_ofType member).1, rfl, (Event.mem_ofType member).2⟩
  | emptyTally threshold source => cases naming <;> cases named
  | @phase entered next target source changes =>
    cases naming with
    | event =>
      cases named
      obtain ⟨member, change⟩ := changes entered (.inl rfl)
      rw [expectedTypes, source]
      exact ⟨entered, member, rfl, (Event.hasTypeIn_singleton _ _).trans change⟩
    | phaseEnd =>
      obtain ⟨e, follows, rfl⟩ := Option.map_eq_some_iff.mp named
      obtain ⟨member, change⟩ := changes e (.inr follows)
      exact ⟨e, member, rfl, (Event.hasTypeIn_singleton _ _).trans change⟩
    | _ => cases named
  | @install start completion appKey source started completed =>
    cases naming with
    | event =>
      cases named
      rw [expectedTypes, source]
      exact ⟨completion, completed.1, rfl, completed.2⟩
    | installStart =>
      cases named
      exact ⟨start, started.1, rfl, started.2⟩
    | _ => cases named
  | @correlation a b joinField joinValue source memberA memberB different =>
    cases naming with
    | eventA =>
      cases named
      exact ⟨a, (Event.mem_ofType memberA).1, rfl, (Event.mem_ofType memberA).2⟩
    | eventB =>
      cases named
      exact ⟨b, (Event.mem_ofType memberB).1, rfl, (Event.mem_ofType memberB).2⟩
    | _ => cases named

theorem Grounded.not_recorded (grounded : c.Grounded setting events evidence) (v : Value) :
    evidence ≠ .recorded v := by
  rintro rfl
  cases grounded

/-- Grounded evidence names no event only if it is about none of a type. -/
theorem Grounded.unnamed_iff (grounded : c.Grounded setting events evidence) :
    (∀ naming, evidence.named? naming = none) ↔
      c.source = .eventCount ∧ evidence.toValue.along? ["count"] = some (.int 0) := by
  cases grounded with
  | occurrence count source member =>
    simp only [source, reduceCtorEq, false_and, iff_false]
    exact fun unnamed => by cases unnamed .event
  | field field source member =>
    have other : c.source ≠ .eventCount := by
      rcases source with source | source <;> simp only [source, ne_eq, reduceCtorEq,
        not_false_eq_true]
    simp only [other, false_and, iff_false]
    exact fun unnamed => by cases unnamed .event
  | @tally first rest threshold source found =>
    constructor
    · exact fun unnamed => by cases unnamed .event
    -- A tally with a first event counts at least that one.
    · rintro ⟨-, count⟩
      simp [Evidence.toValue, EventReference.entries] at count
      omega
  | emptyTally threshold source =>
    refine iff_of_true (fun naming => by cases naming <;> rfl) ⟨source, ?_⟩
    simp [Evidence.toValue]
  | phase target source changes =>
    simp only [source, reduceCtorEq, false_and, iff_false]
    exact fun unnamed => by cases unnamed .event
  | install appKey source started completed =>
    simp only [source, reduceCtorEq, false_and, iff_false]
    exact fun unnamed => by cases unnamed .event
  | correlation joinField joinValue source memberA memberB different =>
    simp only [source, reduceCtorEq, false_and, iff_false]
    exact fun unnamed => by cases unnamed .eventA

/-- The value that stands for grounded evidence has no identity only if no event is named. -/
theorem Grounded.absent_iff (grounded : c.Grounded setting events evidence) :
    (∀ naming : Naming, evidence.toValue.along? naming.idPath = none) ↔
      ∀ naming, evidence.named? naming = none := by
  constructor
  · intro absent naming
    rw [Option.eq_none_iff_forall_ne_some]
    intro event named
    have present := (Evidence.records_of_named named).id
    rw [absent naming] at present
    cases present
  · intro unnamed naming
    rw [Option.eq_none_iff_forall_ne_some]
    intro id present
    rcases Evidence.named_of_present grounded.not_recorded present with
      ⟨event, named⟩ | ⟨-, -, event, named⟩ <;> cases (unnamed _).symm.trans named

theorem Grounded.pair (grounded : c.Grounded setting events evidence)
    (correlates : c.source = .eventCorrelation) :
    ∃ pair, evidence = .correlation pair ∧ pair.eventA.id ≠ pair.eventB.id := by
  cases grounded with
  | correlation joinField joinValue source memberA memberB different =>
    exact ⟨_, rfl, different⟩
  | field field source member =>
    rcases source with source | source <;> cases source.symm.trans correlates
  | occurrence _ source | tally _ source | emptyTally _ source | phase _ source
  | install _ source => cases source.symm.trans correlates

/-- The evidence of a match names events of the session only. Each identity in it, but for the
marker of a phase that goes on, is that of an event of an expected type, of which it has the
sequence and the time; it has none only if a type that is counted did not occur; and the two events
of a pair differ. -/
theorem evaluate_grounded (setting : DetectionSetting) (c : Condition) (events : List Event)
    (evidence : Evidence) (matched : c.evaluate setting events = .ok (.matched evidence)) :
    (∀ (naming : Naming) (id : Value), evidence.toValue.along? naming.idPath = some id →
      naming = .phaseEnd ∧ id = .text stillActive ∨
        ∃ e ∈ events, evidence.toValue.Records naming e.reference ∧
          e.hasTypeIn (c.expectedTypes setting naming) = true) ∧
    ((∀ naming : Naming, evidence.toValue.along? naming.idPath = none) ↔
      c.source = .eventCount ∧ evidence.toValue.along? ["count"] = some (.int 0)) ∧
    (c.source = .eventCorrelation → ∃ idA idB,
      evidence.toValue.along? Naming.eventA.idPath = some (.text idA) ∧
        evidence.toValue.along? Naming.eventB.idPath = some (.text idB) ∧ idA ≠ idB) := by
  have grounded := grounded_of_detect (detect_of_evaluate matched)
  refine ⟨fun naming id present => ?_, grounded.absent_iff.trans grounded.unnamed_iff,
    fun correlates => ?_⟩
  · rcases Evidence.named_of_present grounded.not_recorded present with
      ⟨event, named⟩ | ⟨ending, marked, -⟩
    · obtain ⟨e, member, rfl, type⟩ := grounded.of_named named
      exact .inr ⟨e, member, Evidence.records_of_named named, type⟩
    · exact .inl ⟨ending, marked⟩
  · obtain ⟨pair, rfl, different⟩ := grounded.pair correlates
    have namedA : (Evidence.correlation pair).named? .eventA = some pair.eventA := rfl
    have namedB : (Evidence.correlation pair).named? .eventB = some pair.eventB := rfl
    exact ⟨pair.eventA.id, pair.eventB.id, (Evidence.records_of_named namedA).id,
      (Evidence.records_of_named namedB).id, different⟩

/-- A condition on two events with the same message. -/
def echo : Condition :=
  { (default : Condition) with
    source := .eventCorrelation
    eventType := some "call"
    correlateEventType := some "answer"
    joinField := some "message" }

/-- An event that says hello. -/
def spoken (id type : String) (sequence : Int) : Event :=
  { (default : Event) with id := id, type := type, sequence := sequence, message := "hello" }

/-- A call with its answer. -/
def echoes : List Event := [spoken "a" "call" 1, spoken "b" "answer" 2]

def echoed : Evidence :=
  .correlation (correlationOf "message" "hello" (spoken "a" "call" 1) (spoken "b" "answer" 2))

theorem echo_grounded :
    echo.evaluate default echoes = .ok (.matched echoed) ∧
      (∀ (naming : Naming) (id : Value), echoed.toValue.along? naming.idPath = some id →
        naming = .phaseEnd ∧ id = .text stillActive ∨
          ∃ e ∈ echoes, echoed.toValue.Records naming e.reference ∧
            e.hasTypeIn (echo.expectedTypes default naming) = true) ∧
      ((∀ naming : Naming, echoed.toValue.along? naming.idPath = none) ↔
        echo.source = .eventCount ∧ echoed.toValue.along? ["count"] = some (.int 0)) ∧
      (echo.source = .eventCorrelation → ∃ idA idB,
        echoed.toValue.along? Naming.eventA.idPath = some (.text idA) ∧
          echoed.toValue.along? Naming.eventB.idPath = some (.text idB) ∧ idA ≠ idB) :=
  ⟨rfl, evaluate_grounded default echo echoes echoed rfl⟩

end Condition

end EnrollmentDiagnosis
