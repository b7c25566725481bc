import EnrollmentDiagnosis.Proofs.AnsweredConditions

set_option autoImplicit false

namespace EnrollmentDiagnosis

@[simp] theorem Outcome.isMatch_matched (evidence : Evidence) :
    (Outcome.matched evidence).isMatch = true := rfl

@[simp] theorem Outcome.isMatch_unmatched (reason : Reason) :
    (Outcome.unmatched reason).isMatch = false := rfl

@[simp] theorem Outcome.isMatch_ofSearch (reason : Reason) (found : Option Evidence) :
    (Outcome.ofSearch reason found).isMatch = found.isSome := by
  cases found with
  | none => rfl
  | some evidence => rfl

theorem Outcome.ofSearch_eq_matched {reason : Reason} {found : Option Evidence}
    {evidence : Evidence} :
    Outcome.ofSearch reason found = .matched evidence ↔ found = some evidence := by
  cases found with
  | none => simp [ofSearch]
  | some kept => simp [ofSearch]

theorem Event.ofType_some (events : List Event) (type : String) :
    Event.ofType events (some type) = events.filter (·.hasType type) := rfl

theorem nonempty?_ne_empty {text : Option String} {s : String} (named : nonempty? text = some s) :
    s ≠ "" := by
  rintro rfl
  rw [nonempty?_eq_some named] at named
  cases named

theorem nonempty?_of_ne {text : String} (given : text ≠ "") :
    nonempty? (some text) = some text := by
  unfold nonempty?
  split
  · rename_i empty
    exact absurd (Option.some.inj empty) given
  · rfl

theorem findWithNext?_isSome {α : Type} (test : α → Bool) (l : List α) :
    (findWithNext? test l).isSome = true ↔ ∃ a ∈ l, test a = true := by
  induction l with
  | nil => simp [findWithNext?]
  | cons a rest ih =>
    unfold findWithNext?
    split
    · rename_i found
      simp [found]
    · rename_i other
      simp [ih, other]

namespace Condition

variable (matcher : Matcher) (c : Condition) (events : List Event)

theorem fieldMatch?_isSome :
    (c.fieldMatch? matcher events).isSome = true ↔
      ∃ e ∈ events, c.acceptsField matcher e = true := by
  rw [fieldMatch?, Option.isSome_map, List.find?_isSome]

theorem detectOccurrence_isMatch_iff :
    (c.detectOccurrence matcher events).isMatch = true ↔
      ∃ e ∈ Event.ofType events c.eventType,
        (nonempty? c.dataField).isSome = true → c.acceptsField matcher e = true := by
  unfold detectOccurrence
  split
  · rename_i none_found
    simp [none_found]
  · rename_i first rest found
    rw [found]
    split
    · rename_i named
      simp only [named, forall_const, Outcome.isMatch_ofSearch, fieldMatch?_isSome]
    · rename_i unnamed
      simp only [Outcome.isMatch_matched, true_iff]
      exact ⟨first, List.mem_cons_self, fun named => absurd named unnamed⟩

theorem detectData_isMatch_iff :
    (c.detectData matcher events).isMatch = true ↔
      ∃ e ∈ Event.ofType events c.eventType, c.acceptsField matcher e = true := by
  rw [detectData, Outcome.isMatch_ofSearch, fieldMatch?_isSome]

theorem detectCount_isMatch_iff :
    (c.detectCount events).isMatch = true ↔
      ∃ threshold, c.countThreshold? = some threshold ∧
        threshold ≤ ((Event.ofType events c.eventType).length : Int) := by
  unfold detectCount
  cases limit : c.countThreshold? with
  | none => simp
  | some threshold =>
    simp only [Option.some.injEq, exists_eq_left']
    split
    · rename_i low
      simp only [Outcome.isMatch_unmatched, Bool.false_eq_true, false_iff]
      omega
    · rename_i high
      simp only [Outcome.isMatch_matched, true_iff]
      omega

theorem detectPhase_isMatch_iff (setting : DetectionSetting) :
    (c.detectPhase setting events).isMatch = true ↔
      ∃ target, nonempty? c.value = some target ∧
        ∃ e ∈ events, e.hasType setting.phaseChangeType = true ∧
          c.entersPhase target e = true := by
  have changes : ∀ e, e ∈ Event.sort (events.filter (·.hasType setting.phaseChangeType)) ↔
      e ∈ events ∧ e.hasType setting.phaseChangeType = true := by
    intro e
    rw [(Event.sort_perm _).mem_iff, List.mem_filter]
  unfold detectPhase
  split
  · rename_i empty
    simp only [empty, List.not_mem_nil, false_iff] at changes
    simp only [Outcome.isMatch_unmatched, Bool.false_eq_true, false_iff]
    rintro ⟨target, -, e, member, change, -⟩
    exact changes e ⟨member, change⟩
  · cases wanted : nonempty? c.value with
    | none => simp
    | some target =>
      have entered := findWithNext?_isSome (c.entersPhase target)
        (Event.sort (events.filter (·.hasType setting.phaseChangeType)))
      simp only [changes, and_assoc] at entered
      simp only [Option.some.injEq, exists_eq_left', ← entered, Outcome.isMatch_ofSearch,
        Option.isSome_map]

/-- The starts of installations, in canonical order. -/
def installStarts (events : List Event) : List Event :=
  (Event.sort events).filter (·.hasTypeIn installStartTypes)

theorem installOf?_isSome (starts : List Event) (completion : Event) :
    (c.installOf? matcher starts completion).isSome = true ↔
      ∃ appKey start, completion.appKey? = some appKey ∧
        Event.latestStart? starts completion.time appKey = some start ∧
        Operator.accepts matcher c.operator (some (installSeconds start completion)) c.value =
          true := by
  unfold installOf?
  cases key : completion.appKey? with
  | none => simp
  | some appKey =>
    cases latest : Event.latestStart? starts completion.time appKey with
    | none => simp [latest]
    | some start => simp [latest]

theorem detectInstall_isMatch_iff :
    (c.detectInstall matcher events).isMatch = true ↔
      ∃ completion ∈ events, completion.hasTypeIn c.completionTypes = true ∧
        (c.installOf? matcher (installStarts events) completion).isSome = true := by
  have installed : (c.detectInstall matcher events).isMatch =
      (((Event.sort events).filter (·.hasTypeIn c.completionTypes)).findSome?
        (c.installOf? matcher (installStarts events))).isSome := by
    rw [detectInstall, Outcome.isMatch_ofSearch, Option.isSome_map]
    rfl
  rw [installed]
  simp only [List.isSome_findSome?, List.any_eq_true, List.mem_filter, Event.mem_sort, and_assoc]

/-- Two events that a condition takes for a pair. -/
def Correlates (matcher : Matcher) (c : Condition) (typeA typeB joinField : String)
    (a b : Event) : Prop :=
  (a.hasType typeA = true ∧ c.filterA.passes matcher a = true) ∧
    (b.hasType typeB = true ∧ c.filterB.passes matcher b = true) ∧
    ∃ joinValue, nonempty? (a.field? joinField) = some joinValue ∧
      c.pairsWith joinField joinValue a b = true

theorem pairFor?_isSome (joinField : String) (candidates : List Event) (a : Event) :
    (c.pairFor? joinField candidates a).isSome = true ↔
      ∃ b ∈ candidates, ∃ joinValue, nonempty? (a.field? joinField) = some joinValue ∧
        c.pairsWith joinField joinValue a b = true := by
  unfold pairFor?
  cases join : nonempty? (a.field? joinField) with
  | none => simp
  | some joinValue =>
    cases found : candidates.find? (c.pairsWith joinField joinValue a) with
    | none =>
      simpa [found] using List.find?_eq_none.mp found
    | some b =>
      have member := List.mem_of_find?_eq_some found
      have pair := List.find?_some found
      simp only [Option.bind_eq_bind, Option.bind_some, found, Option.isSome_some,
        Option.some.injEq, exists_eq_left', true_iff]
      exact ⟨b, member, pair⟩

theorem detectCorrelation_isMatch_iff :
    (c.detectCorrelation matcher events).isMatch = true ↔
      ∃ typeA typeB joinField, nonempty? c.eventType = some typeA ∧
        nonempty? c.correlateEventType = some typeB ∧ nonempty? c.joinField = some joinField ∧
          ∃ a ∈ events, ∃ b ∈ events, c.Correlates matcher typeA typeB joinField a b := by
  unfold detectCorrelation
  split
  · rename_i typeA typeB joinField namedA namedB joined
    have candidates : (((Event.ofType events (some typeA)).filter
        (c.filterA.passes matcher)).findSome? (c.pairFor? joinField
          ((Event.ofType events (some typeB)).filter (c.filterB.passes matcher)))).isSome =
        true ↔ ∃ a ∈ events, ∃ b ∈ events, c.Correlates matcher typeA typeB joinField a b := by
      simp only [List.isSome_findSome?, List.any_eq_true, pairFor?_isSome, List.mem_filter,
        Event.ofType_some, Correlates]
      constructor
      · rintro ⟨a, ⟨⟨memberA, ofA⟩, passesA⟩, b, ⟨⟨memberB, ofB⟩, passesB⟩, pair⟩
        exact ⟨a, memberA, b, memberB, ⟨ofA, passesA⟩, ⟨ofB, passesB⟩, pair⟩
      · rintro ⟨a, memberA, b, memberB, ⟨ofA, passesA⟩, ⟨ofB, passesB⟩, pair⟩
        exact ⟨a, ⟨⟨memberA, ofA⟩, passesA⟩, b, ⟨⟨memberB, ofB⟩, passesB⟩, pair⟩
    simp only [namedA, namedB, joined, Option.some.injEq, exists_eq_left', exists_and_left,
      ← candidates]
    split
    · rename_i noneA
      simp [noneA]
    · split
      · rename_i noneB
        simp [noneB, pairFor?_isSome]
      · rw [Outcome.isMatch_ofSearch, Option.isSome_map]
  · rename_i incomplete
    simp only [Outcome.isMatch_unmatched, Bool.false_eq_true, false_iff]
    rintro ⟨typeA, typeB, joinField, namedA, namedB, joined, -⟩
    exact incomplete typeA typeB joinField namedA namedB joined

/-- Only a pattern that can be searched for is found. -/
theorem searchable_of_accepts {matcher : Matcher} {field : Option String} {pattern : String}
    (accepted : Operator.accepts matcher (some .regex) field (some pattern) = true) :
    ∃ occursIn, matcher pattern = .ok occursIn := by
  cases field with
  | none =>
    rw [Operator.accepts_absent] at accepted
    cases accepted
  | some text =>
    have found : matcher.occurs pattern text = true := accepted
    unfold Matcher.occurs at found
    cases search : matcher pattern with
    | ok occursIn => exact ⟨occursIn, rfl⟩
    | error message =>
      rw [search] at found
      cases found

theorem searchable_of_passes {matcher : Matcher} {f : Filter} {e : Event} {pattern : String}
    (searched : f.SearchesFor pattern) (passes : f.passes matcher e = true) :
    ∃ occursIn, matcher pattern = .ok occursIn := by
  obtain ⟨named, regex, value⟩ := searched
  obtain ⟨field, field_eq⟩ := Option.isSome_iff_exists.mp named
  simp only [Filter.passes, field_eq, regex, value] at passes
  exact searchable_of_accepts passes

section Matching

variable {setting : DetectionSetting} {c : Condition} {events : List Event}

theorem searchable_of_acceptsField {pattern : String} {e : Event}
    (searched : c.filterB.SearchesFor pattern)
    (accepted : c.acceptsField setting.matcher e = true) :
    ∃ occursIn, setting.matcher pattern = .ok occursIn := by
  obtain ⟨-, regex, value⟩ := searched
  have operator : c.operator = some .regex := regex
  have compared : c.value = some pattern := value
  rw [acceptsField, operator, compared] at accepted
  exact searchable_of_accepts accepted

/-- The patterns of a condition that matches can be searched for. -/
theorem searchable_of_isMatch (matched : (c.detect setting events).isMatch = true)
    {pattern : String} (searched : c.SearchesFor pattern) :
    ∃ occursIn, setting.matcher pattern = .ok occursIn := by
  unfold detect at matched
  unfold SearchesFor at searched
  cases source : c.source with
  | eventType =>
    simp only [source, detectOccurrence_isMatch_iff] at matched searched
    obtain ⟨e, -, accepted⟩ := matched
    exact searchable_of_acceptsField searched (accepted searched.1)
  | eventData =>
    simp only [source, detectData_isMatch_iff] at matched searched
    obtain ⟨e, -, accepted⟩ := matched
    exact searchable_of_acceptsField searched accepted
  | appInstallDuration =>
    simp only [source, detectInstall_isMatch_iff] at matched searched
    obtain ⟨completion, -, -, installed⟩ := matched
    obtain ⟨appKey, start, -, -, accepted⟩ := (installOf?_isSome _ _ _ _).mp installed
    rw [searched.1, searched.2] at accepted
    exact searchable_of_accepts accepted
  | eventCorrelation =>
    simp only [source, detectCorrelation_isMatch_iff] at matched searched
    obtain ⟨-, -, -, -, -, -, a, -, b, -, ⟨-, passesA⟩, ⟨-, passesB⟩, -⟩ := matched
    rcases searched with searchedA | searchedB
    · exact searchable_of_passes searchedA passesA
    · exact searchable_of_passes searchedB passesB
  | phaseDuration | eventCount | unknown =>
    simp only [source] at searched

/-- A condition that the plain search finds matches, unless an integer that is looked up has too
many digits: its patterns were all found, so none of them ends the search. -/
theorem matches_or_unwritten (matched : (c.detect setting events).isMatch = true) :
    c.Matches setting events ∨ c.Unwritten setting events := by
  rcases (answers_evaluate setting c events).eq_ok_or_error with
    returned | ⟨fault, failed, hindered⟩
  · cases outcome : c.detect setting events with
    | matched evidence => exact .inl ⟨evidence, returned.trans (congrArg Except.ok outcome)⟩
    | unmatched reason =>
      rw [outcome] at matched
      cases matched
  · cases hindered with
    | illegible member looked illegible => exact .inr ⟨failed, _, member, _, looked, illegible⟩
    | refused searched refused =>
      obtain ⟨occursIn, searches⟩ := searchable_of_isMatch matched searched
      cases searches.symm.trans refused

theorem misses_of_not_isMatch (unmatched : ¬(c.detect setting events).isMatch = true) :
    c.Misses setting events := by
  rcases (answers_evaluate setting c events).eq_ok_or_error with returned | hindered
  · cases outcome : c.detect setting events with
    | matched evidence =>
      rw [outcome] at unmatched
      exact absurd rfl unmatched
    | unmatched reason => exact .inl ⟨reason, returned.trans (congrArg Except.ok outcome)⟩
  · exact .inr hindered

end Matching

end Condition

end EnrollmentDiagnosis
