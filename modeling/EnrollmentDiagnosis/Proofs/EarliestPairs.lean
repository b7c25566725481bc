import EnrollmentDiagnosis.Proofs.GroundedEvidence

set_option autoImplicit false

namespace EnrollmentDiagnosis

/-- Two related elements of a list of which neither could stand earlier: no element before the first
is related to any, and none before the second is related to the first. -/
structure EarliestPair {α : Type} (related : α → α → Prop) (l : List α) (a b : α) : Prop where
  holds : related a b
  first : ∃ before after, l = before ++ a :: after ∧ ∀ x ∈ before, ∀ y ∈ l, ¬related x y
  second : ∃ before after, l = before ++ b :: after ∧ ∀ y ∈ before, ¬related a y

/-- Where a filtered list is split, the list itself splits; what was kept before stays before. -/
theorem split_of_filter {α : Type} {test : α → Bool} {l before after : List α} {a : α}
    (kept : l.filter test = before ++ a :: after) :
    ∃ start rest, l = start ++ a :: rest ∧ ∀ x ∈ start, test x = true → x ∈ before := by
  obtain ⟨start, tail, rfl, keptBefore, keptTail⟩ := List.filter_eq_append_iff.mp kept
  obtain ⟨gap, rest, rfl, dropped, -, -⟩ := List.filter_eq_cons_iff.mp keptTail
  refine ⟨start ++ gap, rest, (List.append_assoc _ _ _).symm, fun x member passes => ?_⟩
  rcases List.mem_append.mp member with early | between
  · rw [← keptBefore]
    exact List.mem_filter.mpr ⟨early, passes⟩
  · exact absurd passes (dropped x between)

/-- True for an event of a type that passes a filter. -/
def Event.isCandidate (type : String) (passes : Event → Bool) (e : Event) : Bool :=
  e.hasType type && passes e

theorem Event.filter_ofType (events : List Event) (type : String) (passes : Event → Bool) :
    (Event.ofType events (some type)).filter passes =
      events.filter (Event.isCandidate type passes) := by
  rw [Event.ofType_some, List.filter_filter]
  exact List.filter_congr fun e _ => Bool.and_comm _ _

namespace Condition

/-- Two events go together for a condition on two types and a join field. -/
structure Pairs (matcher : Matcher) (c : Condition) (typeA typeB joinField : String)
    (a b : Event) : Prop where
  typeA : a.hasType typeA = true
  filterA : c.filterA.passes matcher a = true
  typeB : b.hasType typeB = true
  filterB : c.filterB.passes matcher b = true
  different : a.id ≠ b.id
  joined : ∃ valueA valueB, a.field? joinField = some valueA ∧ valueA ≠ "" ∧
    b.field? joinField = some valueB ∧ Text.fold valueA = Text.fold valueB
  near : ∀ window, c.timeWindowSeconds = some window → 0 < window →
    (Time.seconds (b.time.since a.time)).magnitude.exceeds window = false

variable {matcher : Matcher} {c : Condition} {typeA typeB joinField : String} {a b : Event}

theorem inWindow_iff {delta : Int} :
    c.inWindow delta = true ↔ ∀ window, c.timeWindowSeconds = some window → 0 < window →
      (Time.seconds delta).magnitude.exceeds window = false := by
  unfold inWindow
  cases c.timeWindowSeconds with
  | none => simp
  | some window =>
    simp only [Option.getD_some, Bool.or_eq_true, decide_eq_true_eq, Bool.not_eq_true',
      Option.some.injEq, forall_eq']
    by_cases positive : 0 < window
    · simp only [positive, forall_const, Int.not_le.mpr positive, false_or]
    · simp only [positive, Int.not_lt.mp positive, true_or, false_imp_iff]

theorem pairsWith_iff {joinValue : String} :
    c.pairsWith joinField joinValue a b = true ↔
      a.id ≠ b.id ∧
        (∃ value, b.field? joinField = some value ∧ Text.fold joinValue = Text.fold value) ∧
        c.inWindow (b.time.since a.time) = true := by
  unfold pairsWith
  cases b.field? joinField with
  | none => simp
  | some value =>
    simp only [Bool.and_eq_true, bne_iff_ne, Text.sameFold, beq_iff_eq, Option.some.injEq,
      exists_eq_left', and_assoc]
    exact and_congr ne_comm (and_congr_left' eq_comm)

/-- The search takes two events for a pair if and only if they go together. -/
theorem correlates_iff :
    c.Correlates matcher typeA typeB joinField a b ↔ c.Pairs matcher typeA typeB joinField a b := by
  simp only [Correlates, pairsWith_iff, inWindow_iff]
  constructor
  · rintro ⟨⟨ofA, passesA⟩, ⟨ofB, passesB⟩, valueA, stated, different, ⟨valueB, found, same⟩, near⟩
    exact
      { typeA := ofA
        filterA := passesA
        typeB := ofB
        filterB := passesB
        different := different
        joined := ⟨valueA, valueB, nonempty?_eq_some stated, nonempty?_ne_empty stated, found, same⟩
        near := near }
  · intro pair
    obtain ⟨valueA, valueB, held, stated, found, same⟩ := pair.joined
    refine ⟨⟨pair.typeA, pair.filterA⟩, ⟨pair.typeB, pair.filterB⟩, valueA, ?_, pair.different,
      ⟨valueB, found, same⟩, pair.near⟩
    rw [held, nonempty?_of_ne stated]

/-- An event that a pair starts with is found to start one. -/
theorem pairFor?_of_pairs {events : List Event} (memberB : b ∈ events)
    (pair : c.Pairs matcher typeA typeB joinField a b) :
    a.isCandidate typeA (c.filterA.passes matcher) = true ∧
      (c.pairFor? joinField
        (events.filter (Event.isCandidate typeB (c.filterB.passes matcher))) a).isSome = true := by
  have candidateA : a.isCandidate typeA (c.filterA.passes matcher) = true :=
    Bool.and_eq_true_iff.mpr ⟨pair.typeA, pair.filterA⟩
  have candidateB : b.isCandidate typeB (c.filterB.passes matcher) = true :=
    Bool.and_eq_true_iff.mpr ⟨pair.typeB, pair.filterB⟩
  obtain ⟨-, -, joined⟩ := correlates_iff.mpr pair
  exact ⟨candidateA,
    (pairFor?_isSome _ _ _ _).mpr ⟨b, List.mem_filter.mpr ⟨memberB, candidateB⟩, joined⟩⟩

/-- The second event that the search finds goes with the first, and no earlier one does. -/
theorem pairFor?_earliest {events : List Event} {pair : Correlation}
    (candidateA : a.isCandidate typeA (c.filterA.passes matcher) = true)
    (found : c.pairFor? joinField
      (events.filter (Event.isCandidate typeB (c.filterB.passes matcher))) a = some pair) :
    ∃ b joinValue, a.field? joinField = some joinValue ∧
      pair = correlationOf joinField joinValue a b ∧ c.Pairs matcher typeA typeB joinField a b ∧
      ∃ before after, events = before ++ b :: after ∧
        ∀ e ∈ before, ¬c.Pairs matcher typeA typeB joinField a e := by
  simp only [pairFor?, Option.bind_eq_bind, Option.bind_eq_some_iff, Option.some.injEq] at found
  obtain ⟨joinValue, stated, b, accepted, rfl⟩ := found
  obtain ⟨goes, before, after, split, passed⟩ := List.find?_eq_some_iff_append.mp accepted
  have candidateB : b.isCandidate typeB (c.filterB.passes matcher) = true :=
    (List.mem_filter.mp (List.mem_of_find?_eq_some accepted)).2
  have pair : c.Pairs matcher typeA typeB joinField a b :=
    correlates_iff.mp ⟨Bool.and_eq_true_iff.mp candidateA, Bool.and_eq_true_iff.mp candidateB,
      joinValue, stated, goes⟩
  obtain ⟨start, rest, whole, kept⟩ := split_of_filter split
  refine ⟨b, joinValue, nonempty?_eq_some stated, rfl, pair, start, rest, whole, ?_⟩
  intro e member earlier
  obtain ⟨-, ⟨ofB, passesB⟩, otherValue, otherStated, goesToo⟩ := correlates_iff.mpr earlier
  have refused := passed e (kept e member (Bool.and_eq_true_iff.mpr ⟨ofB, passesB⟩))
  rw [Option.some.inj (stated.symm.trans otherStated), goesToo] at refused
  exact Bool.false_ne_true refused

variable {setting : DetectionSetting} {events : List Event}

/-- The evidence of a correlation is its earliest pair. -/
theorem earliestPair_of_detectCorrelation {evidence : Evidence}
    (namedA : nonempty? c.eventType = some typeA)
    (namedB : nonempty? c.correlateEventType = some typeB)
    (joined : nonempty? c.joinField = some joinField)
    (matched : c.detectCorrelation matcher events = .matched evidence) :
    ∃ a b joinValue, EarliestPair (c.Pairs matcher typeA typeB joinField) events a b ∧
      a.field? joinField = some joinValue ∧
      evidence = .correlation (correlationOf joinField joinValue a b) := by
  simp only [detectCorrelation, namedA, namedB, joined, Event.filter_ofType] at matched
  split at matched
  · cases matched
  · split at matched
    · cases matched
    · obtain ⟨pair, found, rfl⟩ :=
        Option.map_eq_some_iff.mp (Outcome.ofSearch_eq_matched.mp matched)
      obtain ⟨before, a, after, split, paired, passed⟩ := List.findSome?_eq_some_iff.mp found
      have memberA : a ∈ events.filter (Event.isCandidate typeA (c.filterA.passes matcher)) := by
        rw [split]
        exact List.mem_append_right before List.mem_cons_self
      obtain ⟨b, joinValue, stated, rfl, pairs, second⟩ :=
        pairFor?_earliest (List.mem_filter.mp memberA).2 paired
      obtain ⟨start, rest, whole, kept⟩ := split_of_filter split
      refine ⟨a, b, joinValue, ⟨pairs, ⟨start, rest, whole, ?_⟩, second⟩, stated, rfl⟩
      intro x early y member earlier
      obtain ⟨candidate, starts⟩ := pairFor?_of_pairs member earlier
      rw [passed x (kept x early candidate)] at starts
      cases starts

/-- A condition on a failed installation and a snapshot of the same app within a minute. -/
def failureSnapshot : Condition :=
  { (default : Condition) with
    source := .eventCorrelation
    eventType := some "failed"
    correlateEventType := some "snapshot"
    joinField := some "app"
    timeWindowSeconds := some 60 }

/-- An event about an app, some seconds after the first second of the calendar. -/
def appEvent (id type app : String) (second : Int) : Event :=
  { (default : Event) with
    id := id, type := type, time := ⟨1000000 * second⟩, payload := [("app", .text app)] }

/-- Two failures; the snapshot of the first one's app comes too late, and the second one's app has
two snapshots. -/
def appEvents : List Event := [
  appEvent "s1" "Snapshot" "mail" 100, appEvent "f1" "failed" "mail" 0,
  appEvent "f2" "Failed" "VPN" 40, appEvent "s2" "snapshot" "vpn" 30,
  appEvent "s3" "snapshot" "vpn" 41]

/-- The earliest pair that the condition finds in the events. -/
def vpnPair : Evidence :=
  .correlation (correlationOf "app" "VPN" (appEvent "f2" "Failed" "VPN" 40)
    (appEvent "s2" "snapshot" "vpn" 30))

theorem evaluate_failureSnapshot :
    failureSnapshot.evaluate default appEvents = .ok (.matched vpnPair) := rfl

/-- A failure ahead of the pair, whose app is an integer with too many digits, hides it. -/
example : (failureSnapshot.evaluate default ({ appEvent "f0" "failed" "" 0 with
    payload := [("app", .int overlongInteger)] } :: appEvents)).toOption.isSome = false := by
  decide +kernel

end Condition

end EnrollmentDiagnosis
