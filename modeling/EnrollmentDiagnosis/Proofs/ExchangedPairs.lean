import EnrollmentDiagnosis.Proofs.CaseFolding
import EnrollmentDiagnosis.Proofs.EarliestPairs

set_option autoImplicit false

namespace EnrollmentDiagnosis

/-- The sign of a quotient is all that its magnitude leaves out. -/
theorem Number.Binary64.magnitude_ofRatio (negative : Bool) (num den : Nat) :
    (ofRatio negative num den).magnitude = ofRatio false num den := by
  simp only [ofRatio, apply_ite magnitude]
  rfl

/-- A time has the same length in both directions. -/
theorem Time.magnitude_seconds_neg (delta : Int) :
    (Time.seconds (-delta)).magnitude = (Time.seconds delta).magnitude := by
  simp only [Time.seconds, Number.Binary64.magnitude_ofRatio, Int.natAbs_neg]

namespace Condition

/-- The condition in which the two events of a pair change places: their types, and the filters that
they pass. -/
def exchanged (c : Condition) : Condition :=
  { c with
    eventType := c.correlateEventType
    correlateEventType := c.eventType
    eventAFilterField := c.dataField
    eventAFilterOperator := c.operator
    eventAFilterValue := c.value
    dataField := c.eventAFilterField
    operator := c.eventAFilterOperator
    value := c.eventAFilterValue }

@[simp] theorem exchanged_exchanged (c : Condition) : c.exchanged.exchanged = c := rfl

variable {matcher : Matcher} {c : Condition} {typeA typeB joinField : String} {a b : Event}

/-- Two events that go together do so in the other order for the exchanged condition. -/
theorem Pairs.exchange (pair : c.Pairs matcher typeA typeB joinField a b) :
    c.exchanged.Pairs matcher typeB typeA joinField b a := by
  obtain ⟨valueA, valueB, held, stated, found, same⟩ := pair.joined
  have statedB : valueB ≠ "" := by
    rintro rfl
    exact stated (Text.fold_eq_empty_iff.mp same)
  exact
    { typeA := pair.typeB
      filterA := pair.filterB
      typeB := pair.typeA
      filterB := pair.filterA
      different := pair.different.symm
      joined := ⟨valueB, valueA, found, statedB, held, same.symm⟩
      near := by
        intro window limited positive
        have back : a.time.since b.time = -(b.time.since a.time) := (Int.neg_sub _ _).symm
        rw [back, Time.magnitude_seconds_neg]
        exact pair.near window limited positive }

theorem pairs_exchanged_iff :
    c.exchanged.Pairs matcher typeB typeA joinField b a ↔
      c.Pairs matcher typeA typeB joinField a b :=
  ⟨Pairs.exchange, Pairs.exchange⟩

theorem detectCorrelation_exchanged_isMatch_iff (c : Condition) (events : List Event) :
    (c.exchanged.detectCorrelation matcher events).isMatch = true ↔
      (c.detectCorrelation matcher events).isMatch = true := by
  simp only [detectCorrelation_isMatch_iff, correlates_iff]
  constructor
  · rintro ⟨typeB, typeA, joinField, namedB, namedA, joined, b, memberB, a, memberA, pair⟩
    exact ⟨typeA, typeB, joinField, namedA, namedB, joined, a, memberA, b, memberB,
      pairs_exchanged_iff.mp pair⟩
  · rintro ⟨typeA, typeB, joinField, namedA, namedB, joined, a, memberA, b, memberB, pair⟩
    exact ⟨typeB, typeA, joinField, namedB, namedA, joined, b, memberB, a, memberA,
      pairs_exchanged_iff.mpr pair⟩

theorem exchanged_matches_of_matches {setting : DetectionSetting} {events : List Event}
    (correlates : c.source = .eventCorrelation) (matched : c.Matches setting events) :
    c.exchanged.Matches setting events ∨ c.exchanged.Unwritten setting events := by
  have same : c.exchanged.source = .eventCorrelation := correlates
  obtain ⟨evidence, returned⟩ := matched
  apply matches_or_unwritten
  have found : (c.detect setting events).isMatch = true := by
    rw [detect_of_evaluate returned]
    rfl
  simp only [detect, correlates, same] at found ⊢
  exact (detectCorrelation_exchanged_isMatch_iff c events).mpr found

/-- A condition on a failed installation and a snapshot of the same app, with a filter on the
snapshot alone. -/
def filteredSnapshot : Condition :=
  { failureSnapshot with dataField := some "app", operator := some .contains, value := some "p" }

end Condition

end EnrollmentDiagnosis
