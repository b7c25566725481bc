import EnrollmentDiagnosis.Proofs.AnalysisResults

set_option autoImplicit false

namespace EnrollmentDiagnosis

namespace Diagnosis

/-- The same diagnosis with another identity and time. -/
def stamped (d : Diagnosis) (stamp : Stamp) : Diagnosis :=
  { d with id := stamp.id, detectedAt := stamp.time }

/-- What a diagnosis says, apart from its identity and time. -/
def unstamped (d : Diagnosis) : Diagnosis := d.stamped default

theorem unstamped_addressedTo (d : Diagnosis) (tenant session : String) :
    (d.addressedTo tenant session).unstamped = d.unstamped.addressedTo tenant session := rfl

end Diagnosis

theorem Rule.evaluate_stamped (stamp other : Stamp) (evaluator : Evaluator) (rule : Rule)
    (events : List Event) :
    rule.evaluate other evaluator events =
      (rule.evaluate stamp evaluator events).map (Option.map (·.stamped other)) := by
  unfold Rule.evaluate
  split
  · rfl
  · rfl
  · split
    · rfl
    · split <;> rfl

namespace Analysis

/-- The same engine with other stamps. -/
def Engine.withStamps (engine : Engine) (stampFor : String → Stamp) : Engine :=
  { engine with stampFor := stampFor }

theorem Engine.diagnosis?_unstamped (engine : Engine) (stampFor : String → Stamp)
    (events : List Event) (rule : Rule) :
    ((engine.withStamps stampFor).diagnosis? events rule).map Diagnosis.unstamped =
      (engine.diagnosis? events rule).map Diagnosis.unstamped := by
  have restamped : (engine.withStamps stampFor).evaluate events rule =
      (engine.evaluate events rule).map (Option.map (·.stamped (stampFor rule.id))) :=
    Rule.evaluate_stamped (engine.stampFor rule.id) (stampFor rule.id) engine.evaluator rule events
  simp only [diagnosis?, restamped]
  cases engine.evaluate events rule with
  | error reason => rfl
  | ok found => cases found <;> rfl

theorem analyze_unstamped (engine : Engine) (stampFor : String → Stamp) (rules : List Rule)
    (events : List Event) (evaluated : List String) :
    (analyze (engine.withStamps stampFor) rules events evaluated).map Diagnosis.unstamped =
      (analyze engine rules events evaluated).map Diagnosis.unstamped := by
  by_cases empty : events = []
  · subst empty
    rfl
  · simp only [analyze_of_nonempty empty, List.map_filterMap, Engine.diagnosis?_unstamped]

theorem analyze_ruleIds_withStamps (engine : Engine) (stampFor : String → Stamp)
    (rules : List Rule) (events : List Event) (evaluated : List String) :
    (analyze (engine.withStamps stampFor) rules events evaluated).map (·.ruleId) =
      (analyze engine rules events evaluated).map (·.ruleId) := by
  have same := congrArg (List.map (·.ruleId))
    (analyze_unstamped engine stampFor rules events evaluated)
  rw [List.map_map, List.map_map] at same
  exact same

end Analysis

end EnrollmentDiagnosis
