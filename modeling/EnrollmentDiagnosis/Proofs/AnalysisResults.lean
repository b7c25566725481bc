import EnrollmentDiagnosis.Proofs.RuleSelection

set_option autoImplicit false

namespace EnrollmentDiagnosis

theorem Rule.ruleId_of_evaluate {stamp : Stamp} {evaluator : Evaluator} {rule : Rule}
    {events : List Event} {d : Diagnosis}
    (fired : rule.evaluate stamp evaluator events = .ok (some d)) : d.ruleId = rule.id := by
  unfold Rule.evaluate at fired
  split at fired
  · cases fired
  · cases fired
  · split at fired
    · cases fired
    · split at fired
      · cases fired
      · cases fired
        rfl

namespace Analysis

/-- The diagnosis of a rule; none also when its evaluation fails. -/
def Engine.diagnosis? (engine : Engine) (events : List Event) (rule : Rule) : Option Diagnosis :=
  match engine.evaluate events rule with
  | .ok diagnosis => diagnosis
  | .error _ => none

theorem Engine.diagnosis?_congr {engine other : Engine} {events : List Event} {rule : Rule}
    (same : other.evaluate events rule = engine.evaluate events rule) :
    other.diagnosis? events rule = engine.diagnosis? events rule := by
  simp only [diagnosis?, same]

theorem Engine.diagnosis?_eq_some_iff {engine : Engine} {events : List Event} {rule : Rule}
    {d : Diagnosis} :
    engine.diagnosis? events rule = some d ↔ engine.evaluate events rule = .ok (some d) := by
  unfold Engine.diagnosis?
  split
  · rename_i success
    simp only [success, Except.ok.injEq]
  · rename_i failed
    simp only [failed, reduceCtorEq]

theorem Engine.ruleId_of_diagnosis? {engine : Engine} {events : List Event} {rule : Rule}
    {d : Diagnosis} (fired : engine.diagnosis? events rule = some d) : d.ruleId = rule.id :=
  Rule.ruleId_of_evaluate (Engine.diagnosis?_eq_some_iff.mp fired)

/-- Without the diagnoses of its identity a rule has none. -/
theorem Engine.filter_of_ruleId (engine : Engine) (events : List Event) {rule : Rule}
    {ruleId : String} (same : rule.id = ruleId) :
    (engine.diagnosis? events rule).filter (·.ruleId ≠ ruleId) = none := by
  cases fired : engine.diagnosis? events rule with
  | none => rfl
  | some d =>
    have named : d.ruleId = ruleId := (Engine.ruleId_of_diagnosis? fired).trans same
    simp [Option.filter, named]

theorem analyze_of_nonempty {events : List Event} (nonempty : events ≠ []) (engine : Engine)
    (rules : List Rule) (evaluated : List String) :
    analyze engine rules events evaluated =
      (selected rules evaluated).filterMap (engine.diagnosis? (Event.sort events)) := by
  have present : events.isEmpty = false := by simpa using nonempty
  simp only [analyze, present, Bool.false_eq_true, ↓reduceIte]
  rfl

theorem analyze_single {rule : Rule} (enabled : rule.enabled = true) {events : List Event}
    (nonempty : events ≠ []) (engine : Engine) :
    analyze engine [rule] events [] = (engine.diagnosis? (Event.sort events) rule).toList := by
  rw [analyze_of_nonempty nonempty, selected_cons_taken enabled List.not_mem_nil]
  cases fired : engine.diagnosis? (Event.sort events) rule with
  | none => exact List.filterMap_cons_none fired
  | some d => exact List.filterMap_cons_some fired

theorem mem_analyze {engine : Engine} {rules : List Rule} {events : List Event}
    {evaluated : List String} {d : Diagnosis} (member : d ∈ analyze engine rules events evaluated) :
    ∃ rule ∈ selected rules evaluated, engine.diagnosis? (Event.sort events) rule = some d := by
  by_cases empty : events = []
  · subst empty
    cases member
  · rw [analyze_of_nonempty empty] at member
    exact List.mem_filterMap.mp member

theorem mem_analyze_single {engine : Engine} {rule : Rule} {events : List Event} {d : Diagnosis}
    (member : d ∈ analyze engine [rule] events []) :
    rule.enabled = true ∧ events ≠ [] ∧
      engine.evaluate (Event.sort events) rule = .ok (some d) := by
  have nonempty : events ≠ [] := by
    rintro rfl
    cases member
  by_cases enabled : rule.enabled = true
  · rw [analyze_single enabled nonempty] at member
    exact ⟨enabled, nonempty, Engine.diagnosis?_eq_some_iff.mp (Option.mem_toList.mp member)⟩
  · have passed : selected [rule] [] = [] :=
      selected_cons_passed (.inl (Bool.eq_false_iff.mpr enabled)) []
    rw [analyze_of_nonempty nonempty, passed] at member
    cases member

theorem analyze_single_of_evaluate {engine : Engine} {rule : Rule} (enabled : rule.enabled = true)
    {events : List Event} (nonempty : events ≠ []) {d : Diagnosis}
    (fired : engine.evaluate (Event.sort events) rule = .ok (some d)) :
    analyze engine [rule] events [] = [d] := by
  rw [analyze_single enabled nonempty, Engine.diagnosis?_eq_some_iff.mpr fired, Option.toList_some]

theorem ruleId_notMem_evaluated {engine : Engine} {rules : List Rule} {events : List Event}
    {evaluated : List String} {d : Diagnosis} (member : d ∈ analyze engine rules events evaluated) :
    d.ruleId ∉ evaluated := by
  obtain ⟨rule, picked, fired⟩ := mem_analyze member
  rw [Engine.ruleId_of_diagnosis? fired]
  exact selected_fresh rules evaluated rule picked

private theorem filterMap_ruleIds_sublist (engine : Engine) (events : List Event)
    (rules : List Rule) :
    ((rules.filterMap (engine.diagnosis? events)).map (·.ruleId)).Sublist (rules.map (·.id)) := by
  induction rules with
  | nil => exact List.Sublist.refl _
  | cons rule rest ih =>
    cases fired : engine.diagnosis? events rule with
    | none =>
      rw [List.filterMap_cons_none fired]
      exact ih.cons rule.id
    | some d =>
      rw [List.filterMap_cons_some fired, List.map_cons, List.map_cons,
        Engine.ruleId_of_diagnosis? fired]
      exact ih.cons_cons rule.id

theorem analyze_ruleIds_nodup (engine : Engine) (rules : List Rule) (events : List Event)
    (evaluated : List String) : ((analyze engine rules events evaluated).map (·.ruleId)).Nodup := by
  by_cases empty : events = []
  · subst empty
    exact List.nodup_nil
  · rw [analyze_of_nonempty empty]
    exact (selected_ids_nodup rules evaluated).sublist
      (filterMap_ruleIds_sublist engine (Event.sort events) _)

theorem analyze_append {events : List Event} (nonempty : events ≠ []) (engine : Engine)
    (first second : List Rule) (evaluated : List String) :
    analyze engine (first ++ second) events evaluated =
      analyze engine first events evaluated ++
        analyze engine second events (evaluated ++ enabledIds first) := by
  simp only [analyze_of_nonempty nonempty, selected_append, List.filterMap_append]

/-- With more rules evaluated the same diagnoses come out, without those of the rules evaluated. -/
theorem analyze_of_subset (engine : Engine) (rules : List Rule) (events : List Event)
    {evaluated more : List String} (part : evaluated ⊆ more) :
    analyze engine rules events more =
      (analyze engine rules events evaluated).filter (·.ruleId ∉ more) := by
  by_cases empty : events = []
  · subst empty
    rfl
  · simp only [analyze_of_nonempty empty, selected_of_subset rules part, List.filterMap_filter,
      List.filter_filterMap]
    apply List.filterMap_congr
    intro rule _
    cases fired : engine.diagnosis? (Event.sort events) rule with
    | none => simp
    | some d =>
      have named := Engine.ruleId_of_diagnosis? fired
      by_cases member : rule.id ∈ more <;> simp [Option.filter, named, member]

/-- How the rules with one identity are evaluated matters to no other diagnosis. -/
theorem analyze_of_agreeing {engine other : Engine} {rules : List Rule} {events : List Event}
    {ruleId : String}
    (agree : ∀ rule ∈ rules, rule.id ≠ ruleId →
      other.evaluate (Event.sort events) rule = engine.evaluate (Event.sort events) rule)
    (evaluated : List String) :
    (analyze other rules events evaluated).filter (·.ruleId ≠ ruleId) =
      (analyze engine rules events evaluated).filter (·.ruleId ≠ ruleId) := by
  by_cases empty : events = []
  · subst empty
    rfl
  · simp only [analyze_of_nonempty empty, List.filter_filterMap]
    apply List.filterMap_congr
    intro rule picked
    by_cases same : rule.id = ruleId
    · rw [Engine.filter_of_ruleId other _ same, Engine.filter_of_ruleId engine _ same]
    · have member := (selected_sublist rules evaluated).subset picked
      rw [Engine.diagnosis?_congr (agree rule member same)]

end Analysis

end EnrollmentDiagnosis
