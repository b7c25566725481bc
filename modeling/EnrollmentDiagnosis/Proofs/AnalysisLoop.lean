import EnrollmentDiagnosis.Proofs.DiagnosisStamps

set_option autoImplicit false

namespace EnrollmentDiagnosis.Analysis

/-- What the loop has come to after some of the rules. -/
structure Progress where
  skip : List String
  diagnoses : List Diagnosis
  notices : List String

/-- One more rule: it is passed over, or skipped from then on and evaluated. A failure is caught. -/
def Engine.consider (engine : Engine) (ordered : List Event) (progress : Progress) (rule : Rule) :
    Except String Progress :=
  if !rule.enabled || progress.skip.contains rule.id then .ok progress
  else
    let skip := rule.id :: progress.skip
    let notices := progress.notices ++ ruleNotices engine ordered rule
    tryCatch
      (do
        let diagnosis ← engine.evaluate ordered rule
        return ⟨skip, progress.diagnoses ++ diagnosis.toList, notices⟩)
      fun _ => return ⟨skip, progress.diagnoses, notices⟩

/-- One pass over all rules. -/
def Engine.pass (engine : Engine) (maxEvents : Int) (rules : List Rule) (events : List Event)
    (evaluated : List String) : Except String Progress :=
  if events.isEmpty then .ok ⟨evaluated, [], []⟩
  else
    let ordered := Event.sort events
    rules.foldlM (engine.consider ordered) ⟨evaluated, [], sizeNotices maxEvents ordered.length⟩

/-- The progress after an evaluation, whether it failed or not. -/
def Progress.after (progress : Progress) (engine : Engine) (ordered : List Event) (rule : Rule) :
    Progress :=
  ⟨rule.id :: progress.skip,
    progress.diagnoses ++ (engine.diagnosis? ordered rule).toList,
    progress.notices ++ ruleNotices engine ordered rule⟩

theorem consider_passed {progress : Progress} {rule : Rule}
    (passed : rule.enabled = false ∨ rule.id ∈ progress.skip) (engine : Engine)
    (ordered : List Event) : engine.consider ordered progress rule = .ok progress := by
  have guard : (!rule.enabled || progress.skip.contains rule.id) = true := by
    rcases passed with disabled | member
    · simp [disabled]
    · simp [member]
  simp only [Engine.consider, guard, ↓reduceIte]

theorem consider_taken {progress : Progress} {rule : Rule} (enabled : rule.enabled = true)
    (fresh : rule.id ∉ progress.skip) (engine : Engine) (ordered : List Event) :
    engine.consider ordered progress rule = .ok (progress.after engine ordered rule) := by
  have guard : (!rule.enabled || progress.skip.contains rule.id) = false := by
    simp [enabled, fresh]
  simp only [Engine.consider, guard, Bool.false_eq_true, ↓reduceIte, Progress.after,
    Engine.diagnosis?]
  cases engine.evaluate ordered rule with
  | ok diagnosis => rfl
  | error reason =>
    simp only [Option.toList_none, List.append_nil]
    rfl

/-- The loop never fails: every failure is caught by the step in which it occurs. -/
theorem foldlM_consider (engine : Engine) (ordered : List Event) (rules : List Rule)
    (progress : Progress) :
    rules.foldlM (engine.consider ordered) progress =
      .ok ⟨((selected rules progress.skip).map (·.id)).reverse ++ progress.skip,
        progress.diagnoses ++
          (selected rules progress.skip).filterMap (engine.diagnosis? ordered),
        progress.notices ++
          (selected rules progress.skip).flatMap (ruleNotices engine ordered)⟩ := by
  induction rules generalizing progress with
  | nil =>
    simp only [selected, List.map_nil, List.reverse_nil, List.nil_append, List.filterMap_nil,
      List.append_nil, List.flatMap_nil]
    rfl
  | cons rule rest ih =>
    rw [List.foldlM_cons]
    by_cases passed : rule.enabled = false ∨ rule.id ∈ progress.skip
    · rw [consider_passed passed, selected_cons_passed passed]
      exact ih progress
    · obtain ⟨enabled, fresh⟩ := not_or.mp passed
      have enabled : rule.enabled = true := by simpa using enabled
      rw [consider_taken enabled fresh, selected_cons_taken enabled fresh]
      refine (ih (progress.after engine ordered rule)).trans ?_
      simp only [Progress.after, List.map_cons, List.reverse_cons, List.append_assoc,
        List.singleton_append, List.flatMap_cons, Except.ok.injEq, Progress.mk.injEq, true_and,
        and_true]
      cases fired : engine.diagnosis? ordered rule with
      | none => rw [List.filterMap_cons_none fired, Option.toList_none, List.nil_append]
      | some d => rw [List.filterMap_cons_some fired, Option.toList_some, List.singleton_append]

/-- One pass comes to the diagnoses and the notices of the analysis. -/
theorem pass_eq (engine : Engine) (maxEvents : Int) (rules : List Rule) (events : List Event)
    (evaluated : List String) :
    ∃ skip, engine.pass maxEvents rules events evaluated =
      .ok ⟨skip, analyze engine rules events evaluated,
        notices engine maxEvents rules events evaluated⟩ := by
  by_cases empty : events = []
  · subst empty
    exact ⟨evaluated, rfl⟩
  · have present : events.isEmpty = false := by simpa using empty
    refine ⟨((selected rules evaluated).map (·.id)).reverse ++ evaluated, ?_⟩
    simp only [Engine.pass, notices, analyze_of_nonempty empty, present, Bool.false_eq_true,
      ↓reduceIte, foldlM_consider, List.nil_append]

/-- An analysis never fails, whatever the evaluator does and however many events are expected. It
gives the diagnoses of the first enabled rule of each identity that is not evaluated yet, in the
order of the rules, and under other stamps the same ones; a rule that fails costs its own diagnosis
only, whatever it had come to otherwise, and a list of rules can be analyzed in two parts. -/
theorem analyze_first_enabled (engine : Engine) (rules : List Rule) (events : List Event)
    (evaluated : List String) (nonempty : events ≠ []) :
    (∀ maxEvents : Int, ∃ progress,
      engine.pass maxEvents rules events evaluated = .ok progress ∧
        progress.diagnoses = analyze engine rules events evaluated) ∧
    analyze engine rules events evaluated =
      (firstEnabled rules evaluated).filterMap (engine.diagnosis? (Event.sort events)) ∧
    (∀ stampFor : String → Stamp,
      (analyze engine rules events evaluated).map Diagnosis.unstamped =
        ((firstEnabled rules evaluated).filterMap
          ((engine.withStamps stampFor).diagnosis? (Event.sort events))).map Diagnosis.unstamped) ∧
    ((analyze engine rules events evaluated).map (·.ruleId)).Nodup ∧
    (∀ d ∈ analyze engine rules events evaluated, d.ruleId ∉ evaluated) ∧
    (∀ (other : Engine) (ruleId : String),
      (∀ rule ∈ rules, rule.id ≠ ruleId →
        other.evaluate (Event.sort events) rule = engine.evaluate (Event.sort events) rule) →
      (analyze other rules events evaluated).filter (·.ruleId ≠ ruleId) =
        (analyze engine rules events evaluated).filter (·.ruleId ≠ ruleId)) ∧
    (∀ first second : List Rule, rules = first ++ second →
      analyze engine rules events evaluated =
        analyze engine first events evaluated ++
          analyze engine second events (evaluated ++ enabledIds first)) := by
  refine ⟨fun maxEvents => ?_, ?_, fun stampFor => ?_,
    analyze_ruleIds_nodup engine rules events evaluated,
    fun d member => ruleId_notMem_evaluated member, fun other ruleId agree => ?_, ?_⟩
  · obtain ⟨skip, passed⟩ := pass_eq engine maxEvents rules events evaluated
    exact ⟨_, passed, rfl⟩
  · rw [analyze_of_nonempty nonempty, selected_eq_firstEnabled]
  · rw [← analyze_unstamped engine stampFor, analyze_of_nonempty nonempty,
      selected_eq_firstEnabled]
  · exact analyze_of_agreeing agree evaluated
  · rintro first second rfl
    exact analyze_append nonempty engine first second evaluated

/-- A rule with one required condition. -/
def oneConditionRule (id signal : String) : Rule :=
  { (default : Rule) with
    id := id
    enabled := true
    conditions := [{ (default : Condition) with signal := signal, required := true }] }

/-- An engine that crashes on one signal and finds every other one. -/
def crashingEngine : Engine :=
  ⟨fun c _ => if c.signal = "crash" then .error "down" else .ok (.matched .mark), fun _ => default⟩

/-- The crashed rule keeps the later rule with its identity from being evaluated. -/
theorem crashed_rule_shadows :
    [(default : Event)] ≠ [] ∧
      (analyze crashingEngine [oneConditionRule "a" "crash", oneConditionRule "a" "found",
        oneConditionRule "b" "found", oneConditionRule "c" "found"] [default] ["b"]).map
          (·.ruleId) = ["c"] := by
  refine ⟨List.cons_ne_nil _ _, ?_⟩
  rw [(analyze_first_enabled crashingEngine _ [default] ["b"] (List.cons_ne_nil _ _)).2.1]
  rfl

end EnrollmentDiagnosis.Analysis
