import EnrollmentDiagnosis.Proofs.AnalysisResults
import EnrollmentDiagnosis.Proofs.CountedFactors
import Mathlib.Data.List.Perm.Subperm

set_option autoImplicit false

namespace EnrollmentDiagnosis

section LaterEvents

variable {events later : List Event}

theorem Event.ofType_subperm (part : events.Subperm later) (type : Option String) :
    (Event.ofType events type).Subperm (Event.ofType later type) := by
  cases type with
  | none => exact List.Subperm.refl _
  | some t => exact part.filter _

theorem Event.countOfType_le (part : events.Subperm later) (type : String) :
    Event.countOfType events type ≤ Event.countOfType later type := part.countP_le _

/-- A condition that matches some events matches more events too, unless it is about
installations: a late start can shorten a span. -/
theorem Condition.detect_isMatch_of_subperm (part : events.Subperm later)
    (setting : DetectionSetting) {c : Condition} (other : c.source ≠ .appInstallDuration)
    (matched : (c.detect setting events).isMatch = true) :
    (c.detect setting later).isMatch = true := by
  unfold Condition.detect at matched ⊢
  split at matched
  · rw [detectOccurrence_isMatch_iff] at matched ⊢
    obtain ⟨e, member, accepted⟩ := matched
    exact ⟨e, (Event.ofType_subperm part c.eventType).subset member, accepted⟩
  · rw [detectData_isMatch_iff] at matched ⊢
    obtain ⟨e, member, accepted⟩ := matched
    exact ⟨e, (Event.ofType_subperm part c.eventType).subset member, accepted⟩
  · rw [detectCount_isMatch_iff] at matched ⊢
    obtain ⟨threshold, limit, reached⟩ := matched
    have more := (Event.ofType_subperm part c.eventType).length_le
    exact ⟨threshold, limit, by omega⟩
  · rw [detectPhase_isMatch_iff] at matched ⊢
    obtain ⟨target, wanted, e, member, entered⟩ := matched
    exact ⟨target, wanted, e, part.subset member, entered⟩
  · rename_i installs
    exact absurd installs other
  · rw [detectCorrelation_isMatch_iff] at matched ⊢
    obtain ⟨typeA, typeB, joinField, namedA, namedB, joined, a, memberA, b, memberB, pair⟩ :=
      matched
    exact ⟨typeA, typeB, joinField, namedA, namedB, joined, a, part.subset memberA, b,
      part.subset memberB, pair⟩
  · cases matched

/-- A condition that matches some events matches more events too, or cannot be evaluated then. -/
theorem Condition.matches_of_subperm (part : events.Subperm later) {setting : DetectionSetting}
    {c : Condition} (other : c.source ≠ .appInstallDuration) (matched : c.Matches setting events)
    {outcome : Outcome} (returned : c.evaluate setting later = .ok outcome) :
    c.Matches setting later := by
  obtain ⟨evidence, before⟩ := matched
  have grown := detect_isMatch_of_subperm part setting other
    (by rw [detect_of_evaluate before]; rfl)
  rw [detect_of_evaluate returned] at grown
  cases outcome with
  | matched kept => exact ⟨kept, returned⟩
  | unmatched reason => cases grown

/-- A factor that compares no duration goes on to apply. -/
theorem ConfidenceFactor.applies_grow (part : events.Subperm later) {factor : ConfidenceFactor}
    (untimed : ∀ n, factor.expression.test ≠ .durationAbove n) {m more : MatchedEvidence}
    (grown : m.signals ⊆ more.signals) (applies : factor.applies m events = .ok true) :
    factor.applies more later = .ok true := by
  unfold ConfidenceFactor.applies at applies ⊢
  cases test : factor.expression.test with
  | matched =>
    simp only [test, Except.ok.injEq, MatchedEvidence.has_eq_true_iff] at applies ⊢
    exact grown applies
  | countAtLeast n =>
    have more := Event.countOfType_le part factor.signal
    simp only [test, Except.ok.injEq, decide_eq_true_eq] at applies ⊢
    omega
  | durationAbove n => exact absurd test (untimed n)
  | unsupported =>
    rw [test] at applies
    cases applies

end LaterEvents

section LaterEvaluation

variable {events later : List Event} {rule : Rule} {setting : DetectionSetting}
  (part : events.Subperm later) (others : ∀ c ∈ rule.conditions, c.source ≠ .appInstallDuration)

include part others

theorem Rule.matchedEvidence_signals_subset
    (met : Met setting later rule.conditions) :
    (matchedEvidence setting events rule.conditions).signals ⊆
      (matchedEvidence setting later rule.conditions).signals := by
  intro signal member
  rw [mem_signals_matchedEvidence] at member ⊢
  obtain ⟨c, here, matched, named⟩ := member
  obtain ⟨⟨outcome, returned⟩, -⟩ := met c here
  exact ⟨c, here, Condition.matches_of_subperm part (others c here) matched returned, named⟩

/-- With more events the conditions of a rule stay met, unless it is not evaluated. -/
theorem Rule.met_of_subperm (met : Met setting events rule.conditions) {stamp : Stamp}
    {verdict : Option Diagnosis}
    (evaluated : rule.evaluate stamp (Condition.evaluator setting) later = .ok verdict) :
    Met setting later rule.conditions := by
  rcases evaluate_cases setting rule later stamp with
    ⟨c, -, fault, -, failed⟩ | ⟨c, member, required, ⟨outcome, returned⟩, unmatched, -⟩ | metLater
  · cases failed.symm.trans evaluated
  · exact absurd (Condition.matches_of_subperm part (others c member)
      ((met c member).2 required) returned) unmatched
  · exact metLater

/-- A rule that fires goes on to fire, with at least its confidence, unless something hinders its
evaluation. -/
theorem Rule.evaluate_grow (stamp stampLater : Stamp)
    (weights : ∀ factor ∈ rule.factors, 0 ≤ factor.weight)
    (untimed : ∀ factor ∈ rule.factors, ∀ n, factor.expression.test ≠ .durationAbove n)
    {d : Diagnosis}
    (fired : rule.evaluate stamp (Condition.evaluator setting) events = .ok (some d)) :
    (∃ found, rule.evaluate stampLater (Condition.evaluator setting) later = .ok (some found) ∧
      d.confidence ≤ found.confidence) ∨
    ∃ message, rule.evaluate stampLater (Condition.evaluator setting) later = .error message ∧
      rule.Hindered setting later message := by
  obtain ⟨met, -, reached, rfl⟩ := evaluate_eq_some_iff.mp fired
  cases verdict : rule.evaluate stampLater (Condition.evaluator setting) later with
  | error message => exact .inr ⟨message, rfl, hindered_of_evaluate verdict⟩
  | ok diagnosis =>
    have metLater := met_of_subperm part others met verdict
    have counted : (rule.counted setting events).Sublist (rule.counted setting later) :=
      countedFactors_sublist (fun m more => m.signals ⊆ more.signals)
        (fun grown factor member => factor.applies_grow part (untimed factor member) grown)
        (fun signal grown => MatchedEvidence.put_signals_subset grown _ _ _)
        (fun signal grown => MatchedEvidence.subset_put_signals grown _ _)
        (matchedEvidence_signals_subset part others metLater)
    have least : rule.confidenceIn setting events ≤ rule.confidenceIn setting later :=
      confidenceIn_le weights counted
    rw [evaluate_of_met metLater] at verdict
    split at verdict
    · cases verdict
      have reachedLater : ¬rule.confidenceIn setting later < rule.threshold := by omega
      rw [if_neg reachedLater]
      exact .inl ⟨_, rfl, least⟩
    · cases verdict

end LaterEvaluation

namespace Analysis

/-- More events leave a rule its diagnosis, with at least the confidence that it had, unless a
field, a pattern or a weight hinders its evaluation. -/
theorem late_events_keep_diagnosis (setting : DetectionSetting)
    (stampFor stampLater : String → Stamp) (rule : Rule)
    (others : ∀ c ∈ rule.conditions, c.source ≠ .appInstallDuration)
    (weights : ∀ factor ∈ rule.factors, 0 ≤ factor.weight)
    (untimed : ∀ factor ∈ rule.factors, ∀ n, factor.expression.test ≠ .durationAbove n)
    (events later : List Event) (part : events.Sublist later) (d : Diagnosis)
    (fired : d ∈ analyze ⟨Condition.evaluator setting, stampFor⟩ [rule] events []) :
    (∃ found, analyze ⟨Condition.evaluator setting, stampLater⟩ [rule] later [] = [found] ∧
      d.confidence ≤ found.confidence) ∨
    ∃ message, rule.evaluate (stampLater rule.id) (Condition.evaluator setting)
        (Event.sort later) = .error message ∧
      rule.Hindered setting later message := by
  have ordered : (Event.sort events).Subperm (Event.sort later) :=
    (Event.sort_perm events).subperm.trans
      (part.subperm.trans (Event.sort_perm later).symm.subperm)
  obtain ⟨enabled, nonempty, diagnosed⟩ := mem_analyze_single fired
  have nonemptyLater : later ≠ [] := by
    rintro rfl
    exact nonempty (List.sublist_nil.mp part)
  rcases Rule.evaluate_grow ordered others _ (stampLater rule.id) weights untimed diagnosed with
    ⟨found, diagnosedLater, least⟩ | ⟨message, failed, hindered⟩
  · exact .inl ⟨found, analyze_single_of_evaluate enabled nonemptyLater diagnosedLater, least⟩
  · exact .inr ⟨message, failed, hindered.mono fun e => Event.mem_sort.mp⟩

/-- A rule about stalls that is surer of two than of one. -/
def stallRule : Rule :=
  { (default : Rule) with
    id := "stalled"
    enabled := true
    conditions := [{ (default : Condition) with
      signal := "stalled", source := .eventType, eventType := some "stall", required := true }]
    baseConfidence := 60
    factors := [⟨"stall", "count >= 2", 15, ⟨.countAtLeast 2, "count >= 2"⟩⟩]
    threshold := 50 }

/-- The same rule with a weight for the second stall that cannot be written. -/
def heavyStallRule : Rule :=
  { stallRule with
    factors := [⟨"stall", "count >= 2", overlongInteger, ⟨.countAtLeast 2, "count >= 2"⟩⟩] }

def stall (sequence : Int) : Event :=
  { (default : Event) with type := "stall", sequence := sequence }

theorem sort_stalls : Event.sort [stall 1, stall 2] = [stall 1, stall 2] :=
  List.mergeSort_of_pairwise (by decide)

/-- A stall that arrives late, with an earlier number, leaves the diagnosis of the other one: no
field is looked up and no pattern searched for, and the weight is short. -/
theorem late_stall_keeps_diagnosis :
    (analyze ⟨Condition.evaluator default, fun _ => default⟩ [stallRule] [stall 2] []).map
      (·.confidence) = [60] ∧
    ∃ found, analyze ⟨Condition.evaluator default, fun _ => default⟩ [stallRule]
      [stall 1, stall 2] [] = [found] ∧ 60 ≤ found.confidence := by
  have first : (analyze ⟨Condition.evaluator default, fun _ => default⟩ [stallRule] [stall 2]
      []).map (·.confidence) = [60] := by decide +kernel
  refine ⟨first, ?_⟩
  obtain ⟨d, fired, confidence⟩ := List.mem_map.mp (first ▸ List.mem_singleton_self (60 : Int))
  have part : [stall 2].Sublist [stall 1, stall 2] := .cons _ (.refl _)
  rcases late_events_keep_diagnosis default (fun _ => default) (fun _ => default) stallRule
    (by decide) (by decide) (by simp [stallRule]) [stall 2] [stall 1, stall 2] part d fired with
    ⟨found, diagnosed, least⟩ | ⟨message, failed, -⟩
  · exact ⟨found, diagnosed, by omega⟩
  · have evaluated : (stallRule.evaluate default (Condition.evaluator default)
        [stall 1, stall 2]).toOption.isSome = true := by decide +kernel
    rw [sort_stalls] at failed
    rw [failed] at evaluated
    cases evaluated

/-- A late stall can take a diagnosis back: with two of them a factor is counted, and its weight
cannot be written. -/
theorem late_stall_retracts_diagnosis :
    ¬∀ (setting : DetectionSetting) (stampFor : String → Stamp) (rule : Rule)
      (events later : List Event),
      (∀ c ∈ rule.conditions, c.source ≠ .appInstallDuration) →
      (∀ factor ∈ rule.factors, 0 ≤ factor.weight) →
      (∀ factor ∈ rule.factors, ∀ n, factor.expression.test ≠ .durationAbove n) →
      events.Sublist later →
      ∀ d ∈ analyze ⟨Condition.evaluator setting, stampFor⟩ [rule] events [],
        ∃ found ∈ analyze ⟨Condition.evaluator setting, stampFor⟩ [rule] later [],
          d.confidence ≤ found.confidence := by
  intro always
  have first : (analyze ⟨Condition.evaluator default, fun _ => default⟩ [heavyStallRule]
      [stall 2] []).map (·.confidence) = [60] := by decide +kernel
  obtain ⟨d, fired, -⟩ := List.mem_map.mp (first ▸ List.mem_singleton_self (60 : Int))
  obtain ⟨found, diagnosed, -⟩ := always default (fun _ => default) heavyStallRule
    [stall 2] [stall 1, stall 2] (by decide) (by decide +kernel) (by simp [heavyStallRule])
    (.cons _ (.refl _)) d fired
  have failed : (heavyStallRule.evaluate default (Condition.evaluator default)
      [stall 1, stall 2]).toOption.isSome = false := by decide +kernel
  have evaluated : heavyStallRule.evaluate default (Condition.evaluator default)
      [stall 1, stall 2] = .ok (some found) := by
    rw [← sort_stalls]
    exact (mem_analyze_single diagnosed).2.2
  rw [evaluated] at failed
  cases failed

end Analysis

end EnrollmentDiagnosis
