import EnrollmentDiagnosis.Proofs.PassingTime
import EnrollmentDiagnosis.Proofs.ScoringMarks

set_option autoImplicit false

namespace EnrollmentDiagnosis

namespace MatchedEvidence

/-- Evidence for the same signals, in whatever order. -/
def SameSignals (m other : MatchedEvidence) : Prop :=
  ∀ signal, signal ∈ m.signals ↔ signal ∈ other.signals

variable {m other : MatchedEvidence}

theorem SameSignals.put (same : m.SameSignals other) (signal : String)
    (evidence otherEvidence : Evidence) :
    (m.put signal evidence).SameSignals (other.put signal otherEvidence) := by
  intro s
  rw [mem_signals_put, mem_signals_put, same s]

theorem SameSignals.putAll (same : m.SameSignals other) (entries : List (String × Evidence)) :
    (m.putAll entries).SameSignals (other.putAll entries) := by
  intro s
  rw [mem_signals_putAll, mem_signals_putAll, same s]

theorem SameSignals.has_eq (same : m.SameSignals other) (signal : String) :
    m.has signal = other.has signal := by
  rw [Bool.eq_iff_iff, has_eq_true_iff, has_eq_true_iff, same signal]

/-- Of evidence that is keyed by the same signals, one is keyed in another order than the other. -/
theorem SameSignals.perm (same : m.SameSignals other) (keyed : m.signals.Nodup)
    (otherKeyed : other.signals.Nodup) : m.signals.Perm other.signals :=
  (List.perm_ext_iff_of_nodup keyed otherKeyed).mpr same

end MatchedEvidence

/-- True for a factor that compares no duration. -/
def ConfidenceFactor.IsUntimed (factor : ConfidenceFactor) : Prop :=
  ∀ n, factor.expression.test ≠ .durationAbove n

/-- A factor that compares no duration only asks whether its signal was matched. -/
theorem ConfidenceFactor.IsUntimed.applies_eq {factor : ConfidenceFactor}
    (untimed : factor.IsUntimed) {m other : MatchedEvidence} (same : m.SameSignals other)
    (events : List Event) : factor.applies m events = factor.applies other events := by
  unfold ConfidenceFactor.applies
  split
  · rw [same.has_eq]
  · rfl
  · rename_i n timed
    exact absurd timed (untimed n)
  · rfl

/-- Two diagnoses of one confidence whose evidence has the same signals. -/
structure Diagnosis.AgreesWith (d other : Diagnosis) : Prop where
  confidence : d.confidence = other.confidence
  signals : d.evidence.signals.Perm other.evidence.signals

/-- A condition matches under one clock exactly if it does under another one. -/
theorem Condition.matches_clock (setting : DetectionSetting) (clock : Time.Instant)
    (events : List Event) (c : Condition) :
    c.Matches { setting with now := clock } events ↔ c.Matches setting events := by
  rcases Int.le_total setting.now.microseconds clock.microseconds with later | earlier
  · have passing : setting.now ≤ clock := later
    exact c.matches_later passing events
  · have passing : clock ≤ setting.now := earlier
    exact (c.matches_later passing events).symm

namespace Rule

open MatchedEvidence (SameSignals)

/-- The diagnosis that the evaluation of a rule gives; none if it gives none or fails. -/
def diagnosis? (rule : Rule) (stamp : Stamp) (evaluator : Evaluator) (events : List Event) :
    Option Diagnosis :=
  (rule.evaluate stamp evaluator events).toOption.join

theorem diagnosis?_of_met {setting : DetectionSetting} {rule : Rule} {events : List Event}
    (met : Met setting events rule.conditions) (stamp : Stamp) :
    rule.diagnosis? stamp (Condition.evaluator setting) events =
      if rule.weighs setting events = true ∧ rule.threshold ≤ rule.confidenceIn setting events then
        some (Diagnosis.ofRule stamp rule (rule.confidenceIn setting events)
          (rule.markedEvidence setting events))
      else none := by
  rw [diagnosis?, evaluate_of_met met]
  by_cases written : rule.weighs setting events = true
  · by_cases low : rule.confidenceIn setting events < rule.threshold
    · have short : ¬rule.threshold ≤ rule.confidenceIn setting events := by omega
      simp [written, low, short, Except.toOption]
    · have reached : rule.threshold ≤ rule.confidenceIn setting events := by omega
      simp [written, low, reached, Except.toOption]
  · simp [written, Except.toOption]

theorem diagnosis?_of_unmet {setting : DetectionSetting} {rule : Rule} {events : List Event}
    (unmet : ¬Met setting events rule.conditions) (stamp : Stamp) :
    rule.diagnosis? stamp (Condition.evaluator setting) events = none := by
  cases verdict : rule.diagnosis? stamp (Condition.evaluator setting) events with
  | none => rfl
  | some d =>
    unfold diagnosis? at verdict
    cases evaluated : rule.evaluate stamp (Condition.evaluator setting) events with
    | error message =>
      rw [evaluated] at verdict
      cases verdict
    | ok found =>
      rw [evaluated] at verdict
      have fired : found = some d := verdict
      subst fired
      exact absurd (evaluate_eq_some_iff.mp evaluated).1 unmet

/-- With the same signals the same factors are counted: the marks of those counted so far are the
same too. -/
theorem countedFactors_of_sameSignals {events : List Event} {factors : List ConfidenceFactor}
    (untimed : ∀ factor ∈ factors, factor.IsUntimed) {m other : MatchedEvidence}
    (same : m.SameSignals other) :
    countedFactors events factors m = countedFactors events factors other := by
  induction factors generalizing m other with
  | nil => rfl
  | cons factor rest ih =>
    obtain ⟨here, others⟩ := List.forall_mem_cons.mp untimed
    have agree : factor.applies m events = factor.applies other events :=
      here.applies_eq same events
    by_cases applies : factor.applies m events = .ok true
    · rw [countedFactors_cons_applies applies, countedFactors_cons_applies (agree ▸ applies),
        ih others (same.put _ _ _)]
    · rw [countedFactors_cons_passed applies, countedFactors_cons_passed (agree ▸ applies),
        ih others same]

section Reordered

variable {rule : Rule} {conditions : List Condition} (perm : conditions.Perm rule.conditions)
  (setting : DetectionSetting) (clock : Time.Instant) (events : List Event)

include perm

/-- In any order the same signals are matched, even if several conditions share one. -/
theorem matchedEvidence_sameSignals :
    (matchedEvidence { setting with now := clock } events conditions).SameSignals
      (matchedEvidence setting events rule.conditions) := by
  intro signal
  simp only [mem_signals_matchedEvidence, perm.mem_iff, Condition.matches_clock]

theorem met_reordered_iff :
    Met { setting with now := clock } events conditions ↔ Met setting events rule.conditions := by
  have anyClock : Met { setting with now := clock } events conditions ↔
      Met setting events conditions := by
    rcases Int.le_total setting.now.microseconds clock.microseconds with later | earlier
    · have passing : setting.now ≤ clock := later
      exact met_later passing events conditions
    · have passing : clock ≤ setting.now := earlier
      exact (met_later passing events conditions).symm
  rw [anyClock]
  simp only [Met, perm.mem_iff]

variable (untimed : ∀ factor ∈ rule.factors, factor.IsUntimed)

include untimed

theorem counted_eq :
    { rule with conditions := conditions }.counted { setting with now := clock } events =
      rule.counted setting events :=
  countedFactors_of_sameSignals untimed (matchedEvidence_sameSignals perm setting clock events)

theorem confidenceIn_eq :
    { rule with conditions := conditions }.confidenceIn { setting with now := clock } events =
      rule.confidenceIn setting events := by
  rw [confidenceIn, counted_eq perm setting clock events untimed]
  rfl

theorem weighs_eq :
    { rule with conditions := conditions }.weighs { setting with now := clock } events =
      rule.weighs setting events := by
  rw [weighs, counted_eq perm setting clock events untimed, weighs]

theorem markedEvidence_signals_perm :
    ({ rule with conditions := conditions }.markedEvidence { setting with now := clock }
      events).signals.Perm (rule.markedEvidence setting events).signals := by
  have keyed : ∀ entries, (MatchedEvidence.putAll [] entries).signals.Nodup :=
    MatchedEvidence.putAll_keyed MatchedEvidence.nil_keyed
  rw [markedEvidence, counted_eq perm setting clock events untimed]
  refine SameSignals.perm ?_ (MatchedEvidence.putAll_keyed (keyed _) _)
    (MatchedEvidence.putAll_keyed (keyed _) _)
  exact (matchedEvidence_sameSignals perm setting clock events).putAll _

end Reordered

/-- The order of conditions is irrelevant to a rule whose factors compare no durations. With its
conditions in another order, and whatever the clock shows by then, it gives a diagnosis exactly if
it gives one as it stands, with the same confidence and with evidence under the same signals;
otherwise neither gives one, even where one of them fails. -/
theorem condition_order_irrelevant (setting : DetectionSetting) (clock : Time.Instant)
    (stamp otherStamp : Stamp) (rule : Rule) (conditions : List Condition)
    (perm : conditions.Perm rule.conditions)
    (untimed : ∀ factor ∈ rule.factors, factor.IsUntimed) (events : List Event) :
    Option.Rel Diagnosis.AgreesWith
      ({ rule with conditions := conditions }.diagnosis? otherStamp
        (Condition.evaluator { setting with now := clock }) events)
      (rule.diagnosis? stamp (Condition.evaluator setting) events) := by
  have sameMet := met_reordered_iff perm setting clock events
  by_cases met : Met setting events rule.conditions
  · rw [diagnosis?_of_met met, diagnosis?_of_met (sameMet.mpr met),
      confidenceIn_eq perm setting clock events untimed,
      weighs_eq perm setting clock events untimed]
    split
    · exact .some ⟨rfl, markedEvidence_signals_perm perm setting clock events untimed⟩
    · exact .none
  · rw [diagnosis?_of_unmet met, diagnosis?_of_unmet (mt sameMet.mp met)]
    exact .none

/-- A rule in which two conditions share a signal, and whose last factor sees the mark of its
first. -/
def retryRule : Rule :=
  { (default : Rule) with
    conditions := [
      { (default : Condition) with
        signal := "failure", source := .eventType, eventType := some "failed", required := true },
      { (default : Condition) with
        signal := "retry", source := .eventCount, eventType := some "retried"
        operator := some .countGte, value := some "2" },
      { (default : Condition) with
        signal := "failure", source := .eventType, eventType := some "retried" }]
    baseConfidence := 40
    factors := [
      ⟨"failure", "exists", 15, ⟨.matched, "exists"⟩⟩,
      ⟨"retry", "exists", 20, ⟨.matched, "exists"⟩⟩,
      ⟨"factor_failure", "exists", 5, ⟨.matched, "exists"⟩⟩]
    threshold := 50 }

def retryEvents : List Event :=
  [{ (default : Event) with id := "f", type := "Failed" },
    { (default : Event) with id := "r", type := "retried", sequence := 1 }]

/-- A later clock for the rule about retries. -/
def laterSetting : DetectionSetting := { (default : DetectionSetting) with now := ⟨1000000⟩ }

/-- The rule and its reverse both fire, although another failure stands in their evidence. -/
theorem reversed_retry_agrees :
    (retryRule.conditions.reverse.Perm retryRule.conditions ∧
      (∀ factor ∈ retryRule.factors, factor.IsUntimed) ∧
      (retryRule.diagnosis? default (Condition.evaluator default) retryEvents).map
        (·.confidence) = some 60) ∧
      Option.Rel Diagnosis.AgreesWith
        ({ retryRule with conditions := retryRule.conditions.reverse }.diagnosis? default
          (Condition.evaluator laterSetting) retryEvents)
        (retryRule.diagnosis? default (Condition.evaluator default) retryEvents) := by
  have perm : retryRule.conditions.reverse.Perm retryRule.conditions := List.reverse_perm _
  have untimed : ∀ factor ∈ retryRule.factors, factor.IsUntimed := by
    simp [retryRule, ConfidenceFactor.IsUntimed]
  exact ⟨⟨perm, untimed, by decide +kernel⟩, condition_order_irrelevant default ⟨1000000⟩ default
    default retryRule _ perm untimed retryEvents⟩

end Rule

end EnrollmentDiagnosis
