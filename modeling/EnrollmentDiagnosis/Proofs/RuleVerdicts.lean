import EnrollmentDiagnosis.Proofs.CountedFactors

set_option autoImplicit false

namespace EnrollmentDiagnosis

namespace Rule

/-- A diagnosis that a rule makes of events: a valid percentage that reaches the threshold, and
evidence for the conditions that match, with all required ones among them, and the counted factors.
-/
structure Supports (setting : DetectionSetting) (rule : Rule) (events : List Event)
    (d : Diagnosis) : Prop where
  reaches : rule.threshold ≤ d.confidence
  atMost : d.confidence ≤ maxConfidence
  valid : Reading.integerWithin minConfidence maxConfidence (.int d.confidence) =
    .ok d.confidence
  signals : ∀ signal, signal ∈ d.evidence.signals ↔
    (∃ c ∈ rule.conditions, c.Matches setting events ∧ c.signal = signal) ∨
      ∃ factor ∈ rule.counted setting events, factorMark factor.signal = signal
  required : ∀ c ∈ rule.requiredConditions, c.signal ∈ d.evidence.signals

theorem integerWithin_clampConfidence (score : Int) :
    Reading.integerWithin minConfidence maxConfidence (.int (clampConfidence score)) =
      .ok (clampConfidence score) := by
  obtain ⟨least, most⟩ := clampConfidence_bounds score
  simp only [Reading.integerWithin, Reading.integer, Reading.andThen, Int.not_lt.mpr least,
    Int.not_lt.mpr most, ↓reduceIte]

section Verdict

variable {setting : DetectionSetting} {rule : Rule} {events : List Event}

theorem supports_ofRule (met : Met setting events rule.conditions)
    (reaches : rule.threshold ≤ rule.confidenceIn setting events) (stamp : Stamp) :
    rule.Supports setting events (Diagnosis.ofRule stamp rule (rule.confidenceIn setting events)
      (rule.markedEvidence setting events)) where
  reaches := reaches
  atMost := (clampConfidence_bounds _).2
  valid := integerWithin_clampConfidence _
  signals := mem_signals_markedEvidence setting rule events
  required c member := by
    obtain ⟨here, required⟩ := List.mem_filter.mp member
    exact (mem_signals_markedEvidence setting rule events c.signal).mpr
      (.inl ⟨c, here, (met c here).2 required, rfl⟩)

/-- The required conditions match exactly if all conditions are met, where all can be evaluated. -/
theorem met_iff :
    Met setting events rule.conditions ↔
      (∀ c ∈ rule.requiredConditions, c.Matches setting events) ∧
        ∀ c ∈ rule.conditions, ∃ outcome, c.evaluate setting events = .ok outcome := by
  constructor
  · intro met
    refine ⟨fun c member => ?_, fun c member => (met c member).1⟩
    obtain ⟨here, required⟩ := List.mem_filter.mp member
    exact (met c here).2 required
  · rintro ⟨matched, evaluated⟩ c member
    exact ⟨evaluated c member, fun required => matched c (List.mem_filter.mpr ⟨member, required⟩)⟩

/-- A rule fires exactly if its required conditions match, the score of the evidence of all its
matched conditions reaches the threshold, its other conditions can be evaluated and the weights of
the counted factors can be written. Its diagnosis has that score and is supported by the events. An
evaluation that gives no verdict is hindered by a field, a pattern or a weight. -/
theorem fires_iff (setting : DetectionSetting) (stamp : Stamp) (rule : Rule)
    (events : List Event) :
    rule.score (matchedEvidence setting events rule.conditions) events =
        (if rule.weighs setting events then
          .ok (rule.confidenceIn setting events, rule.markedEvidence setting events)
        else .error .weightUnwritable) ∧
      ((∃ d, rule.evaluate stamp (Condition.evaluator setting) events = .ok (some d)) ↔
        ((∀ c ∈ rule.requiredConditions, c.Matches setting events) ∧
          rule.threshold ≤ rule.confidenceIn setting events) ∧
        (∀ c ∈ rule.conditions, ∃ outcome, c.evaluate setting events = .ok outcome) ∧
        rule.weighs setting events = true) ∧
      (∀ d, rule.evaluate stamp (Condition.evaluator setting) events = .ok (some d) →
        d.confidence = rule.confidenceIn setting events ∧ rule.Supports setting events d) ∧
      ∀ message, rule.evaluate stamp (Condition.evaluator setting) events = .error message →
        rule.Hindered setting events message := by
  refine ⟨score_matchedEvidence setting rule events, ?_, fun d fired => ?_,
    fun message => hindered_of_evaluate⟩
  · constructor
    · rintro ⟨d, fired⟩
      obtain ⟨met, written, reaches, -⟩ := evaluate_eq_some_iff.mp fired
      obtain ⟨matched, evaluated⟩ := met_iff.mp met
      exact ⟨⟨matched, reaches⟩, evaluated, written⟩
    · rintro ⟨⟨matched, reaches⟩, evaluated, written⟩
      exact ⟨_, evaluate_eq_some_iff.mpr
        ⟨met_iff.mpr ⟨matched, evaluated⟩, written, reaches, rfl⟩⟩
  · obtain ⟨met, -, reaches, rfl⟩ := evaluate_eq_some_iff.mp fired
    exact ⟨rfl, supports_ofRule met reaches stamp⟩

end Verdict

/-- A rule about a boot, with a factor of some weight for it. -/
def weighingRule (weight : Int) : Rule :=
  { (default : Rule) with
    conditions := [{ (default : Condition) with
      signal := "boot", source := .eventType, eventType := some "boot", required := true }]
    baseConfidence := 50
    factors := [⟨"boot", "count >= 1", weight, ⟨.countAtLeast 1, "count >= 1"⟩⟩]
    threshold := 40 }

def bootEvent : Event := { (default : Event) with id := "b", type := "boot" }

theorem bootEvent_matches (weight : Int) :
    ∀ c ∈ (weighingRule weight).requiredConditions, c.Matches default [bootEvent] := by
  intro c member
  cases List.mem_singleton.mp member
  exact ⟨_, rfl⟩

/-- A rule whose condition matches, and whose evidence has a score, does not always fire. -/
theorem heavy_rule_fails :
    ¬∀ (setting : DetectionSetting) (stamp : Stamp) (rule : Rule) (events : List Event),
      (∃ d, rule.evaluate stamp (Condition.evaluator setting) events = .ok (some d)) ↔
        (∀ c ∈ rule.requiredConditions, c.Matches setting events) ∧
          rule.threshold ≤ rule.confidenceIn setting events := by
  intro always
  have reaches : (weighingRule overlongInteger).threshold ≤
      (weighingRule overlongInteger).confidenceIn default [bootEvent] := by decide +kernel
  obtain ⟨d, fired⟩ := (always default default (weighingRule overlongInteger) [bootEvent]).mpr
    ⟨bootEvent_matches overlongInteger, reaches⟩
  have failed : ((weighingRule overlongInteger).evaluate default (Condition.evaluator default)
      [bootEvent]).toOption.isSome = false := by decide +kernel
  rw [fired] at failed
  cases failed

end Rule

end EnrollmentDiagnosis
