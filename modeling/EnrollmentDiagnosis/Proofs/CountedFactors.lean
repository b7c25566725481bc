import EnrollmentDiagnosis.Proofs.MatchedConditions
import Mathlib

set_option autoImplicit false

namespace EnrollmentDiagnosis

/-- True for a factor whose weight can be written down. -/
def ConfidenceFactor.isWritable (factor : ConfidenceFactor) : Bool :=
  Value.integerIsWritable factor.weight

theorem clampConfidence_bounds (score : Int) :
    minConfidence ≤ clampConfidence score ∧ clampConfidence score ≤ maxConfidence := by
  unfold clampConfidence minConfidence maxConfidence
  omega

theorem clampConfidence_mono {score higher : Int} (least : score ≤ higher) :
    clampConfidence score ≤ clampConfidence higher := by
  unfold clampConfidence
  omega

namespace Rule

/-- The factors that are counted: each one that the evidence satisfies, with the marks of those
counted before it. -/
def countedFactors (events : List Event) : List ConfidenceFactor → MatchedEvidence →
    List ConfidenceFactor
  | [], _ => []
  | factor :: rest, m =>
    match factor.applies m events with
    | .ok true => factor :: countedFactors events rest (m.put (factorMark factor.signal) .mark)
    | _ => countedFactors events rest m

/-- The mark of a factor under its signal. -/
def markOf (factor : ConfidenceFactor) : String × Evidence := (factorMark factor.signal, .mark)

section Counting

variable {events : List Event} {m : MatchedEvidence}

theorem countedFactors_cons_applies {factor : ConfidenceFactor}
    (applies : factor.applies m events = .ok true) (rest : List ConfidenceFactor) :
    countedFactors events (factor :: rest) m =
      factor :: countedFactors events rest (m.put (factorMark factor.signal) .mark) := by
  simp only [countedFactors, applies]

theorem countedFactors_cons_passed {factor : ConfidenceFactor}
    (passed : factor.applies m events ≠ .ok true) (rest : List ConfidenceFactor) :
    countedFactors events (factor :: rest) m = countedFactors events rest m := by
  rw [countedFactors]
  split
  · exact absurd ‹_› passed
  · rfl

theorem countedFactors_subset (factors : List ConfidenceFactor) (m : MatchedEvidence) :
    countedFactors events factors m ⊆ factors := by
  induction factors generalizing m with
  | nil => exact List.Subset.refl _
  | cons factor rest ih =>
    by_cases here : factor.applies m events = .ok true
    · rw [countedFactors_cons_applies here]
      exact List.cons_subset_cons factor (ih _)
    · rw [countedFactors_cons_passed here]
      exact List.subset_cons_of_subset factor (ih _)

/-- Every factor that is counted is counted with further evidence and events, if these satisfy what
the others do, whether they have the mark of a factor more or not. -/
theorem countedFactors_sublist {later : List Event} {factors : List ConfidenceFactor}
    (Ahead : MatchedEvidence → MatchedEvidence → Prop)
    (keeps : ∀ {m more : MatchedEvidence}, Ahead m more → ∀ factor ∈ factors,
      factor.applies m events = .ok true → factor.applies more later = .ok true)
    (mark : ∀ {m more : MatchedEvidence} (signal : String), Ahead m more →
      Ahead (m.put (factorMark signal) .mark) (more.put (factorMark signal) .mark))
    (markLater : ∀ {m more : MatchedEvidence} (signal : String), Ahead m more →
      Ahead m (more.put (factorMark signal) .mark))
    {m more : MatchedEvidence} (ahead : Ahead m more) :
    (countedFactors events factors m).Sublist (countedFactors later factors more) := by
  induction factors generalizing m more with
  | nil => exact .slnil
  | cons factor rest ih =>
    have others := @ih fun ahead other member => keeps ahead other (List.mem_cons_of_mem _ member)
    by_cases here : factor.applies m events = .ok true
    · rw [countedFactors_cons_applies here,
        countedFactors_cons_applies (keeps ahead factor List.mem_cons_self here)]
      exact (others (mark factor.signal ahead)).cons_cons factor
    · rw [countedFactors_cons_passed here]
      by_cases there : factor.applies more later = .ok true
      · rw [countedFactors_cons_applies there]
        exact (others (markLater factor.signal ahead)).cons factor
      · rw [countedFactors_cons_passed there]
        exact others ahead

theorem applies_of_taken (taken : m.Taken) (factor : ConfidenceFactor) (events : List Event) :
    ∃ verdict, factor.applies m events = .ok verdict := by
  unfold ConfidenceFactor.applies
  split
  · exact ⟨_, rfl⟩
  · exact ⟨_, rfl⟩
  · obtain ⟨duration, timed⟩ := taken.firstDuration
    rw [timed]
    exact ⟨_, rfl⟩
  · exact ⟨false, rfl⟩

/-- The weights of the counted factors are added and their marks are set, unless one of the weights
cannot be written down. -/
theorem addFactors_eq (taken : m.Taken) (events : List Event) (factors : List ConfidenceFactor)
    (confidence : Int) :
    addFactors events factors confidence m =
      if (countedFactors events factors m).all ConfidenceFactor.isWritable then
        .ok (confidence + ((countedFactors events factors m).map (·.weight)).sum,
          m.putAll ((countedFactors events factors m).map markOf))
      else .error .weightUnwritable := by
  induction factors generalizing m confidence with
  | nil => simp [addFactors, countedFactors, MatchedEvidence.putAll]
  | cons factor rest ih =>
    obtain ⟨verdict, applies⟩ := applies_of_taken taken factor events
    unfold addFactors
    rw [applies]
    cases verdict with
    | false =>
      have passed : factor.applies m events ≠ .ok true := by simp [applies]
      rw [countedFactors_cons_passed passed]
      exact ih taken confidence
    | true =>
      have marked : (m.put (factorMark factor.signal) .mark).Taken :=
        taken.put _ fun v => by simp only [ne_eq, reduceCtorEq, not_false_eq_true]
      rw [countedFactors_cons_applies applies, List.all_cons]
      dsimp only
      rw [ih marked]
      cases written : Value.integerIsWritable factor.weight with
      | false =>
        simp only [ConfidenceFactor.isWritable, written, Bool.false_and, Bool.false_eq_true,
          ↓reduceIte]
      | true =>
        simp only [ConfidenceFactor.isWritable, written, Bool.true_and, ↓reduceIte, List.map_cons,
          List.sum_cons, ← Int.add_assoc]
        rfl

end Counting

/-- The factors of a rule that are counted with the evidence of its matched conditions. -/
def counted (setting : DetectionSetting) (rule : Rule) (events : List Event) :
    List ConfidenceFactor :=
  countedFactors events rule.factors (matchedEvidence setting events rule.conditions)

/-- The base confidence with the weights of the counted factors, as a percentage. -/
def confidenceIn (setting : DetectionSetting) (rule : Rule) (events : List Event) : Int :=
  clampConfidence (rule.baseConfidence + ((rule.counted setting events).map (·.weight)).sum)

/-- The evidence of the matched conditions with the marks of the counted factors. -/
def markedEvidence (setting : DetectionSetting) (rule : Rule) (events : List Event) :
    MatchedEvidence :=
  (matchedEvidence setting events rule.conditions).putAll ((rule.counted setting events).map markOf)

/-- True if the weights of all counted factors can be written down. -/
def weighs (setting : DetectionSetting) (rule : Rule) (events : List Event) : Bool :=
  (rule.counted setting events).all ConfidenceFactor.isWritable

section Scoring

variable (setting : DetectionSetting) (rule : Rule) (events : List Event)

theorem score_matchedEvidence :
    rule.score (matchedEvidence setting events rule.conditions) events =
      if rule.weighs setting events then
        .ok (rule.confidenceIn setting events, rule.markedEvidence setting events)
      else .error .weightUnwritable := by
  rw [score, addFactors_eq (matchedEvidence_taken setting events rule.conditions) events]
  exact apply_ite (Except.map _) _ _ _

theorem mem_signals_markedEvidence (signal : String) :
    signal ∈ (rule.markedEvidence setting events).signals ↔
      (∃ c ∈ rule.conditions, c.Matches setting events ∧ c.signal = signal) ∨
        ∃ factor ∈ rule.counted setting events, factorMark factor.signal = signal := by
  rw [markedEvidence, MatchedEvidence.mem_signals_putAll, mem_signals_matchedEvidence]
  simp only [List.mem_map, exists_exists_and_eq_and, markOf]

variable {setting rule events}

/-- Where no factor takes confidence away, more counted factors leave at least as much of it. -/
theorem confidenceIn_le {later : DetectionSetting} {laterEvents : List Event}
    (weights : ∀ factor ∈ rule.factors, 0 ≤ factor.weight)
    (more : (rule.counted setting events).Sublist (rule.counted later laterEvents)) :
    rule.confidenceIn setting events ≤ rule.confidenceIn later laterEvents := by
  have sums := (more.map (·.weight)).sum_le_sum (by
    intro weight member
    obtain ⟨factor, here, rfl⟩ := List.mem_map.mp member
    exact weights factor (countedFactors_subset rule.factors _ here))
  unfold confidenceIn
  apply clampConfidence_mono
  omega

end Scoring

/-- What can keep a rule from being evaluated. -/
inductive Hindered (setting : DetectionSetting) (rule : Rule) (events : List Event) :
    String → Prop
  | condition {c : Condition} {fault : DetectionFault} (member : c ∈ rule.conditions)
      (hindered : c.Hindered setting events fault) : Hindered setting rule events fault.message
  /-- The weight of a factor has too many digits to be written. -/
  | weight {factor : ConfidenceFactor} (member : factor ∈ rule.factors)
      (unwritable : factor.isWritable = false) :
      Hindered setting rule events Value.unwritableReason

theorem Hindered.mono {setting : DetectionSetting} {rule : Rule} {events more : List Event}
    {message : String} (hindered : rule.Hindered setting events message) (part : events ⊆ more) :
    rule.Hindered setting more message := by
  cases hindered with
  | condition member hindered => exact .condition member (hindered.mono part)
  | weight member unwritable => exact .weight member unwritable

section Evaluation

variable {setting : DetectionSetting} {rule : Rule} {events : List Event}

theorem hindered_of_not_weighs (unwritten : rule.weighs setting events = false) :
    rule.Hindered setting events Value.unwritableReason := by
  obtain ⟨factor, counted, unwritable⟩ := List.all_eq_false.mp unwritten
  exact .weight (countedFactors_subset rule.factors _ counted) (by simpa using unwritable)

/-- With its conditions met, a rule comes to the score of their evidence. -/
theorem evaluate_of_met (met : Met setting events rule.conditions) (stamp : Stamp) :
    rule.evaluate stamp (Condition.evaluator setting) events =
      if rule.weighs setting events then
        .ok (if rule.confidenceIn setting events < rule.threshold then none
          else some (Diagnosis.ofRule stamp rule (rule.confidenceIn setting events)
            (rule.markedEvidence setting events)))
      else .error Value.unwritableReason := by
  have matched := matchConditions_eq_some_iff.mpr ⟨met, rfl⟩
  simp only [evaluate, matched, score_matchedEvidence]
  cases rule.weighs setting events with
  | false => rfl
  | true =>
    rw [if_pos rfl, if_pos rfl]
    exact (apply_ite Except.ok _ _ _).symm

/-- The evaluation of a rule fails with a condition, ends at a required one that does not match, or
comes to a score because all conditions are met. -/
theorem evaluate_cases (setting : DetectionSetting) (rule : Rule) (events : List Event)
    (stamp : Stamp) :
    (∃ c ∈ rule.conditions, ∃ fault, c.evaluate setting events = .error fault ∧
      rule.evaluate stamp (Condition.evaluator setting) events = .error fault.message) ∨
    (∃ c ∈ rule.conditions, c.required = true ∧
      (∃ outcome, c.evaluate setting events = .ok outcome) ∧ ¬c.Matches setting events ∧
      rule.evaluate stamp (Condition.evaluator setting) events = .ok none) ∨
    Met setting events rule.conditions := by
  rcases matchConditions_cases setting events rule.conditions [] with
    ⟨c, member, fault, failed, stopped⟩ | ⟨c, member, required, evaluated, unmatched, unmet⟩ |
      ⟨met, -⟩
  · exact .inl ⟨c, member, fault, failed, by rw [evaluate, stopped]⟩
  · exact .inr (.inl ⟨c, member, required, evaluated, unmatched, by rw [evaluate, unmet]⟩)
  · exact .inr (.inr met)

/-- A rule that fires has its conditions met, and its diagnosis is that of their evidence. -/
theorem evaluate_eq_some_iff {stamp : Stamp} {d : Diagnosis} :
    rule.evaluate stamp (Condition.evaluator setting) events = .ok (some d) ↔
      Met setting events rule.conditions ∧ rule.weighs setting events = true ∧
        rule.threshold ≤ rule.confidenceIn setting events ∧
        d = Diagnosis.ofRule stamp rule (rule.confidenceIn setting events)
          (rule.markedEvidence setting events) := by
  constructor
  · intro fired
    rcases evaluate_cases setting rule events stamp with
      ⟨c, -, fault, -, failed⟩ | ⟨c, -, -, -, -, unmet⟩ | met
    · cases failed.symm.trans fired
    · cases unmet.symm.trans fired
    · rw [evaluate_of_met met] at fired
      split at fired
      · rename_i written
        split at fired
        · cases fired
        · rename_i reached
          cases fired
          exact ⟨met, written, Int.not_lt.mp reached, rfl⟩
      · cases fired
  · rintro ⟨met, written, reached, rfl⟩
    rw [evaluate_of_met met, if_pos written, if_neg (Int.not_lt.mpr reached)]

/-- An evaluation fails only if something hinders it. -/
theorem hindered_of_evaluate {stamp : Stamp} {message : String}
    (failed : rule.evaluate stamp (Condition.evaluator setting) events = .error message) :
    rule.Hindered setting events message := by
  rcases evaluate_cases setting rule events stamp with
    ⟨c, member, fault, hindered, stopped⟩ | ⟨c, -, -, -, -, unmet⟩ | met
  · cases stopped.symm.trans failed
    exact .condition member (Condition.hindered_of_error hindered)
  · cases unmet.symm.trans failed
  · rw [evaluate_of_met met] at failed
    split at failed
    · cases failed
    · rename_i unwritten
      cases failed
      exact hindered_of_not_weighs (by simpa using unwritten)

end Evaluation

end Rule

end EnrollmentDiagnosis
