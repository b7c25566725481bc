import EnrollmentDiagnosis.Proofs.AnalysisResults
import EnrollmentDiagnosis.Proofs.CountedFactors
import EnrollmentDiagnosis.Proofs.RoundedQuotients

set_option autoImplicit false

namespace EnrollmentDiagnosis

/-- More microseconds exceed whatever fewer of them exceed, in seconds too. -/
theorem Time.seconds_exceeds_mono {short long n : Int} (nonneg : 0 ≤ short) (least : short ≤ long)
    (above : (Time.seconds short).exceeds n = true) : (Time.seconds long).exceeds n = true := by
  have signs : ∀ {duration : Int}, 0 ≤ duration → decide (duration < 0) = false :=
    fun nonneg => decide_eq_false (Int.not_lt.mpr nonneg)
  unfold Time.seconds at above ⊢
  rw [signs nonneg] at above
  rw [signs (by omega)]
  exact Number.Binary64.ofRatio_exceeds_mono (by decide) (by omega) above

/-- The evidence of one match under an earlier and a later clock. -/
inductive Evidence.Outlasted : Evidence → Evidence → Prop
  | unchanged (evidence : Evidence) : Outlasted evidence evidence
  | longer (span : PhaseSpan) (duration : Int) (nonneg : 0 ≤ span.duration)
      (least : span.duration ≤ duration) :
      Outlasted (.phase span) (.phase { span with duration := duration })

/-- The outcomes of one condition under an earlier and a later clock. -/
def Outcome.Outlasted (outcome later : Outcome) : Prop :=
  (outcome.evidence? = none ∧ later.evidence? = none) ∨
    ∃ evidence evidenceLater : Evidence, evidence.Outlasted evidenceLater ∧
      outcome.evidence? = some evidence ∧ later.evidence? = some evidenceLater

theorem Outcome.Outlasted.refl (outcome : Outcome) : outcome.Outlasted outcome := by
  cases outcome with
  | matched evidence => exact .inr ⟨evidence, evidence, .unchanged evidence, rfl, rfl⟩
  | unmatched reason => exact .inl ⟨rfl, rfl⟩

/-- The results of evaluating one condition under an earlier and a later clock. -/
inductive Outcome.BothOutlasted :
    Except DetectionFault Outcome → Except DetectionFault Outcome → Prop
  | failed (fault : DetectionFault) : BothOutlasted (.error fault) (.error fault)
  | returned {outcome later : Outcome} (outlasted : outcome.Outlasted later) :
      BothOutlasted (.ok outcome) (.ok later)

theorem Outcome.BothOutlasted.refl (result : Except DetectionFault Outcome) :
    BothOutlasted result result := by
  cases result with
  | ok outcome => exact .returned (.refl outcome)
  | error fault => exact .failed fault

section BothClocks

variable {result later : Except DetectionFault Outcome}

theorem Outcome.BothOutlasted.evidence? (both : BothOutlasted result later) :
    (result.toOption.bind Outcome.evidence? = none ∧ later.toOption.bind Outcome.evidence? = none) ∨
      ∃ evidence evidenceLater : Evidence, evidence.Outlasted evidenceLater ∧
        result.toOption.bind Outcome.evidence? = some evidence ∧
        later.toOption.bind Outcome.evidence? = some evidenceLater := by
  cases both with
  | failed fault => exact .inl ⟨rfl, rfl⟩
  | returned outlasted => exact outlasted

theorem Outcome.BothOutlasted.returns_iff (both : BothOutlasted result later) :
    (∃ outcome, later = .ok outcome) ↔ ∃ outcome, result = .ok outcome := by
  cases both with
  | failed fault => simp
  | returned outlasted => simp

end BothClocks

/-- The evidence by signal under an earlier and a later clock. -/
def MatchedEvidence.Outlasted (m later : MatchedEvidence) : Prop :=
  List.Forall₂ (fun entry entryLater => entry.1 = entryLater.1 ∧ entry.2.Outlasted entryLater.2)
    m later

/-- True if the first duration in evidence is above a number. -/
def MatchedEvidence.lastsAbove (m : MatchedEvidence) (n : Int) : Bool :=
  match m.firstDuration with
  | .ok (some duration) => duration.exceeds n
  | _ => false

namespace MatchedEvidence

variable {m later : MatchedEvidence}

theorem Outlasted.signals (outlasted : m.Outlasted later) : m.signals = later.signals := by
  unfold MatchedEvidence.signals
  induction outlasted with
  | nil => rfl
  | cons here _ ih => rw [List.map_cons, List.map_cons, here.1, ih]

theorem Outlasted.put (outlasted : m.Outlasted later) (signal : String)
    {evidence evidenceLater : Evidence} (kept : evidence.Outlasted evidenceLater) :
    (m.put signal evidence).Outlasted (later.put signal evidenceLater) := by
  induction outlasted with
  | nil => exact .cons ⟨rfl, kept⟩ .nil
  | @cons entry entryLater _ _ here rest ih =>
    obtain ⟨s, before⟩ := entry
    obtain ⟨sLater, after⟩ := entryLater
    obtain ⟨same, outlasts⟩ := here
    cases same
    unfold MatchedEvidence.put
    split
    · exact .cons ⟨rfl, kept⟩ rest
    · exact .cons ⟨rfl, outlasts⟩ ih

/-- The first duration comes from corresponding evidence, so only its length can differ. -/
theorem Outlasted.lastsAbove (outlasted : m.Outlasted later) {n : Int}
    (above : m.lastsAbove n = true) : later.lastsAbove n = true := by
  unfold MatchedEvidence.lastsAbove MatchedEvidence.firstDuration at above ⊢
  induction outlasted with
  | nil => exact above
  | @cons entry entryLater _ _ here _ ih =>
    obtain ⟨s, evidence⟩ := entry
    obtain ⟨sLater, evidenceLater⟩ := entryLater
    rw [List.findSome?_cons] at above ⊢
    cases here.2 with
    | unchanged =>
      cases timed : evidence.duration? with
      | none =>
        rw [timed] at above
        exact ih above
      | some duration => rwa [timed] at above
    | longer span duration nonneg least =>
      exact Time.seconds_exceeds_mono nonneg least above

/-- True if evidence under the mark of a factor never has a duration. -/
def MarksUntimed (m : MatchedEvidence) : Prop :=
  ∀ entry ∈ m, ∀ signal, entry.1 = factorMark signal → entry.2.duration? = none

theorem MarksUntimed.put (untimed : m.MarksUntimed) (signal : String) :
    (m.put signal .mark).MarksUntimed := by
  intro entry member name marked
  rcases mem_put member with before | set
  · exact untimed entry before name marked
  · rw [set]
    rfl

/-- A mark takes the place of no evidence with a duration. -/
theorem MarksUntimed.firstDuration_put (untimed : m.MarksUntimed) (signal : String) :
    (m.put (factorMark signal) .mark).firstDuration = m.firstDuration := by
  have found : (m.put (factorMark signal) .mark).findSome? (fun entry => entry.2.duration?) =
      m.findSome? fun entry => entry.2.duration? := by
    induction m with
    | nil => rfl
    | cons entry rest ih =>
      obtain ⟨here, others⟩ := List.forall_mem_cons.mp untimed
      unfold MatchedEvidence.put
      split
      · rename_i same
        rw [List.findSome?_cons, List.findSome?_cons, here signal same]
        rfl
      · rw [List.findSome?_cons, List.findSome?_cons, ih others]
  unfold MatchedEvidence.firstDuration
  rw [found]

/-- What the factors of a rule see under an earlier and a later clock. -/
structure Ahead (m later : MatchedEvidence) : Prop where
  signals : m.signals ⊆ later.signals
  lastsAbove : ∀ n, m.lastsAbove n = true → later.lastsAbove n = true
  untimed : m.MarksUntimed
  untimedLater : later.MarksUntimed

theorem Outlasted.ahead (outlasted : m.Outlasted later) (untimed : m.MarksUntimed)
    (untimedLater : later.MarksUntimed) : m.Ahead later where
  signals := outlasted.signals ▸ List.Subset.refl _
  lastsAbove _ above := outlasted.lastsAbove above
  untimed := untimed
  untimedLater := untimedLater

theorem lastsAbove_put (untimed : m.MarksUntimed) (signal : String) (n : Int) :
    (m.put (factorMark signal) .mark).lastsAbove n = m.lastsAbove n := by
  unfold MatchedEvidence.lastsAbove
  rw [untimed.firstDuration_put signal]

/-- A factor that is counted under the later clock only leaves its evidence ahead. -/
theorem Ahead.markLater (ahead : m.Ahead later) (signal : String) :
    m.Ahead (later.put (factorMark signal) .mark) where
  signals := subset_put_signals ahead.signals _ _
  lastsAbove n above := by
    rw [lastsAbove_put ahead.untimedLater]
    exact ahead.lastsAbove n above
  untimed := ahead.untimed
  untimedLater := ahead.untimedLater.put _

/-- A factor that is counted under both clocks leaves the later evidence ahead. -/
theorem Ahead.mark (ahead : m.Ahead later) (signal : String) :
    (m.put (factorMark signal) .mark).Ahead (later.put (factorMark signal) .mark) where
  signals := put_signals_subset ahead.signals _ _ _
  lastsAbove n above := by
    rw [lastsAbove_put ahead.untimed] at above
    rw [lastsAbove_put ahead.untimedLater]
    exact ahead.lastsAbove n above
  untimed := ahead.untimed.put _
  untimedLater := ahead.untimedLater.put _

end MatchedEvidence

namespace Rule

variable {m later : MatchedEvidence} {events : List Event}

/-- A factor that applies goes on to apply. -/
theorem applies_ahead (ahead : m.Ahead later) {factor : ConfidenceFactor}
    (applies : factor.applies m events = .ok true) : factor.applies later events = .ok true := by
  unfold ConfidenceFactor.applies at applies ⊢
  split at applies
  · have before : m.has factor.signal = true := Except.ok.inj applies
    rw [MatchedEvidence.has_eq_true_iff] at before
    have after := (MatchedEvidence.has_eq_true_iff later _).mpr (ahead.signals before)
    rw [after]
  · exact applies
  · rename_i n _
    have above : m.lastsAbove n = true := by
      unfold MatchedEvidence.lastsAbove
      cases timed : m.firstDuration with
      | error e =>
        rw [timed] at applies
        cases applies
      | ok duration =>
        rw [timed] at applies
        cases duration with
        | none => cases applies
        | some x => exact Except.ok.inj applies
    have aboveLater := ahead.lastsAbove n above
    unfold MatchedEvidence.lastsAbove at aboveLater
    split at aboveLater
    · rename_i timed
      rw [timed]
      exact congrArg Except.ok aboveLater
    · cases aboveLater
  · cases applies

end Rule

section Clock

variable {matcher : Matcher} {type : String} {now nowLater : Time.Instant}
  (passing : now ≤ nowLater) (events : List Event)

include passing

/-- A later clock only prolongs a phase without an end. -/
theorem Condition.phaseEvidence_outlasted (target : String) (found : Event × Option Event) :
    (phaseEvidence ⟨matcher, type, now⟩ target found).Outlasted
      (phaseEvidence ⟨matcher, type, nowLater⟩ target found) := by
  obtain ⟨entered, next⟩ := found
  cases next with
  | some e => exact .unchanged _
  | none =>
    have microseconds : now.microseconds ≤ nowLater.microseconds := passing
    refine .longer (phaseSpan ⟨matcher, type, now⟩ target entered none)
      (max 0 (nowLater.since entered.time)) (Int.le_max_left _ _) ?_
    show max 0 (now.since entered.time) ≤ max 0 (nowLater.since entered.time)
    unfold Time.Instant.since
    omega

/-- A phase is found under a later clock exactly if it was before. -/
theorem Condition.evaluatePhase_later (c : Condition) :
    Outcome.BothOutlasted (c.evaluatePhase ⟨matcher, type, now⟩ events)
      (c.evaluatePhase ⟨matcher, type, nowLater⟩ events) := by
  unfold Condition.evaluatePhase
  dsimp only
  generalize Event.sort (events.filter fun e => e.hasType type) = changes
  cases changes with
  | nil => exact .refl _
  | cons first rest =>
    cases nonempty? c.value with
    | none => exact .refl _
    | some target =>
      dsimp only
      cases findWithNextM? (c.checkPhase target) (first :: rest) with
      | error fault => exact .failed fault
      | ok found =>
        cases found with
        | none => exact .refl _
        | some found =>
          exact .returned (.inr ⟨_, _, phaseEvidence_outlasted passing target found, rfl, rfl⟩)

/-- A condition matches under a later clock exactly if it did before, with evidence that lasts as
long or longer. All sources but phases give one outcome under both clocks. -/
theorem Condition.evaluate_later (c : Condition) :
    Outcome.BothOutlasted (c.evaluate ⟨matcher, type, now⟩ events)
      (c.evaluate ⟨matcher, type, nowLater⟩ events) := by
  unfold Condition.evaluate
  split
  · exact .refl _
  · exact .refl _
  · exact .refl _
  · exact c.evaluatePhase_later passing events
  · exact .refl _
  · exact .refl _
  · exact .refl _

theorem Condition.evidence?_later (c : Condition) :
    (c.evidence? ⟨matcher, type, now⟩ events = none ∧
        c.evidence? ⟨matcher, type, nowLater⟩ events = none) ∨
      ∃ evidence evidenceLater : Evidence, evidence.Outlasted evidenceLater ∧
        c.evidence? ⟨matcher, type, now⟩ events = some evidence ∧
        c.evidence? ⟨matcher, type, nowLater⟩ events = some evidenceLater :=
  (c.evaluate_later passing events).evidence?

theorem Condition.matches_later (c : Condition) :
    c.Matches ⟨matcher, type, nowLater⟩ events ↔ c.Matches ⟨matcher, type, now⟩ events := by
  rw [← evidence?_isSome_iff, ← evidence?_isSome_iff]
  rcases c.evidence?_later passing events with ⟨before, after⟩ | ⟨_, _, -, before, after⟩
  · rw [before, after]
  · rw [before, after]
    rfl

namespace Rule

theorem met_later (conditions : List Condition) :
    Met ⟨matcher, type, nowLater⟩ events conditions ↔
      Met ⟨matcher, type, now⟩ events conditions := by
  unfold Met
  simp only [(Condition.evaluate_later passing events _).returns_iff,
    Condition.matches_later passing events]

theorem matchedEvidence_outlasted (conditions : List Condition) :
    (matchedEvidence ⟨matcher, type, now⟩ events conditions).Outlasted
      (matchedEvidence ⟨matcher, type, nowLater⟩ events conditions) := by
  have gathered : ∀ m later : MatchedEvidence, m.Outlasted later →
      (m.putAll (conditions.filterMap
          (Condition.matched? ⟨matcher, type, now⟩ events))).Outlasted
        (later.putAll (conditions.filterMap
          (Condition.matched? ⟨matcher, type, nowLater⟩ events))) := by
    induction conditions with
    | nil => exact fun _ _ outlasted => outlasted
    | cons c rest ih =>
      intro m later outlasted
      rcases c.evidence?_later passing events with
        ⟨before, after⟩ | ⟨evidence, evidenceLater, kept, before, after⟩
      · rw [List.filterMap_cons_none (Condition.matched?_of_unmatched before),
          List.filterMap_cons_none (Condition.matched?_of_unmatched after)]
        exact ih m later outlasted
      · rw [List.filterMap_cons_some (Condition.matched?_of_evidence before),
          List.filterMap_cons_some (Condition.matched?_of_evidence after)]
        exact ih _ _ (outlasted.put c.signal kept)
  exact gathered [] [] .nil

omit passing in
theorem matchedEvidence_marksUntimed (setting : DetectionSetting) {conditions : List Condition}
    (unmarked : ∀ c ∈ conditions, ∀ signal, c.signal ≠ factorMark signal) :
    (matchedEvidence setting events conditions).MarksUntimed := by
  intro entry member signal marked
  have named : entry.1 ∈ (matchedEvidence setting events conditions).signals :=
    List.mem_map_of_mem member
  obtain ⟨c, reached, -, same⟩ :=
    (mem_signals_matchedEvidence setting events conditions entry.1).mp named
  exact absurd (same.trans marked) (unmarked c reached signal)

variable {rule : Rule} (unmarked : ∀ c ∈ rule.conditions, ∀ signal, c.signal ≠ factorMark signal)
include unmarked

theorem counted_sublist_later :
    (rule.counted ⟨matcher, type, now⟩ events).Sublist
      (rule.counted ⟨matcher, type, nowLater⟩ events) :=
  countedFactors_sublist MatchedEvidence.Ahead
    (fun ahead _ _ applies => applies_ahead ahead applies)
    (fun signal ahead => ahead.mark signal) (fun signal ahead => ahead.markLater signal)
    ((matchedEvidence_outlasted passing events rule.conditions).ahead
      (matchedEvidence_marksUntimed events _ unmarked)
      (matchedEvidence_marksUntimed events _ unmarked))

/-- A rule that fires goes on to fire, with at least its confidence and for the same conditions,
unless a factor is counted whose weight cannot be written. -/
theorem evaluate_later (weights : ∀ factor ∈ rule.factors, 0 ≤ factor.weight)
    (stamp stampLater : Stamp) {d : Diagnosis}
    (fired : rule.evaluate stamp (Condition.evaluator ⟨matcher, type, now⟩) events =
      .ok (some d)) :
    (∃ found, rule.evaluate stampLater (Condition.evaluator ⟨matcher, type, nowLater⟩) events =
        .ok (some found) ∧
      d.confidence ≤ found.confidence ∧
      ∀ signal, (∀ s, signal ≠ factorMark s) →
        (signal ∈ d.evidence.signals ↔ signal ∈ found.evidence.signals)) ∨
    rule.evaluate stampLater (Condition.evaluator ⟨matcher, type, nowLater⟩) events =
        .error Value.unwritableReason ∧
      ∃ factor ∈ rule.counted ⟨matcher, type, nowLater⟩ events, factor.isWritable = false := by
  obtain ⟨met, -, reached, rfl⟩ := evaluate_eq_some_iff.mp fired
  have least : rule.confidenceIn ⟨matcher, type, now⟩ events ≤
      rule.confidenceIn ⟨matcher, type, nowLater⟩ events :=
    confidenceIn_le weights (counted_sublist_later passing events unmarked)
  have reachedLater : ¬rule.confidenceIn ⟨matcher, type, nowLater⟩ events < rule.threshold := by
    omega
  rw [evaluate_of_met ((met_later passing events rule.conditions).mpr met)]
  cases written : rule.weighs ⟨matcher, type, nowLater⟩ events with
  | true =>
    rw [if_pos rfl, if_neg reachedLater]
    refine .inl ⟨_, rfl, least, fun signal plain => ?_⟩
    show signal ∈ (rule.markedEvidence ⟨matcher, type, now⟩ events).signals ↔
      signal ∈ (rule.markedEvidence ⟨matcher, type, nowLater⟩ events).signals
    rw [mem_signals_markedEvidence, mem_signals_markedEvidence]
    have noMark : ∀ setting, ¬∃ factor ∈ rule.counted setting events,
        factorMark factor.signal = signal :=
      fun setting ⟨factor, _, marked⟩ => plain factor.signal marked.symm
    simp only [noMark, or_false, Condition.matches_later passing events]
  | false =>
    obtain ⟨factor, counted, unwritable⟩ := List.all_eq_false.mp written
    exact .inr ⟨if_neg Bool.false_ne_true, factor, counted, by simpa using unwritable⟩

end Rule

end Clock

namespace Analysis

/-- Passing time retracts no diagnosis, unless a factor comes to apply whose weight cannot be
written: a rule whose factors only add to its confidence fires under every later clock, with at
least the confidence that it had and evidence for the same conditions. -/
theorem passing_time_keeps_diagnosis (matcher : Matcher) (type : String)
    (now nowLater : Time.Instant) (passing : now ≤ nowLater) (stampFor stampLater : String → Stamp)
    (rule : Rule) (weights : ∀ factor ∈ rule.factors, 0 ≤ factor.weight)
    (unmarked : ∀ c ∈ rule.conditions, ∀ signal, c.signal ≠ factorMark signal)
    (events : List Event) (d : Diagnosis)
    (fired : d ∈ analyze ⟨Condition.evaluator ⟨matcher, type, now⟩, stampFor⟩ [rule] events []) :
    (∃ found, analyze ⟨Condition.evaluator ⟨matcher, type, nowLater⟩, stampLater⟩ [rule] events
        [] = [found] ∧
      d.confidence ≤ found.confidence ∧
      ∀ signal, (∀ s, signal ≠ factorMark s) →
        (signal ∈ d.evidence.signals ↔ signal ∈ found.evidence.signals)) ∨
    rule.evaluate (stampLater rule.id) (Condition.evaluator ⟨matcher, type, nowLater⟩)
        (Event.sort events) = .error Value.unwritableReason ∧
      ∃ factor ∈ rule.factors, factor.isWritable = false := by
  obtain ⟨enabled, nonempty, diagnosed⟩ := mem_analyze_single fired
  rcases Rule.evaluate_later passing (Event.sort events) unmarked weights _ (stampLater rule.id)
    diagnosed with ⟨found, diagnosedLater, kept⟩ | ⟨failed, factor, counted, unwritable⟩
  · exact .inl ⟨found, analyze_single_of_evaluate enabled nonempty diagnosedLater, kept⟩
  · exact .inr ⟨failed, factor, Rule.countedFactors_subset rule.factors _ counted, unwritable⟩

/-- A rule about a phase, with a factor of some weight after a minute. -/
def lingeringRule (weight : Int) : Rule :=
  { (default : Rule) with
    id := "lingering"
    enabled := true
    conditions := [{ (default : Condition) with
      signal := "phase", source := .phaseDuration, value := some "setup", required := true }]
    baseConfidence := 50
    factors := [⟨"phase", "phase_duration > 60", weight,
      ⟨.durationAbove 60, "phase_duration > 60"⟩⟩]
    threshold := 50 }

theorem lingeringRule_unmarked (weight : Int) :
    ∀ c ∈ (lingeringRule weight).conditions, ∀ signal, c.signal ≠ factorMark signal := by
  intro c member signal marked
  cases List.mem_singleton.mp member
  have letters : "phase".toList = "factor_".toList ++ signal.toList := by
    rw [← String.toList_append]
    exact congrArg String.toList marked
  cases congrArg List.head? letters

/-- The start of a phase that does not end. -/
def setupEntered : Event :=
  { (default : Event) with
    type := "phase_change"
    payload := [("espPhase", .text "setup")] }

/-- An engine some seconds after the first second of the calendar. -/
def engineAt (second : Int) : Engine :=
  ⟨Condition.evaluator ⟨Pattern.matcher, "phase_change", ⟨1000000 * second⟩⟩, fun _ => default⟩

/-- Half a minute into the phase it is diagnosed, and so it is after a minute and a half. -/
theorem lingering_phase_keeps_diagnosis :
    (analyze (engineAt 30) [lingeringRule 20] [setupEntered] []).map (·.confidence) = [50] ∧
    ∃ found, analyze (engineAt 90) [lingeringRule 20] [setupEntered] [] = [found] ∧
      50 ≤ found.confidence := by
  have first : (analyze (engineAt 30) [lingeringRule 20] [setupEntered] []).map (·.confidence) =
      [50] := by decide +kernel
  refine ⟨first, ?_⟩
  obtain ⟨d, fired, confidence⟩ := List.mem_map.mp (first ▸ List.mem_singleton_self (50 : Int))
  rcases passing_time_keeps_diagnosis Pattern.matcher "phase_change" ⟨30000000⟩ ⟨90000000⟩
    (by decide) (fun _ => default) (fun _ => default) (lingeringRule 20) (by decide)
    (lingeringRule_unmarked 20) [setupEntered] d fired with
    ⟨found, diagnosed, least, -⟩ | ⟨-, unwritable⟩
  · exact ⟨found, diagnosed, by omega⟩
  · exact absurd unwritable (by decide +kernel)

example : (analyze (engineAt 90) [lingeringRule 20] [setupEntered] []).map (·.confidence) =
    [70] := by decide +kernel

/-- Passing time can take a diagnosis back: after a minute a factor applies, and its weight cannot
be written. -/
theorem lingering_phase_retracts_diagnosis :
    ¬∀ (matcher : Matcher) (type : String) (now nowLater : Time.Instant)
      (stampFor : String → Stamp) (rule : Rule) (events : List Event), now ≤ nowLater →
      (∀ factor ∈ rule.factors, 0 ≤ factor.weight) →
      (∀ c ∈ rule.conditions, ∀ signal, c.signal ≠ factorMark signal) →
      ∀ d ∈ analyze ⟨Condition.evaluator ⟨matcher, type, now⟩, stampFor⟩ [rule] events [],
        ∃ found ∈ analyze ⟨Condition.evaluator ⟨matcher, type, nowLater⟩, stampFor⟩ [rule] events
          [], d.confidence ≤ found.confidence := by
  intro always
  have first : (analyze (engineAt 30) [lingeringRule overlongInteger] [setupEntered] []).map
      (·.confidence) = [50] := by decide +kernel
  obtain ⟨d, fired, -⟩ := List.mem_map.mp (first ▸ List.mem_singleton_self (50 : Int))
  obtain ⟨found, diagnosed, -⟩ := always Pattern.matcher "phase_change" ⟨30000000⟩ ⟨90000000⟩
    (fun _ => default) (lingeringRule overlongInteger) [setupEntered] (by decide)
    (by decide +kernel) (lingeringRule_unmarked _) d fired
  have retracted : (analyze (engineAt 90) [lingeringRule overlongInteger] [setupEntered]
      []).map (·.confidence) = [] := by decide +kernel
  have kept := List.mem_map_of_mem (f := (·.confidence)) diagnosed
  exact absurd (retracted ▸ kept) List.not_mem_nil

end Analysis

end EnrollmentDiagnosis
