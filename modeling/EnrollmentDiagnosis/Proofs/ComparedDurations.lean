import EnrollmentDiagnosis.Proofs.EvidenceLookups
import EnrollmentDiagnosis.Proofs.PhaseSpans

set_option autoImplicit false

namespace EnrollmentDiagnosis

/-- The seconds that evidence records for a duration. -/
def Evidence.seconds? (evidence : Evidence) : Option Number.Binary64 :=
  match evidence.toValue.along? ["durationSeconds"] with
  | some (.float seconds) => some seconds
  | _ => none

/-- Evidence that no one recorded has a duration exactly if its value records seconds. -/
theorem Evidence.duration?_eq_map {evidence : Evidence} (taken : ∀ v, evidence ≠ .recorded v) :
    evidence.duration? = evidence.seconds?.map fun seconds => .ok (some seconds) := by
  cases evidence with
  | occurrence event count | fieldMatch event field value =>
    simp [duration?, seconds?, toValue, EventReference.entries]
  | tally first count threshold =>
    cases first <;> simp [duration?, seconds?, toValue, EventReference.entries]
  | phase span => simp [duration?, seconds?, toValue, PhaseSpan.entries, durationEntries]
  | install span => simp [duration?, seconds?, toValue, InstallSpan.entries, durationEntries]
  | correlation pair => simp [duration?, seconds?, toValue, Correlation.entries]
  | mark => rfl
  | recorded v => exact absurd rfl (taken v)

namespace Condition

variable (setting : DetectionSetting) (events : List Event)

/-- The seconds in the evidence of a condition, if it matches and its evidence has any. -/
def seconds? (c : Condition) : Option Number.Binary64 :=
  (c.evidence? setting events).bind Evidence.seconds?

/-- The duration in the evidence of the first matched condition that has one. -/
def firstSeconds? (conditions : List Condition) : Option Number.Binary64 :=
  conditions.findSome? (seconds? setting events)

/-- The evidence of the last matched condition with a signal. -/
def lastEvidence? (conditions : List Condition) (signal : String) : Option Evidence :=
  conditions.reverse.findSome? fun c =>
    if c.signal = signal then c.evidence? setting events else none

/-- The evidence that stands under a signal once some marks are set. -/
def standing? (conditions : List Condition) (marks : List String) (signal : String) :
    Option Evidence :=
  if signal ∈ marks then some .mark else lastEvidence? setting events conditions signal

/-- The first duration if each matched condition shows the evidence that stands under its signal. -/
def shownSeconds? (conditions : List Condition) (marks : List String) : Option Number.Binary64 :=
  conditions.findSome? fun c => (c.evidence? setting events).bind fun _ =>
    (standing? setting events conditions marks c.signal).bind Evidence.seconds?

variable {setting events} {conditions : List Condition}

theorem lookup_reverse_matched (signal : String) :
    (conditions.filterMap (matched? setting events)).reverse.lookup signal =
      lastEvidence? setting events conditions signal := by
  rw [← List.filterMap_reverse, List.lookup_eq_findSome?, findSome?_filterMap_eq_bind,
    lastEvidence?]
  refine findSome?_congr_of_mem fun c _ => ?_
  cases found : c.evidence? setting events with
  | none =>
    rw [matched?_of_unmatched found, ite_self]
    rfl
  | some evidence =>
    rw [matched?_of_evidence found, Option.bind_some]
    by_cases here : c.signal = signal
    · simp [here]
    · simp [here, Ne.symm here]

theorem standing?_taken {marks : List String} {signal : String} {evidence : Evidence}
    (stands : standing? setting events conditions marks signal = some evidence) (v : Value) :
    evidence ≠ .recorded v := by
  unfold standing? at stands
  split at stands
  · cases stands
    exact nofun
  · obtain ⟨_, c, _, -, found, -⟩ := List.findSome?_eq_some_iff.mp stands
    split at found
    · exact taken_of_matched? (matched?_of_evidence found) v
    · cases found

/-- A matched condition shows the duration of what stands under its signal. -/
theorem bind_matched? (c : Condition) (marks : List String) :
    ((c.matched? setting events).bind fun entry =>
      (standing? setting events conditions marks entry.1).bind Evidence.duration?) =
      ((c.evidence? setting events).bind fun _ =>
        (standing? setting events conditions marks c.signal).bind Evidence.seconds?).map
          fun seconds => .ok (some seconds) := by
  cases found : c.evidence? setting events with
  | none =>
    rw [matched?_of_unmatched found]
    rfl
  | some evidence =>
    rw [matched?_of_evidence found, Option.bind_some, Option.bind_some]
    cases stands : standing? setting events conditions marks c.signal with
    | none => rfl
    | some kept => exact Evidence.duration?_eq_map (standing?_taken stands)

/-- Under the signal of one matched condition only stands the evidence of that condition. -/
theorem lastEvidence?_of_only {c : Condition} (member : c ∈ conditions)
    (only : ∀ other ∈ conditions, other.Matches setting events →
      other.signal = c.signal → other = c) :
    lastEvidence? setting events conditions c.signal = c.evidence? setting events := by
  cases last : lastEvidence? setting events conditions c.signal with
  | none =>
    have unmatched := List.findSome?_eq_none_iff.mp last c (List.mem_reverse.mpr member)
    rw [if_pos rfl] at unmatched
    exact unmatched.symm
  | some evidence =>
    obtain ⟨_, other, _, split, found, -⟩ := List.findSome?_eq_some_iff.mp last
    have there : other ∈ conditions := by
      rw [← List.mem_reverse, split]
      exact List.mem_append_right _ List.mem_cons_self
    split at found
    · rename_i same
      have matched : other.Matches setting events := ⟨evidence, evidence?_eq_some_iff.mp found⟩
      rw [← only other there matched same, found]
    · cases found

/-- What is shown is the duration of the first matched condition if no two matched conditions share
a signal and no signal of one is a mark. -/
theorem shownSeconds?_of_distinct {marks : List String}
    (distinct : ∀ c ∈ conditions, c.Matches setting events →
      c.signal ∉ marks ∧ ∀ other ∈ conditions, other.Matches setting events →
        other.signal = c.signal → other = c) :
    shownSeconds? setting events conditions marks = firstSeconds? setting events conditions := by
  refine findSome?_congr_of_mem fun c member => ?_
  rw [seconds?]
  cases found : c.evidence? setting events with
  | none => rfl
  | some evidence =>
    obtain ⟨unmarked, only⟩ := distinct c member ⟨evidence, evidence?_eq_some_iff.mp found⟩
    rw [Option.bind_some, standing?, if_neg unmarked, lastEvidence?_of_only member only, found]

end Condition

namespace MatchedEvidence

open Condition (matched? standing? shownSeconds?)

variable {setting : DetectionSetting} {events : List Event} {conditions : List Condition}

theorem lookup_marks (marks : List String) (signal : String) :
    (marks.map fun mark => (mark, Evidence.mark)).lookup signal =
      if signal ∈ marks then some .mark else none := by
  induction marks with
  | nil => rfl
  | cons first rest ih =>
    rw [List.map_cons, Entries.lookup_cons_eq, ih]
    by_cases here : signal = first <;> simp [here]

theorem lookup_marked (marks : List String) (signal : String) :
    (conditions.filterMap (matched? setting events) ++
        marks.map fun mark => (mark, Evidence.mark)).reverse.lookup signal =
      standing? setting events conditions marks signal := by
  rw [List.reverse_append, List.lookup_append, ← List.map_reverse, lookup_marks,
    Condition.lookup_reverse_matched, standing?]
  simp only [List.mem_reverse]
  split <;> rfl

/-- The first duration in the evidence of matched conditions with some marks. -/
theorem firstDuration_marked (setting : DetectionSetting) (events : List Event)
    (conditions : List Condition) (marks : List String) :
    ((Rule.matchedEvidence setting events conditions).setMarks marks).firstDuration =
      .ok (shownSeconds? setting events conditions marks) := by
  have gathered : (Rule.matchedEvidence setting events conditions).setMarks marks =
      putAll [] (conditions.filterMap (matched? setting events) ++
        marks.map fun mark => (mark, Evidence.mark)) := List.foldl_append.symm
  -- Marks have no duration, so the search ends among the conditions.
  have noMark : (marks.map fun mark => (mark, Evidence.mark)).findSome? (fun entry =>
      (standing? setting events conditions marks entry.1).bind Evidence.duration?) = none := by
    refine List.findSome?_eq_none_iff.mpr fun entry member => ?_
    obtain ⟨mark, set, rfl⟩ := List.mem_map.mp member
    rw [standing?, if_pos set]
    rfl
  have found : ((Rule.matchedEvidence setting events conditions).setMarks marks).findSome?
      (fun entry => entry.2.duration?) =
        (shownSeconds? setting events conditions marks).map fun seconds => .ok (some seconds) := by
    rw [gathered, findSome?_putAll, List.findSome?_append]
    simp only [lookup_marked]
    rw [noMark, Option.or_none, findSome?_filterMap_eq_bind, shownSeconds?, List.map_findSome?]
    exact findSome?_congr_of_mem fun c _ => Condition.bind_matched? c marks
  unfold firstDuration
  rw [found]
  cases shownSeconds? setting events conditions marks <;> rfl

end MatchedEvidence

namespace Rule

/-- The loop over factors goes on behind some of them with what they leave. -/
theorem addFactors_append {events : List Event} {earlier : List ConfidenceFactor}
    {confidence total : Int} {m seen : MatchedEvidence}
    (added : addFactors events earlier confidence m = .ok (total, seen))
    (rest : List ConfidenceFactor) :
    addFactors events (earlier ++ rest) confidence m = addFactors events rest total seen := by
  induction earlier generalizing confidence m with
  | nil =>
    cases added
    rfl
  | cons factor others ih =>
    rw [List.cons_append, addFactors]
    rw [addFactors] at added
    split at added
    · cases added
    · split at added
      · rename_i written
        rw [if_pos written]
        exact ih added
      · cases added
    · exact ih added

/-- The verdict of the loop over the factors of a rule on the one that stands behind some others: it
is tested on the evidence that those leave. -/
def VerdictOn (rule : Rule) (events : List Event) (m : MatchedEvidence)
    (earlier : List ConfidenceFactor) (factor : ConfidenceFactor) (later : List ConfidenceFactor)
    (verdict : Bool) : Prop :=
  ∃ total seen, addFactors events earlier rule.baseConfidence m = .ok (total, seen) ∧
    addFactors events rule.factors rule.baseConfidence m =
      addFactors events (factor :: later) total seen ∧
    factor.applies seen events = .ok verdict

theorem applies_of_firstDuration {factor : ConfidenceFactor} {n : Int}
    (test : factor.expression.test = .durationAbove n) {m : MatchedEvidence}
    {duration : Option Number.Binary64} (first : m.firstDuration = .ok duration)
    (events : List Event) : factor.applies m events = .ok (duration.any (·.exceeds n)) := by
  unfold ConfidenceFactor.applies
  rw [test, first]
  cases duration <;> rfl

/-- When a rule is scored, a factor on durations is satisfied exactly if the first duration that
the matched conditions show is above its number. In their order, each shows what stands under its
signal: the mark of a factor satisfied before, or else the evidence of the last match. While no two
matched conditions share a signal and none is marked, this is the duration of the first matched
condition that has one. Scoring only has to get as far as this factor. -/
theorem compared_duration_shown (setting : DetectionSetting) (rule : Rule) (events : List Event)
    (m : MatchedEvidence)
    (matched : matchConditions (Condition.evaluator setting) events rule.conditions [] =
      .ok (some m))
    (earlier later : List ConfidenceFactor) (factor : ConfidenceFactor)
    (split : rule.factors = earlier ++ factor :: later)
    (scored : ∃ left, addFactors events earlier rule.baseConfidence m = .ok left) (n : Int)
    (test : factor.expression.test = .durationAbove n) :
    ∃ verdict, rule.VerdictOn events m earlier factor later verdict ∧
      (verdict = true ↔ ∃ seconds, Condition.shownSeconds? setting events rule.conditions
        (marksOf (countedFactors events earlier m)) = some seconds ∧ seconds.exceeds n = true) ∧
      ((∀ c ∈ rule.conditions, c.Matches setting events →
          c.signal ∉ marksOf (countedFactors events earlier m) ∧
          ∀ other ∈ rule.conditions, other.Matches setting events →
            other.signal = c.signal → other = c) →
        (verdict = true ↔ ∃ seconds,
          Condition.firstSeconds? setting events rule.conditions = some seconds ∧
            seconds.exceeds n = true)) := by
  obtain ⟨-, rfl⟩ := matchConditions_eq_some_iff.mp matched
  obtain ⟨⟨total, seen⟩, added⟩ := scored
  have marked := addFactors_marks added
  generalize marksOf (countedFactors events earlier
    (matchedEvidence setting events rule.conditions)) = marks at marked ⊢
  have verdict := applies_of_firstDuration test
    (MatchedEvidence.firstDuration_marked setting events rule.conditions marks) events
  rw [← marked] at verdict
  refine ⟨_, ⟨total, seen, added, ?_, verdict⟩, Option.any_eq_true _ _, fun distinct => ?_⟩
  · rw [split, addFactors_append added]
  · rw [Condition.shownSeconds?_of_distinct distinct]
    exact Option.any_eq_true _ _

/-- A condition on a phase; all of them have one signal. -/
def phaseCondition (phase : String) : Condition :=
  { (default : Condition) with signal := "phase", source := .phaseDuration, value := some phase }

/-- A factor for a matched phase. -/
def phaseFactor : ConfidenceFactor := ⟨"phase", "exists", 5, ⟨.matched, "exists"⟩⟩

/-- A factor for a phase of more than a minute. -/
def longFactor : ConfidenceFactor :=
  ⟨"long", "phase_duration > 60", 10, ⟨.durationAbove 60, "phase_duration > 60"⟩⟩

/-- A rule with conditions on two phases. -/
def longPhaseRule : Rule :=
  { (default : Rule) with
    conditions := [phaseCondition "setup", phaseCondition "apps"]
    baseConfidence := 50
    factors := [phaseFactor, longFactor] }

section LongPhase

open Condition (phaseChange phaseSetting phaseSpan shownSeconds? firstSeconds?)

/-- A phase of half a minute, and another one that goes on. -/
def setupThenApps : List Event := [phaseChange "a" "setup" 100, phaseChange "b" "apps" 130]

/-- The half minute of the first phase. -/
def setupSpan : PhaseSpan :=
  phaseSpan phaseSetting "setup" (phaseChange "a" "setup" 100) (some (phaseChange "b" "apps" 130))

/-- The time from the start of the second phase until now. -/
def appsSpan : PhaseSpan := phaseSpan phaseSetting "apps" (phaseChange "b" "apps" 130) none

/-- What the rule has found in the events: the second phase, in the place of the first one. -/
def appsEvidence : MatchedEvidence := [("phase", .phase appsSpan)]

theorem sort_setupThenApps :
    Event.sort (setupThenApps.filter (·.hasType phaseSetting.phaseChangeType)) = setupThenApps := by
  have changes : setupThenApps.filter (·.hasType phaseSetting.phaseChangeType) =
      setupThenApps := rfl
  rw [changes]
  exact List.mergeSort_of_pairwise (by decide +kernel)

theorem evaluate_setup :
    (phaseCondition "setup").evaluate phaseSetting setupThenApps =
      .ok (.matched (.phase setupSpan)) := by
  have evaluates : (phaseCondition "setup").evaluate phaseSetting setupThenApps =
      (phaseCondition "setup").evaluatePhase phaseSetting setupThenApps := rfl
  rw [evaluates, Condition.evaluatePhase, sort_setupThenApps]
  rfl

theorem evaluate_apps :
    (phaseCondition "apps").evaluate phaseSetting setupThenApps =
      .ok (.matched (.phase appsSpan)) := by
  have evaluates : (phaseCondition "apps").evaluate phaseSetting setupThenApps =
      (phaseCondition "apps").evaluatePhase phaseSetting setupThenApps := rfl
  rw [evaluates, Condition.evaluatePhase, sort_setupThenApps]
  rfl

theorem matchConditions_longPhaseRule :
    matchConditions (Condition.evaluator phaseSetting) setupThenApps longPhaseRule.conditions [] =
      .ok (some appsEvidence) := by
  simp only [longPhaseRule, matchConditions, Condition.evaluator, evaluate_setup, evaluate_apps,
    Except.mapError]
  rfl

/-- The first factor is satisfied, and then the second one is tested. -/
theorem addFactors_phaseFactor :
    addFactors setupThenApps [phaseFactor] longPhaseRule.baseConfidence appsEvidence =
      .ok (55, appsEvidence ++ [("factor_phase", .mark)]) := rfl

theorem shownSeconds?_longPhaseRule :
    shownSeconds? phaseSetting setupThenApps longPhaseRule.conditions ["factor_phase"] =
      some (Time.seconds 870000000) := by
  simp only [longPhaseRule, shownSeconds?, Condition.standing?, Condition.lastEvidence?,
    List.findSome?_cons, List.reverse_cons, List.reverse_nil, List.nil_append, List.cons_append,
    Condition.evidence?, evaluate_setup, evaluate_apps]
  rfl

theorem firstSeconds?_longPhaseRule :
    firstSeconds? phaseSetting setupThenApps longPhaseRule.conditions =
      some (Time.seconds 30000000) := by
  simp only [longPhaseRule, firstSeconds?, List.findSome?_cons, Condition.seconds?,
    Condition.evidence?, evaluate_setup]
  rfl

/-- The second phase is compared, which is longer than a minute. -/
theorem apps_phase_compared :
    (matchConditions (Condition.evaluator phaseSetting) setupThenApps longPhaseRule.conditions [] =
        .ok (some appsEvidence) ∧
      longPhaseRule.factors = [phaseFactor] ++ longFactor :: [] ∧
      longFactor.expression.test = .durationAbove 60) ∧
      longPhaseRule.VerdictOn setupThenApps appsEvidence [phaseFactor] longFactor [] true := by
  refine ⟨⟨matchConditions_longPhaseRule, rfl, rfl⟩, ?_⟩
  obtain ⟨verdict, tested, shown, -⟩ := compared_duration_shown phaseSetting longPhaseRule
    setupThenApps appsEvidence matchConditions_longPhaseRule [phaseFactor] [] longFactor rfl
    ⟨_, addFactors_phaseFactor⟩ 60 rfl
  have satisfied : verdict = true :=
    shown.mpr ⟨_, shownSeconds?_longPhaseRule, by decide +kernel⟩
  rwa [satisfied] at tested

/-- Not always is it the first matched condition whose duration is compared. -/
theorem setup_phase_not_compared :
    ¬∀ (setting : DetectionSetting) (rule : Rule) (events : List Event) (m : MatchedEvidence),
      matchConditions (Condition.evaluator setting) events rule.conditions [] = .ok (some m) →
      ∀ (earlier later : List ConfidenceFactor) (factor : ConfidenceFactor),
        rule.factors = earlier ++ factor :: later →
        (∃ result, rule.score m events = .ok result) →
        ∀ n, factor.expression.test = .durationAbove n →
          ∃ verdict, rule.VerdictOn events m earlier factor later verdict ∧
            (verdict = true ↔ ∃ seconds,
              firstSeconds? setting events rule.conditions = some seconds ∧
                seconds.exceeds n = true) := by
  intro always
  have above : longFactor.applies (appsEvidence ++ [("factor_phase", .mark)]) setupThenApps =
      .ok true := by decide +kernel
  have scored : ∃ result, longPhaseRule.score appsEvidence setupThenApps = .ok result := by
    have reached : addFactors setupThenApps longPhaseRule.factors longPhaseRule.baseConfidence
        appsEvidence = addFactors setupThenApps [longFactor] 55
          (appsEvidence ++ [("factor_phase", .mark)]) :=
      addFactors_append addFactors_phaseFactor [longFactor]
    rw [score, reached, addFactors, above]
    exact ⟨_, rfl⟩
  obtain ⟨verdict, ⟨total, seen, added, -, tested⟩, first⟩ := always phaseSetting longPhaseRule
    setupThenApps appsEvidence matchConditions_longPhaseRule [phaseFactor] [] longFactor rfl scored
    60 rfl
  cases addFactors_phaseFactor.symm.trans added
  cases above.symm.trans tested
  obtain ⟨seconds, found, longer⟩ := first.mp rfl
  cases firstSeconds?_longPhaseRule.symm.trans found
  have short : (Time.seconds 30000000).exceeds 60 = false := by decide +kernel
  rw [short] at longer
  cases longer

end LongPhase

end Rule

end EnrollmentDiagnosis
