import EnrollmentDiagnosis.Analysis
import EnrollmentDiagnosis.Proofs.GroundedEvidence
import Mathlib.Tactic.Tauto

set_option autoImplicit false

namespace EnrollmentDiagnosis

namespace MatchedEvidence

theorem mem_signals_put (m : MatchedEvidence) (signal : String) (evidence : Evidence)
    (s : String) : s ∈ (m.put signal evidence).signals ↔ s = signal ∨ s ∈ m.signals := by
  induction m with
  | nil => simp [put, signals]
  | cons entry rest ih =>
    obtain ⟨key, kept⟩ := entry
    by_cases same : key = signal
    · subst same
      simp [put, signals]
    · simp only [signals] at ih
      simp only [put, same, ↓reduceIte, signals, List.map_cons, List.mem_cons, ih]
      tauto

theorem has_eq_true_iff (m : MatchedEvidence) (signal : String) :
    m.has signal = true ↔ signal ∈ m.signals := by
  simp only [has, List.contains_iff_mem]

theorem put_signals_subset {m more : MatchedEvidence} (grown : m.signals ⊆ more.signals)
    (signal : String) (evidence other : Evidence) :
    (m.put signal evidence).signals ⊆ (more.put signal other).signals := by
  intro s member
  rw [mem_signals_put] at member ⊢
  exact member.imp_right (grown ·)

theorem subset_put_signals {m more : MatchedEvidence} (grown : m.signals ⊆ more.signals)
    (signal : String) (evidence : Evidence) : m.signals ⊆ (more.put signal evidence).signals := by
  intro s member
  rw [mem_signals_put]
  exact .inr (grown member)

/-- Sets the evidence of several signals in turn. -/
def putAll (m : MatchedEvidence) (entries : List (String × Evidence)) : MatchedEvidence :=
  entries.foldl (fun m entry => m.put entry.1 entry.2) m

theorem mem_signals_putAll (m : MatchedEvidence) (entries : List (String × Evidence)) (s : String) :
    s ∈ (m.putAll entries).signals ↔ s ∈ m.signals ∨ ∃ entry ∈ entries, entry.1 = s := by
  induction entries generalizing m with
  | nil => simp only [putAll, List.foldl_nil, List.not_mem_nil, false_and, exists_false, or_false]
  | cons entry rest ih =>
    refine (ih (m.put entry.1 entry.2)).trans ?_
    rw [mem_signals_put]
    simp only [List.mem_cons, exists_eq_or_imp]
    tauto

/-- True if no evidence has the form of a value. -/
def Taken (m : MatchedEvidence) : Prop := ∀ entry ∈ m, ∀ v, entry.2 ≠ .recorded v

theorem mem_put {m : MatchedEvidence} {signal : String} {evidence : Evidence}
    {entry : String × Evidence} (member : entry ∈ m.put signal evidence) :
    entry ∈ m ∨ entry.2 = evidence := by
  induction m with
  | nil =>
    rw [List.mem_singleton.mp member]
    exact .inr rfl
  | cons first rest ih =>
    unfold put at member
    split at member
    · rcases List.mem_cons.mp member with rfl | later
      · exact .inr rfl
      · exact .inl (List.mem_cons_of_mem _ later)
    · rcases List.mem_cons.mp member with rfl | later
      · exact .inl List.mem_cons_self
      · exact (ih later).imp_left (List.mem_cons_of_mem _)

theorem Taken.put {m : MatchedEvidence} (taken : m.Taken) (signal : String) {evidence : Evidence}
    (here : ∀ v, evidence ≠ .recorded v) : (m.put signal evidence).Taken := by
  intro entry member v
  rcases mem_put member with before | set
  · exact taken entry before v
  · rw [set]
    exact here v

theorem Taken.putAll {m : MatchedEvidence} (taken : m.Taken) {entries : List (String × Evidence)}
    (others : ∀ entry ∈ entries, ∀ v, entry.2 ≠ .recorded v) : (m.putAll entries).Taken := by
  induction entries generalizing m with
  | nil => exact taken
  | cons entry rest ih =>
    exact ih (taken.put entry.1 (others entry List.mem_cons_self))
      fun other member => others other (List.mem_cons_of_mem _ member)

/-- Only recorded evidence can have a duration that is no float. -/
theorem Taken.firstDuration {m : MatchedEvidence} (taken : m.Taken) :
    ∃ duration, m.firstDuration = .ok duration := by
  unfold MatchedEvidence.firstDuration
  cases found : m.findSome? fun entry => entry.2.duration? with
  | none => exact ⟨none, rfl⟩
  | some duration =>
    obtain ⟨entry, member, timed⟩ := List.exists_of_findSome?_eq_some found
    have here := taken entry member
    unfold Evidence.duration? at timed
    -- Spans always have a duration that is a float.
    split at timed
    · cases timed
      exact ⟨_, rfl⟩
    · cases timed
      exact ⟨_, rfl⟩
    · rename_i recorded
      exact absurd recorded (here _)
    · cases timed

end MatchedEvidence

namespace Condition

/-- The evidence of a condition that is evaluated and matches. -/
def evidence? (setting : DetectionSetting) (events : List Event) (c : Condition) :
    Option Evidence :=
  (c.evaluate setting events).toOption.bind Outcome.evidence?

/-- The evidence of a condition under its signal, if it matches. -/
def matched? (setting : DetectionSetting) (events : List Event) (c : Condition) :
    Option (String × Evidence) :=
  (c.evidence? setting events).map fun evidence => (c.signal, evidence)

variable {setting : DetectionSetting} {events : List Event} {c : Condition}

theorem evidence?_eq_some_iff {evidence : Evidence} :
    c.evidence? setting events = some evidence ↔
      c.evaluate setting events = .ok (.matched evidence) := by
  unfold evidence?
  cases c.evaluate setting events with
  | error fault => simp [Except.toOption]
  | ok outcome =>
    cases outcome with
    | matched kept => simp [Except.toOption, Outcome.evidence?]
    | unmatched reason => simp [Except.toOption, Outcome.evidence?]

theorem evidence?_isSome_iff :
    (c.evidence? setting events).isSome = true ↔ c.Matches setting events := by
  rw [Option.isSome_iff_exists]
  exact exists_congr fun _ => evidence?_eq_some_iff

theorem evidence?_of_ok {outcome : Outcome} (returned : c.evaluate setting events = .ok outcome) :
    c.evidence? setting events = outcome.evidence? := by
  rw [evidence?, returned]
  rfl

theorem evaluator_eq_ok_iff {outcome : Outcome} :
    Condition.evaluator setting c events = .ok outcome ↔
      c.evaluate setting events = .ok outcome := by
  unfold evaluator
  cases c.evaluate setting events with
  | error fault => simp [Except.mapError]
  | ok found => simp [Except.mapError]

theorem evaluator_eq_error_iff {message : String} :
    Condition.evaluator setting c events = .error message ↔
      ∃ fault, c.evaluate setting events = .error fault ∧ fault.message = message := by
  unfold evaluator
  cases c.evaluate setting events with
  | error fault => simp [Except.mapError]
  | ok found => simp [Except.mapError]

theorem hindered_of_error {fault : DetectionFault}
    (failed : c.evaluate setting events = .error fault) : c.Hindered setting events fault :=
  (answers_evaluate setting c events).accounted_of_error failed

theorem matched?_of_evidence {evidence : Evidence}
    (found : c.evidence? setting events = some evidence) :
    c.matched? setting events = some (c.signal, evidence) := by
  rw [matched?, found, Option.map_some]

theorem matched?_of_unmatched (unmatched : c.evidence? setting events = none) :
    c.matched? setting events = none := by
  rw [matched?, unmatched, Option.map_none]

theorem taken_of_matched? {entry : String × Evidence}
    (found : c.matched? setting events = some entry) (v : Value) : entry.2 ≠ .recorded v := by
  obtain ⟨evidence, matched, rfl⟩ := Option.map_eq_some_iff.mp found
  have returned := evidence?_eq_some_iff.mp matched
  exact (grounded_of_detect (detect_of_evaluate returned)).not_recorded v

end Condition

namespace Rule

/-- The evidence of the conditions that match, by signal; for a signal that is matched again the
later evidence. -/
def matchedEvidence (setting : DetectionSetting) (events : List Event)
    (conditions : List Condition) : MatchedEvidence :=
  MatchedEvidence.putAll [] (conditions.filterMap (Condition.matched? setting events))

variable {setting : DetectionSetting} {events : List Event} {conditions : List Condition}

theorem matchedEvidence_taken (setting : DetectionSetting) (events : List Event)
    (conditions : List Condition) : (matchedEvidence setting events conditions).Taken := by
  refine MatchedEvidence.Taken.putAll (fun entry member => absurd member List.not_mem_nil)
    fun entry member v => ?_
  obtain ⟨c, -, found⟩ := List.mem_filterMap.mp member
  exact Condition.taken_of_matched? found v

theorem mem_signals_matchedEvidence (setting : DetectionSetting) (events : List Event)
    (conditions : List Condition) (signal : String) :
    signal ∈ (matchedEvidence setting events conditions).signals ↔
      ∃ c ∈ conditions, c.Matches setting events ∧ c.signal = signal := by
  rw [matchedEvidence, MatchedEvidence.mem_signals_putAll]
  constructor
  · rintro (before | ⟨entry, member, rfl⟩)
    · cases before
    · obtain ⟨c, reached, found⟩ := List.mem_filterMap.mp member
      obtain ⟨evidence, matched, rfl⟩ := Option.map_eq_some_iff.mp found
      exact ⟨c, reached, ⟨evidence, Condition.evidence?_eq_some_iff.mp matched⟩, rfl⟩
  · rintro ⟨c, reached, ⟨evidence, returned⟩, rfl⟩
    have found := Condition.evidence?_eq_some_iff.mpr returned
    exact .inr ⟨(c.signal, evidence),
      List.mem_filterMap.mpr ⟨c, reached, Condition.matched?_of_evidence found⟩, rfl⟩

/-- All conditions are evaluated, and the required ones match. -/
def Met (setting : DetectionSetting) (events : List Event) (conditions : List Condition) : Prop :=
  ∀ c ∈ conditions, (∃ outcome, c.evaluate setting events = .ok outcome) ∧
    (c.required = true → c.Matches setting events)

/-- The loop over conditions ends in one of three ways: a condition cannot be evaluated, a required
one does not match, or all are met and the evidence is gathered. -/
theorem matchConditions_cases (setting : DetectionSetting) (events : List Event)
    (conditions : List Condition) (m : MatchedEvidence) :
    (∃ c ∈ conditions, ∃ fault, c.evaluate setting events = .error fault ∧
      matchConditions (Condition.evaluator setting) events conditions m = .error fault.message) ∨
    (∃ c ∈ conditions, c.required = true ∧ (∃ outcome, c.evaluate setting events = .ok outcome) ∧
      ¬c.Matches setting events ∧
      matchConditions (Condition.evaluator setting) events conditions m = .ok none) ∨
    Met setting events conditions ∧
      matchConditions (Condition.evaluator setting) events conditions m =
        .ok (some (m.putAll (conditions.filterMap (Condition.matched? setting events)))) := by
  induction conditions generalizing m with
  | nil => exact .inr (.inr ⟨List.forall_mem_nil _, rfl⟩)
  | cons c rest ih =>
    unfold matchConditions
    cases returned : c.evaluate setting events with
    | error fault =>
      have failed : Condition.evaluator setting c events = .error fault.message :=
        Condition.evaluator_eq_error_iff.mpr ⟨fault, returned, rfl⟩
      exact .inl ⟨c, List.mem_cons_self, fault, returned, by rw [failed]⟩
    | ok outcome =>
      rw [Condition.evaluator_eq_ok_iff.mpr returned]
      dsimp only
      rw [← Condition.evidence?_of_ok returned]
      cases found : c.evidence? setting events with
      | some evidence =>
        have here : c.Matches setting events :=
          ⟨evidence, Condition.evidence?_eq_some_iff.mp found⟩
        rw [List.filterMap_cons_some (Condition.matched?_of_evidence found)]
        rcases ih (m.put c.signal evidence) with
          ⟨other, later, failed⟩ | ⟨other, later, unmet⟩ | ⟨others, gathered⟩
        · exact .inl ⟨other, List.mem_cons_of_mem c later, failed⟩
        · exact .inr (.inl ⟨other, List.mem_cons_of_mem c later, unmet⟩)
        · exact .inr (.inr ⟨List.forall_mem_cons.mpr ⟨⟨⟨outcome, returned⟩, fun _ => here⟩, others⟩,
            gathered⟩)
      | none =>
        have unmatched : ¬c.Matches setting events := by
          rw [← Condition.evidence?_isSome_iff, found]
          exact Bool.false_ne_true
        rw [List.filterMap_cons_none (Condition.matched?_of_unmatched found)]
        by_cases required : c.required = true
        · exact .inr (.inl ⟨c, List.mem_cons_self, required, ⟨outcome, returned⟩, unmatched,
            if_pos required⟩)
        · dsimp only
          rw [if_neg required]
          rcases ih m with ⟨other, later, failed⟩ | ⟨other, later, unmet⟩ | ⟨others, gathered⟩
          · exact .inl ⟨other, List.mem_cons_of_mem c later, failed⟩
          · exact .inr (.inl ⟨other, List.mem_cons_of_mem c later, unmet⟩)
          · exact .inr (.inr ⟨List.forall_mem_cons.mpr
              ⟨⟨⟨outcome, returned⟩, fun is => absurd is required⟩, others⟩, gathered⟩)

/-- Where the loop over conditions finds evidence, all are met and it is that of those that match.
-/
theorem matchConditions_eq_some_iff {m : MatchedEvidence} :
    matchConditions (Condition.evaluator setting) events conditions [] = .ok (some m) ↔
      Met setting events conditions ∧ m = matchedEvidence setting events conditions := by
  constructor
  · intro found
    rcases matchConditions_cases setting events conditions [] with
      ⟨c, -, fault, -, failed⟩ | ⟨c, -, -, -, -, unmet⟩ | ⟨met, gathered⟩
    · cases found.symm.trans failed
    · cases found.symm.trans unmet
    · cases found.symm.trans gathered
      exact ⟨met, rfl⟩
  · rintro ⟨met, rfl⟩
    rcases matchConditions_cases setting events conditions [] with
      ⟨c, member, fault, failed, -⟩ | ⟨c, member, required, -, unmatched, -⟩ | ⟨-, gathered⟩
    · obtain ⟨⟨outcome, returned⟩, -⟩ := met c member
      cases returned.symm.trans failed
    · exact absurd ((met c member).2 required) unmatched
    · exact gathered

end Rule

end EnrollmentDiagnosis
