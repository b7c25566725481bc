import EnrollmentDiagnosis.Proofs.ConditionOrder

set_option autoImplicit false

namespace EnrollmentDiagnosis

/-- True for a signal that does not have the form of a mark. -/
def IsPlain (signal : String) : Prop := ∀ s, signal ≠ factorMark s

theorem recordedDuration_eq_error_iff {v : Value} {e : ScoreError} :
    recordedDuration v = .error e ↔
      e = .durationTooLarge ∧ ∃ n, v = .int n ∧ (Number.Binary64.ofInt n).isFinite = false := by
  cases v with
  | int n =>
    cases finite : (Number.Binary64.ofInt n).isFinite with
    | true => simp [recordedDuration, finite]
    | false =>
      simp only [recordedDuration, finite, Bool.false_eq_true, ↓reduceIte, Except.error.injEq,
        Value.int.injEq, exists_eq_left', and_true]
      exact eq_comm
  | _ => simp [recordedDuration]

/-- Only recorded evidence can have a duration that is no float. -/
theorem Evidence.duration?_eq_error_iff {evidence : Evidence} {e : ScoreError} :
    evidence.duration? = some (.error e) ↔
      e = .durationTooLarge ∧ ∃ entries n, evidence = .recorded (.map entries) ∧
        Value.find? entries "durationSeconds" = some (.int n) ∧
        (Number.Binary64.ofInt n).isFinite = false := by
  cases evidence with
  | recorded v =>
    cases v with
    | map entries =>
      cases found : Value.find? entries "durationSeconds" with
      | none => simp [duration?, found]
      | some duration => simp [duration?, found, recordedDuration_eq_error_iff]
    | _ => simp [duration?]
  | _ => simp [duration?]

namespace MatchedEvidence

/-- The first duration in evidence is an integer beyond all floats. -/
def Overlong (m : MatchedEvidence) : Prop :=
  ∃ before signal entries n after, m = before ++ (signal, .recorded (.map entries)) :: after ∧
    (∀ entry ∈ before, entry.2.duration? = none) ∧
    Value.find? entries "durationSeconds" = some (.int n) ∧
    (Number.Binary64.ofInt n).isFinite = false

variable {m seen : MatchedEvidence}

theorem firstDuration_eq_error_iff {e : ScoreError} :
    m.firstDuration = .error e ↔ e = .durationTooLarge ∧ m.Overlong := by
  have first : m.firstDuration = .error e ↔
      m.findSome? (fun entry => entry.2.duration?) = some (.error e) := by
    unfold firstDuration
    cases m.findSome? fun entry => entry.2.duration? <;> simp
  rw [first, List.findSome?_eq_some_iff]
  constructor
  · rintro ⟨before, ⟨signal, evidence⟩, after, split, timed, untimed⟩
    obtain ⟨rfl, entries, n, rfl, found, infinite⟩ := Evidence.duration?_eq_error_iff.mp timed
    exact ⟨rfl, before, signal, entries, n, after, split, untimed, found, infinite⟩
  · rintro ⟨rfl, before, signal, entries, n, after, split, untimed, found, infinite⟩
    exact ⟨before, _, after, split,
      Evidence.duration?_eq_error_iff.mpr ⟨rfl, entries, n, rfl, found, infinite⟩, untimed⟩

/-- Evidence to which marks were added that no factor with a plain signal can tell. -/
structure UpToMarks (m seen : MatchedEvidence) : Prop where
  signals : ∀ signal, IsPlain signal → (signal ∈ seen.signals ↔ signal ∈ m.signals)
  firstDuration : seen.firstDuration = m.firstDuration
  untimed : seen.MarksUntimed

theorem UpToMarks.refl (plain : ∀ signal ∈ m.signals, IsPlain signal) : m.UpToMarks m where
  signals _ _ := Iff.rfl
  firstDuration := rfl
  untimed entry member signal marked :=
    absurd marked (plain entry.1 (List.mem_map_of_mem member) signal)

theorem UpToMarks.mark (up : m.UpToMarks seen) (marked : String) :
    m.UpToMarks (seen.put (factorMark marked) .mark) where
  signals signal plain := by
    rw [mem_signals_put, up.signals signal plain, or_iff_right (plain marked)]
  firstDuration := (up.untimed.firstDuration_put marked).trans up.firstDuration
  untimed := up.untimed.put _

end MatchedEvidence

namespace ConfidenceFactor

variable {factor : ConfidenceFactor} {m seen : MatchedEvidence} {events : List Event}

/-- True if evidence and events satisfy a factor. -/
def accepts (factor : ConfidenceFactor) (m : MatchedEvidence) (events : List Event) : Bool :=
  decide (factor.applies m events = .ok true)

theorem accepts_of_applies {verdict : Bool} (applies : factor.applies m events = .ok verdict) :
    factor.accepts m events = verdict := by
  rw [accepts, applies]
  cases verdict <;> rfl

theorem applies_upToMarks (up : m.UpToMarks seen) (plain : IsPlain factor.signal) :
    factor.applies seen events = factor.applies m events := by
  have has : seen.has factor.signal = m.has factor.signal := by
    rw [Bool.eq_iff_iff, MatchedEvidence.has_eq_true_iff, MatchedEvidence.has_eq_true_iff,
      up.signals _ plain]
  unfold applies
  rw [has, up.firstDuration]

/-- A factor has no verdict only if it compares a duration beyond all floats. -/
theorem applies_eq_error_iff {e : ScoreError} :
    factor.applies m events = .error e ↔
      e = .durationTooLarge ∧ m.Overlong ∧ ¬factor.IsUntimed := by
  unfold applies IsUntimed
  cases test : factor.expression.test with
  | durationAbove n =>
    have timed : ¬∀ k, FactorTest.durationAbove n ≠ .durationAbove k := fun untimed => untimed n rfl
    have overlong : m.firstDuration = .error e ↔ e = .durationTooLarge ∧ m.Overlong :=
      MatchedEvidence.firstDuration_eq_error_iff
    rw [and_iff_left timed, ← overlong]
    cases m.firstDuration <;> simp [Except.map]
  | matched | countAtLeast | unsupported => simp

/-- What a factor can end scoring with: it compares the first duration in evidence, an integer
beyond all floats, or it is satisfied and has a weight with too many digits to be written. -/
inductive Stops (factor : ConfidenceFactor) (m : MatchedEvidence) (events : List Event) :
    ScoreError → Prop
  | overlong (timed : ¬factor.IsUntimed) (overlong : m.Overlong) :
      Stops factor m events .durationTooLarge
  | unwritable (accepted : factor.accepts m events = true)
      (unwritable : factor.isWritable = false) : Stops factor m events .weightUnwritable

theorem not_stops {verdict : Bool} (applies : factor.applies m events = .ok verdict)
    (written : verdict = true → factor.isWritable = true) (e : ScoreError) :
    ¬factor.Stops m events e := by
  intro stops
  cases stops with
  | overlong timed overlong =>
    have failed : factor.applies m events = .error .durationTooLarge :=
      applies_eq_error_iff.mpr ⟨rfl, overlong, timed⟩
    cases applies.symm.trans failed
  | unwritable accepted unwritable =>
    rw [accepts_of_applies applies] at accepted
    rw [written accepted] at unwritable
    cases unwritable

end ConfidenceFactor

namespace Rule

/-- The weights of the factors that the evidence satisfies, each taken by itself. -/
def acceptedWeight (events : List Event) (factors : List ConfidenceFactor) (m : MatchedEvidence) :
    Int :=
  ((factors.filter (·.accepts m events)).map (·.weight)).sum

section Factors

variable {events : List Event} {factors : List ConfidenceFactor} {m seen : MatchedEvidence}

theorem acceptedWeight_cons {factor : ConfidenceFactor} {verdict : Bool}
    (applies : factor.applies m events = .ok verdict) (rest : List ConfidenceFactor) :
    acceptedWeight events (factor :: rest) m =
      (if verdict then factor.weight else 0) + acceptedWeight events rest m := by
  have accepted := ConfidenceFactor.accepts_of_applies applies
  cases verdict <;> simp [acceptedWeight, accepted]

theorem acceptedWeight_perm {others : List ConfidenceFactor} (perm : others.Perm factors) :
    acceptedWeight events others m = acceptedWeight events factors m :=
  ((perm.filter _).map _).sum_eq

/-- The loop over factors ends at one that stops it, or each of them has its own verdict and the
accepted ones are added up: the marks of those before hide none from the next one and show it none.
-/
theorem addFactors_cases (up : m.UpToMarks seen)
    (plain : ∀ factor ∈ factors, IsPlain factor.signal) (confidence : Int) :
    (∃ factor ∈ factors, ∃ e, factor.Stops m events e ∧
      addFactors events factors confidence seen = .error e) ∨
    (∀ factor ∈ factors, ∀ e, ¬factor.Stops m events e) ∧
      ∃ marked, addFactors events factors confidence seen =
        .ok (confidence + acceptedWeight events factors m, marked) := by
  induction factors generalizing seen confidence with
  | nil => exact .inr ⟨List.forall_mem_nil _, seen, by simp [addFactors, acceptedWeight]⟩
  | cons factor rest ih =>
    obtain ⟨here, plainRest⟩ := List.forall_mem_cons.mp plain
    have applies : factor.applies seen events = factor.applies m events :=
      ConfidenceFactor.applies_upToMarks up here
    unfold addFactors
    rw [applies]
    cases alone : factor.applies m events with
    | error e =>
      obtain ⟨rfl, overlong, timed⟩ := ConfidenceFactor.applies_eq_error_iff.mp alone
      exact .inl ⟨factor, List.mem_cons_self, _, .overlong timed overlong, rfl⟩
    | ok verdict =>
      rw [acceptedWeight_cons alone]
      cases verdict with
      | false =>
        have passes := ConfidenceFactor.not_stops alone (by simp)
        rcases ih up plainRest confidence with ⟨other, later, stopped⟩ | ⟨others, marked, added⟩
        · exact .inl ⟨other, List.mem_cons_of_mem _ later, stopped⟩
        · refine .inr ⟨List.forall_mem_cons.mpr ⟨passes, others⟩, marked, ?_⟩
          rw [if_neg Bool.false_ne_true, Int.zero_add]
          exact added
      | true =>
        dsimp only
        by_cases written : factor.isWritable = true
        · have passes := ConfidenceFactor.not_stops alone fun _ => written
          rw [if_pos (show Value.integerIsWritable factor.weight = true from written)]
          rcases ih (up.mark factor.signal) plainRest (confidence + factor.weight) with
            ⟨other, later, stopped⟩ | ⟨others, marked, added⟩
          · exact .inl ⟨other, List.mem_cons_of_mem _ later, stopped⟩
          · refine .inr ⟨List.forall_mem_cons.mpr ⟨passes, others⟩, marked, ?_⟩
            rw [added, if_pos rfl, Int.add_assoc]
        · have accepted := ConfidenceFactor.accepts_of_applies alone
          refine .inl ⟨factor, List.mem_cons_self, _,
            .unwritable accepted (by simpa using written), ?_⟩
          exact if_neg written

end Factors

/-- Scoring plain evidence ends at a factor that stops it, or comes to the base with the weights of
the accepted factors, clamped once. -/
theorem score_cases (rule : Rule) (events : List Event) {m : MatchedEvidence}
    (plain : ∀ signal ∈ m.signals, IsPlain signal)
    (plainFactors : ∀ factor ∈ rule.factors, IsPlain factor.signal) :
    (∃ factor ∈ rule.factors, ∃ e, factor.Stops m events e ∧ rule.score m events = .error e) ∨
    (∀ factor ∈ rule.factors, ∀ e, ¬factor.Stops m events e) ∧
      ∃ marked, rule.score m events =
        .ok (clampConfidence (rule.baseConfidence + acceptedWeight events rule.factors m),
          marked) := by
  unfold score
  rcases addFactors_cases (.refl plain) plainFactors rule.baseConfidence with
    ⟨factor, member, e, stops, ended⟩ | ⟨passes, marked, added⟩
  · exact .inl ⟨factor, member, e, stops, by rw [ended]; rfl⟩
  · exact .inr ⟨passes, marked, by rw [added]; rfl⟩

/-- In any order of the factors there is the same score, or none. -/
theorem score_reordered {rule : Rule} (events : List Event) {m : MatchedEvidence}
    (plain : ∀ signal ∈ m.signals, IsPlain signal)
    (plainFactors : ∀ factor ∈ rule.factors, IsPlain factor.signal)
    {factors : List ConfidenceFactor} (perm : factors.Perm rule.factors) :
    ({ rule with factors := factors }.score m events).toOption.map Prod.fst =
      (rule.score m events).toOption.map Prod.fst := by
  have plainOthers : ∀ factor ∈ factors, IsPlain factor.signal := by
    intro factor member
    exact plainFactors factor (perm.subset member)
  have others := score_cases { rule with factors := factors } events plain plainOthers
  rcases score_cases rule events plain plainFactors with
    ⟨factor, member, e, stops, ended⟩ | ⟨passes, marked, total⟩
  · rcases others with ⟨-, -, other, -, otherEnded⟩ | ⟨otherPasses, -⟩
    · rw [ended, otherEnded]
      rfl
    · exact absurd stops (otherPasses factor (perm.symm.subset member) e)
  · rcases others with ⟨factor, member, e, stops, -⟩ | ⟨-, otherMarked, otherTotal⟩
    · exact absurd stops (passes factor (perm.subset member) e)
    · rw [total, otherTotal, acceptedWeight_perm perm]
      rfl

/-- The score of plain evidence for a rule with plain factors. Unless a factor stops it, it is the
base with the weights of the factors that the evidence satisfies each by itself, clamped once; if
one does, there is no score. So the order of the factors is irrelevant, whatever the signs of their
weights. -/
theorem score_of_plain_evidence (rule : Rule) (events : List Event) (m : MatchedEvidence)
    (plain : ∀ signal ∈ m.signals, IsPlain signal)
    (plainFactors : ∀ factor ∈ rule.factors, IsPlain factor.signal) :
    ((∀ factor ∈ rule.factors, ∀ e, ¬factor.Stops m events e) → ∃ marked, rule.score m events =
      .ok (clampConfidence (rule.baseConfidence + acceptedWeight events rule.factors m),
        marked)) ∧
    ((∃ factor ∈ rule.factors, ∃ e, factor.Stops m events e) →
      ∃ factor ∈ rule.factors, ∃ e, factor.Stops m events e ∧ rule.score m events = .error e) ∧
    ∀ factors : List ConfidenceFactor, factors.Perm rule.factors →
      ({ rule with factors := factors }.score m events).toOption.map Prod.fst =
        (rule.score m events).toOption.map Prod.fst := by
  refine ⟨?_, ?_, ?_⟩
  · intro passes
    rcases score_cases rule events plain plainFactors with
      ⟨factor, member, e, stops, -⟩ | ⟨-, total⟩
    · exact absurd stops (passes factor member e)
    · exact total
  · rintro ⟨factor, member, e, stops⟩
    rcases score_cases rule events plain plainFactors with stopped | ⟨passes, -⟩
    · exact stopped
    · exact absurd stops (passes factor member e)
  · intro factors perm
    exact score_reordered events plain plainFactors perm

/-- A rule with a factor for repeated boots and one against long phases. -/
def rebootRule : Rule :=
  { (default : Rule) with
    baseConfidence := 50
    factors := [
      ⟨"boot", "count >= 2", 80, ⟨.countAtLeast 2, "count >= 2"⟩⟩,
      ⟨"long", "phase_duration > 60", -90, ⟨.durationAbove 60, "phase_duration > 60"⟩⟩] }

def twoBoots : List Event :=
  [{ (default : Event) with id := "a", type := "boot" },
    { (default : Event) with id := "b", type := "Boot" }]

/-- Evidence of a phase that lasted some whole number of seconds. -/
def phaseOf (seconds : Int) : MatchedEvidence :=
  [("phase", .recorded (.map [(.text "durationSeconds", .int seconds)]))]

theorem isPlain_of_head {signal : String} (other : signal.toList.head? ≠ some 'f') :
    IsPlain signal := by
  rintro s rfl
  refine other ?_
  rw [factorMark, String.toList_append]
  rfl

theorem phaseOf_plain (seconds : Int) : ∀ signal ∈ (phaseOf seconds).signals, IsPlain signal := by
  intro signal member
  have only : signal = "phase" := List.mem_singleton.mp member
  exact isPlain_of_head (only ▸ by decide)

theorem rebootRule_plain : ∀ factor ∈ rebootRule.factors, IsPlain factor.signal := by
  intro factor member
  refine isPlain_of_head ?_
  revert factor
  decide

theorem rebootRule_passes :
    ∀ factor ∈ rebootRule.factors, ∀ e, ¬factor.Stops (phaseOf 90) twoBoots e := by
  have timed : ¬(phaseOf 90).Overlong := by
    have first : (phaseOf 90).firstDuration = .ok (some (.ofInt 90)) := by decide +kernel
    intro overlong
    have failed := MatchedEvidence.firstDuration_eq_error_iff.mpr ⟨rfl, overlong⟩
    cases first.symm.trans failed
  have written : ∀ factor ∈ rebootRule.factors, factor.isWritable = true := by decide +kernel
  intro factor member e stops
  cases stops with
  | overlong _ overlong => exact timed overlong
  | unwritable _ unwritable =>
    rw [written factor member] at unwritable
    cases unwritable

/-- The two factors are added before the score is clamped, so that it is 40 and not 10. -/
theorem reboots_scored :
    ((∀ signal ∈ (phaseOf 90).signals, IsPlain signal) ∧
      (∀ factor ∈ rebootRule.factors, IsPlain factor.signal) ∧
      acceptedWeight twoBoots rebootRule.factors (phaseOf 90) = -10) ∧
    (∃ marked, rebootRule.score (phaseOf 90) twoBoots = .ok (40, marked)) ∧
    ({ rebootRule with factors := rebootRule.factors.reverse }.score (phaseOf 90)
      twoBoots).toOption.map Prod.fst =
        (rebootRule.score (phaseOf 90) twoBoots).toOption.map Prod.fst := by
  have weight : acceptedWeight twoBoots rebootRule.factors (phaseOf 90) = -10 := by decide +kernel
  obtain ⟨scores, -, sameForAll⟩ := score_of_plain_evidence rebootRule twoBoots (phaseOf 90)
    (phaseOf_plain 90) rebootRule_plain
  refine ⟨⟨phaseOf_plain 90, rebootRule_plain, weight⟩, ?_, sameForAll _ (List.reverse_perm _)⟩
  obtain ⟨marked, scored⟩ := scores rebootRule_passes
  rw [weight] at scored
  exact ⟨marked, scored⟩

/-- Some plain evidence has no score. -/
theorem overlong_phase_unscored :
    ¬∀ (rule : Rule) (events : List Event) (m : MatchedEvidence),
      (∀ signal ∈ m.signals, IsPlain signal) →
      (∀ factor ∈ rule.factors, IsPlain factor.signal) →
      ∃ marked, rule.score m events =
        .ok (clampConfidence (rule.baseConfidence + acceptedWeight events rule.factors m),
          marked) := by
  intro always
  obtain ⟨marked, scored⟩ := always rebootRule [] (phaseOf (10 ^ 309)) (phaseOf_plain _)
    rebootRule_plain
  have unscored : (rebootRule.score (phaseOf (10 ^ 309)) []).toOption.isSome = false := by
    decide +kernel
  rw [scored] at unscored
  cases unscored

end Rule

end EnrollmentDiagnosis
