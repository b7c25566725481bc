import EnrollmentDiagnosis.Proofs.RuleVerdicts
import Mathlib.Data.List.Nodup

set_option autoImplicit false

namespace EnrollmentDiagnosis

/-- A list of one length stands in front of others exactly if it is the one that does. -/
theorem prefix_append_iff_eq {α : Type} {l kept : List α} (same : l.length = kept.length)
    (added : List α) : l <+: kept ++ added ↔ l = kept := by
  constructor
  · rintro ⟨rest, whole⟩
    exact (List.append_inj whole same).1
  · rintro rfl
    exact List.prefix_append l added

namespace MatchedEvidence

/-- The values that stand for evidence, by signal. -/
def values (m : MatchedEvidence) : List (String × Value) :=
  m.map fun entry => (entry.1, entry.2.toValue)

/-- An entry after marks are set: under one of them it is the mark, otherwise it is as it was. -/
def remarked (marks : List String) (entry : String × Evidence) : String × Evidence :=
  if entry.1 ∈ marks then (entry.1, .mark) else entry

/-- Sets some marks in turn. -/
def setMarks (m : MatchedEvidence) (marks : List String) : MatchedEvidence :=
  m.putAll (marks.map fun signal => (signal, .mark))

variable {m : MatchedEvidence} {marks : List String} {signal : String}

theorem remarked_of_mem {entry : String × Evidence} (marked : entry.1 ∈ marks) :
    remarked marks entry = (entry.1, .mark) := if_pos marked

theorem remarked_of_notMem {entry : String × Evidence} (unmarked : entry.1 ∉ marks) :
    remarked marks entry = entry := if_neg unmarked

@[simp] theorem remarked_fst (entry : String × Evidence) : (remarked marks entry).1 = entry.1 := by
  unfold remarked
  split <;> rfl

@[simp] theorem signals_map_remarked :
    signals (m.map (remarked marks)) = m.signals := by
  unfold signals
  rw [List.map_map]
  exact List.map_congr_left fun entry _ => remarked_fst entry

/-- A mark stays what it is. -/
theorem remarked_mark (signal : String) : remarked marks (signal, .mark) = (signal, .mark) := by
  unfold remarked
  split <;> rfl

theorem remarked_cons_of_ne {entry : String × Evidence} (other : entry.1 ≠ signal) :
    remarked (signal :: marks) entry = remarked marks entry := by
  simp only [remarked, List.mem_cons, other, false_or]

theorem remarked_cons (entry : String × Evidence) :
    remarked marks (remarked [signal] entry) = remarked (signal :: marks) entry := by
  by_cases here : entry.1 = signal
  · have first : entry.1 ∈ [signal] := List.mem_singleton.mpr here
    have whole : entry.1 ∈ signal :: marks := here ▸ List.mem_cons_self
    rw [remarked_of_mem first, remarked_of_mem whole, remarked_mark]
  · rw [remarked_of_notMem (mt List.mem_singleton.mp here), remarked_cons_of_ne here]

/-- Marks under other signals change nothing. -/
theorem map_remarked_of_fresh (fresh : ∀ entry ∈ m, entry.1 ∉ marks) :
    m.map (remarked marks) = m := by
  calc m.map (remarked marks) = m.map id :=
        List.map_congr_left fun entry member => remarked_of_notMem (fresh entry member)
    _ = m := List.map_id m

theorem put_of_fresh (fresh : signal ∉ m.signals) (evidence : Evidence) :
    m.put signal evidence = m ++ [(signal, evidence)] := by
  induction m with
  | nil => rfl
  | cons entry rest ih =>
    obtain ⟨other, later⟩ := not_or.mp (mt List.mem_cons.mpr fresh)
    rw [put, if_neg (Ne.symm other), ih later]
    rfl

/-- Setting the mark of a signal that is there changes the entry under it and no other. -/
theorem put_of_taken (keyed : m.signals.Nodup) (taken : signal ∈ m.signals) :
    m.put signal .mark = m.map (remarked [signal]) := by
  induction m with
  | nil => cases taken
  | cons entry rest ih =>
    obtain ⟨alone, keyedRest⟩ := List.nodup_cons.mp keyed
    by_cases here : entry.1 = signal
    · subst here
      have others : ∀ other ∈ rest, other.1 ∉ [entry.1] := fun other member same =>
        alone (List.mem_singleton.mp same ▸ List.mem_map_of_mem member)
      rw [put, if_pos rfl, List.map_cons, remarked_of_mem List.mem_cons_self,
        map_remarked_of_fresh others]
    · have first : entry.1 ∉ [signal] := mt List.mem_singleton.mp here
      have later : signal ∈ signals rest := (List.mem_cons.mp taken).resolve_left (Ne.symm here)
      rw [put, if_neg here, List.map_cons, remarked_of_notMem first, ih keyedRest later]

theorem put_keyed (keyed : m.signals.Nodup) (signal : String) (evidence : Evidence) :
    (m.put signal evidence).signals.Nodup := by
  induction m with
  | nil => exact List.nodup_singleton signal
  | cons entry rest ih =>
    obtain ⟨alone, keyedRest⟩ := List.nodup_cons.mp keyed
    unfold put
    split
    · rename_i here
      exact List.nodup_cons.mpr ⟨here ▸ alone, keyedRest⟩
    · rename_i other
      refine List.nodup_cons.mpr ⟨fun later => ?_, ih keyedRest⟩
      rcases (mem_signals_put rest signal evidence entry.1).mp later with same | before
      · exact other same
      · exact alone before

theorem nil_keyed : (signals []).Nodup := List.nodup_nil

theorem putAll_keyed (keyed : m.signals.Nodup) (entries : List (String × Evidence)) :
    (m.putAll entries).signals.Nodup := by
  induction entries generalizing m with
  | nil => exact keyed
  | cons entry rest ih => exact ih (put_keyed keyed entry.1 entry.2)

/-- Marks are set in place where their signals are there, and otherwise behind all evidence. -/
theorem setMarks_eq (keyed : m.signals.Nodup) (marks : List String) :
    ∃ added : MatchedEvidence, m.setMarks marks = m.map (remarked marks) ++ added ∧
      ∀ entry ∈ added, entry.1 ∈ marks ∧ entry.1 ∉ m.signals ∧ entry.2 = .mark := by
  induction marks generalizing m with
  | nil =>
    refine ⟨[], ?_, List.forall_mem_nil _⟩
    rw [map_remarked_of_fresh fun _ _ => List.not_mem_nil]
    exact (List.append_nil m).symm
  | cons signal rest ih =>
    have step : m.setMarks (signal :: rest) = setMarks (m.put signal .mark) rest := rfl
    have keyedNext := put_keyed keyed signal .mark
    by_cases taken : signal ∈ m.signals
    · rw [put_of_taken keyed taken] at step keyedNext
      obtain ⟨added, split, fresh⟩ := ih keyedNext
      refine ⟨added, ?_, fun entry member => ?_⟩
      · rw [step, split, List.map_map]
        congr 1
        exact List.map_congr_left fun entry _ => remarked_cons entry
      · obtain ⟨marked, new, mark⟩ := fresh entry member
        exact ⟨List.mem_cons_of_mem _ marked, by rwa [signals_map_remarked] at new, mark⟩
    · rw [put_of_fresh taken] at step keyedNext
      obtain ⟨added, split, fresh⟩ := ih keyedNext
      have grown : signals (m ++ [(signal, .mark)]) = m.signals ++ [signal] := List.map_append
      have others : m.map (remarked rest) = m.map (remarked (signal :: rest)) := by
        refine List.map_congr_left fun entry member => (remarked_cons_of_ne ?_).symm
        exact fun same => taken (same ▸ List.mem_map_of_mem member)
      refine ⟨(signal, .mark) :: added, ?_, fun entry member => ?_⟩
      · rw [step, split, List.map_append, List.map_singleton, remarked_mark, others,
          List.append_assoc]
        rfl
      · rcases List.mem_cons.mp member with rfl | later
        · exact ⟨List.mem_cons_self, taken, rfl⟩
        · obtain ⟨marked, new, set⟩ := fresh entry later
          rw [grown] at new
          exact ⟨List.mem_cons_of_mem _ marked, fun old => new (List.mem_append_left _ old), set⟩

/-- Evidence to which marks were added. All evidence keeps its signal and its place, and it keeps
its value unless its signal is a mark; what is new are marks, behind it. So nothing is replaced
exactly if no evidence but a mark stands under a mark. -/
structure Marked (m : MatchedEvidence) (marks : List String) (marked : MatchedEvidence) :
    Prop where
  split : ∃ added : MatchedEvidence, marked = m.map (remarked marks) ++ added ∧
    ∀ entry ∈ added, entry.1 ∈ marks ∧ entry.1 ∉ m.signals ∧ entry.2 = .mark
  each : ∀ signal ∈ marks, (signal, Evidence.mark) ∈ marked
  keyed : marked.signals.Nodup
  frame : m.values <+: marked.values ↔
    ∀ entry ∈ m, entry.1 ∈ marks → entry.2.toValue = Evidence.mark.toValue

theorem mem_setMarks (keyed : m.signals.Nodup) (set : signal ∈ marks) :
    (signal, Evidence.mark) ∈ m.setMarks marks := by
  obtain ⟨added, split, fresh⟩ := setMarks_eq keyed marks
  have named : signal ∈ (m.setMarks marks).signals := by
    rw [setMarks, mem_signals_putAll]
    exact .inr ⟨(signal, .mark), List.mem_map_of_mem set, rfl⟩
  obtain ⟨entry, member, rfl⟩ := List.mem_map.mp named
  rw [split] at member ⊢
  rcases List.mem_append.mp member with old | new
  · obtain ⟨before, there, rfl⟩ := List.mem_map.mp old
    rw [remarked_fst] at set ⊢
    rw [← remarked_of_mem set]
    exact List.mem_append_left _ (List.mem_map_of_mem there)
  · obtain ⟨-, -, mark⟩ := fresh entry new
    rw [← mark]
    exact List.mem_append_right _ new

theorem setMarks_keyed (keyed : m.signals.Nodup) (marks : List String) :
    (m.setMarks marks).signals.Nodup := putAll_keyed keyed _

theorem values_prefix_setMarks_iff (keyed : m.signals.Nodup) :
    m.values <+: (m.setMarks marks).values ↔
      ∀ entry ∈ m, entry.1 ∈ marks → entry.2.toValue = Evidence.mark.toValue := by
  obtain ⟨added, split, -⟩ := setMarks_eq keyed marks
  have parts : (m.setMarks marks).values = values (m.map (remarked marks)) ++ added.values := by
    rw [split]
    exact List.map_append
  have sameLength : m.values.length = (values (m.map (remarked marks))).length := by
    simp only [values, List.length_map]
  rw [parts, prefix_append_iff_eq sameLength]
  unfold values
  rw [List.map_map, List.map_inj_left]
  refine forall₂_congr fun entry _ => ?_
  by_cases marked : entry.1 ∈ marks
  · simp only [Function.comp_apply, remarked_of_mem marked, Prod.mk.injEq, true_and, marked,
      forall_const]
  · simp only [Function.comp_apply, remarked_of_notMem marked, marked, false_imp_iff]

theorem setMarks_marked (keyed : m.signals.Nodup) (marks : List String) :
    m.Marked marks (m.setMarks marks) where
  split := setMarks_eq keyed marks
  each _ set := mem_setMarks keyed set
  keyed := setMarks_keyed keyed marks
  frame := values_prefix_setMarks_iff keyed

end MatchedEvidence

namespace Rule

/-- The marks of some factors. -/
def marksOf (factors : List ConfidenceFactor) : List String :=
  factors.map fun factor => factorMark factor.signal

/-- Whatever the evidence, the factors that are counted leave their marks and nothing else. -/
theorem addFactors_marks {events : List Event} {factors : List ConfidenceFactor}
    {confidence total : Int} {m marked : MatchedEvidence}
    (added : addFactors events factors confidence m = .ok (total, marked)) :
    marked = m.setMarks (marksOf (countedFactors events factors m)) := by
  induction factors generalizing confidence m with
  | nil =>
    cases added
    rfl
  | cons factor rest ih =>
    unfold addFactors at added
    unfold countedFactors
    split at added
    · cases added
    · rename_i applies
      rw [applies]
      split at added
      · exact ih added
      · cases added
    · rename_i applies
      rw [applies]
      exact ih added

theorem score_marked {rule : Rule} {events : List Event} {confidence : Int}
    {m marked : MatchedEvidence} (keyed : m.signals.Nodup)
    (scored : rule.score m events = .ok (confidence, marked)) :
    m.Marked (marksOf (countedFactors events rule.factors m)) marked := by
  unfold score at scored
  cases added : addFactors events rule.factors rule.baseConfidence m with
  | error e =>
    rw [added] at scored
    cases scored
  | ok result =>
    rw [added] at scored
    cases scored
    rw [addFactors_marks added]
    exact MatchedEvidence.setMarks_marked keyed _

/-- The evidence of matched conditions is keyed by signal. -/
theorem matchConditions_keyed {evaluator : Evaluator} {events : List Event}
    {conditions : List Condition} {m found : MatchedEvidence} (keyed : m.signals.Nodup)
    (matched : matchConditions evaluator events conditions m = .ok (some found)) :
    found.signals.Nodup := by
  induction conditions generalizing m with
  | nil =>
    cases matched
    exact keyed
  | cons c rest ih =>
    unfold matchConditions at matched
    split at matched
    · cases matched
    · split at matched
      · exact ih (MatchedEvidence.put_keyed keyed _ _) matched
      · split at matched
        · cases matched
        · exact ih keyed matched

/-- Scoring adds the marks of the factors that it counts to evidence, and so does every diagnosis to
the evidence of the matched conditions. That evidence keeps its signals and its places, and also its
values, but for those under a signal that is the mark of a counted factor. -/
theorem scoring_adds_marks (rule : Rule) (events : List Event) :
    (∀ (m marked : MatchedEvidence) (confidence : Int), m.signals.Nodup →
      rule.score m events = .ok (confidence, marked) →
      m.Marked (marksOf (countedFactors events rule.factors m)) marked) ∧
    ∀ (evaluator : Evaluator) (stamp : Stamp) (d : Diagnosis),
      rule.evaluate stamp evaluator events = .ok (some d) →
      ∃ m, matchConditions evaluator events rule.conditions [] = .ok (some m) ∧
        m.Marked (marksOf (countedFactors events rule.factors m)) d.evidence := by
  refine ⟨fun m marked confidence keyed scored => score_marked keyed scored,
    fun evaluator stamp d fired => ?_⟩
  unfold evaluate at fired
  split at fired
  · cases fired
  · cases fired
  · rename_i m matched
    split at fired
    · cases fired
    · rename_i confidence marked scored
      split at fired
      · cases fired
      · cases fired
        have empty : (MatchedEvidence.signals []).Nodup := List.nodup_nil
        exact ⟨m, matched, score_marked (matchConditions_keyed empty matched) scored⟩

/-- A rule with a condition whose signal is the mark of its first factor. -/
def bootRule : Rule :=
  { (default : Rule) with
    conditions := [
      { (default : Condition) with
        signal := "factor_boot", source := .eventType, eventType := some "boot" },
      { (default : Condition) with
        signal := "started", source := .eventType, eventType := some "start" }]
    baseConfidence := 50
    factors := [
      ⟨"boot", "count >= 1", 10, ⟨.countAtLeast 1, "count >= 1"⟩⟩,
      ⟨"started", "exists", 5, ⟨.matched, "exists"⟩⟩] }

def bootEvents : List Event :=
  [{ (default : Event) with id := "b", type := "boot" },
    { (default : Event) with id := "s", type := "start" }]

/-- What is kept of the first event, and of the second. -/
def bootEvidence : MatchedEvidence := [
  ("factor_boot", .occurrence ⟨"b", 0, default, "boot"⟩ 1),
  ("started", .occurrence ⟨"s", 0, default, "start"⟩ 1)]

/-- The mark of the first factor took the place of evidence, and that of the second was added. -/
def markedBoots : MatchedEvidence := [
  ("factor_boot", .mark), ("started", .occurrence ⟨"s", 0, default, "start"⟩ 1),
  ("factor_started", .mark)]

theorem score_bootEvidence :
    bootEvidence.signals.Nodup ∧
      bootRule.score bootEvidence bootEvents = .ok (65, markedBoots) :=
  ⟨by decide, by rfl⟩

theorem boots_marked :
    (bootEvidence.signals.Nodup ∧
      bootRule.score bootEvidence bootEvents = .ok (65, markedBoots)) ∧
      bootEvidence.Marked (marksOf (countedFactors bootEvents bootRule.factors bootEvidence))
        markedBoots :=
  ⟨score_bootEvidence, (scoring_adds_marks bootRule bootEvents).1 bootEvidence markedBoots 65
    score_bootEvidence.1 score_bootEvidence.2⟩

/-- Scoring does not always leave the evidence as it stands. -/
theorem mark_replaces_evidence :
    ¬∀ (rule : Rule) (events : List Event) (m marked : MatchedEvidence) (confidence : Int),
      m.signals.Nodup → rule.score m events = .ok (confidence, marked) →
      m.values <+: marked.values := by
  intro always
  obtain ⟨keyed, scored⟩ := score_bootEvidence
  have kept : bootEvidence.values <+: markedBoots.values :=
    always bootRule bootEvents _ _ _ keyed scored
  have same := (List.cons_prefix_cons.mp kept).1
  cases (Prod.mk.inj same).2

end Rule

end EnrollmentDiagnosis
