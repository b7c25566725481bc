import EnrollmentDiagnosis.Report
import Mathlib.Algebra.Ring.Nat
import Mathlib.Data.List.Nodup

set_option autoImplicit false

namespace EnrollmentDiagnosis

theorem Severity.mem_ranking (severity : Severity) : severity ∈ Severity.ranking := by
  cases severity <;> decide

/-- The ranking lists the severities by their ranks. -/
theorem Severity.ranking_ordered : Severity.ranking.Pairwise fun a b => a.rank < b.rank := by
  decide

namespace Report

theorem inRank_iff {a b : Diagnosis} :
    inRank a b = true ↔ a.severity.rank < b.severity.rank ∨
      a.severity.rank = b.severity.rank ∧
        (b.confidence < a.confidence ∨ a.confidence = b.confidence ∧ a.ruleId ≤ b.ruleId) := by
  unfold inRank
  split
  · rename_i apart
    rw [decide_eq_true_eq]
    exact ⟨.inl, fun ordered => ordered.resolve_right fun level => apart level.1⟩
  · rename_i level
    rw [ne_eq, Decidable.not_not] at level
    split
    · rename_i apart
      rw [decide_eq_true_eq]
      omega
    · rename_i equal
      rw [ne_eq, Decidable.not_not] at equal
      simp only [level, equal, Nat.lt_irrefl, Int.lt_irrefl, decide_eq_true_eq, true_and, false_or]

theorem inRank_trans (a b c : Diagnosis) (first : inRank a b = true) (second : inRank b c = true) :
    inRank a c = true := by
  have ids : a.ruleId ≤ b.ruleId → b.ruleId ≤ c.ruleId → a.ruleId ≤ c.ruleId := String.le_trans
  rw [inRank_iff] at first second ⊢
  grind

theorem inRank_total (a b : Diagnosis) : (inRank a b || inRank b a) = true := by
  have ids := String.le_total a.ruleId b.ruleId
  rw [Bool.or_eq_true, inRank_iff, inRank_iff]
  grind

/-- Diagnoses that rank alike are of one rule. -/
theorem ruleId_eq_of_inRank {a b : Diagnosis} (forward : inRank a b = true)
    (backward : inRank b a = true) : a.ruleId = b.ruleId := by
  rw [inRank_iff] at forward backward
  have before : a.ruleId ≤ b.ruleId := by grind
  have behind : b.ruleId ≤ a.ruleId := by grind
  exact String.le_antisymm before behind

variable {diagnoses others : List Diagnosis}

theorem ranked_perm (diagnoses : List Diagnosis) : (ranked diagnoses).Perm diagnoses :=
  List.mergeSort_perm diagnoses inRank

theorem ranked_ordered (diagnoses : List Diagnosis) :
    (ranked diagnoses).Pairwise fun a b => inRank a b = true :=
  List.pairwise_mergeSort inRank_trans inRank_total diagnoses

/-- Diagnoses of different rules have one ranking: two rankings of the same ones agree, as only
diagnoses of one rule could change places. -/
theorem ranked_eq_of_perm (distinct : (diagnoses.map (·.ruleId)).Nodup)
    (same : others.Perm diagnoses) : ranked others = ranked diagnoses := by
  refine List.Perm.eq_of_pairwise ?_ (ranked_ordered others) (ranked_ordered diagnoses)
    (((ranked_perm others).trans same).trans (ranked_perm diagnoses).symm)
  intro a b memberA memberB forward backward
  have givenA : a ∈ diagnoses := same.mem_iff.mp ((ranked_perm others).mem_iff.mp memberA)
  have givenB : b ∈ diagnoses := (ranked_perm diagnoses).mem_iff.mp memberB
  exact List.inj_on_of_nodup_map distinct givenA givenB (ruleId_eq_of_inRank forward backward)

theorem mem_ofSeverity {severity : Severity} {d : Diagnosis} :
    d ∈ ofSeverity diagnoses severity ↔ d ∈ diagnoses ∧ d.severity = severity := by
  rw [ofSeverity, List.mem_filter, beq_iff_eq]

theorem ofSeverity_cons (d : Diagnosis) (rest : List Diagnosis) :
    ofSeverity (d :: rest) d.severity = d :: ofSeverity rest d.severity :=
  List.filter_cons_of_pos (beq_self_eq_true d.severity)

theorem ofSeverity_cons_of_ne {d : Diagnosis} {severity : Severity} (other : d.severity ≠ severity)
    (rest : List Diagnosis) : ofSeverity (d :: rest) severity = ofSeverity rest severity :=
  List.filter_cons_of_neg (fun found => other (beq_iff_eq.mp found))

/-- Severities above those of all diagnoses have no groups. -/
theorem flatMap_ofSeverity_above {severities : List Severity} {bound : Nat}
    (above : ∀ severity ∈ severities, severity.rank < bound)
    (within : ∀ d ∈ diagnoses, bound ≤ d.severity.rank) :
    severities.flatMap (ofSeverity diagnoses) = [] := by
  rw [List.flatMap_eq_nil_iff]
  intro severity higher
  rw [List.eq_nil_iff_forall_not_mem]
  intro d member
  obtain ⟨given, rfl⟩ := mem_ofSeverity.mp member
  have low := above d.severity higher
  have high := within d given
  omega

/-- Where no later diagnosis is more severe, the groups above that of the first diagnosis are empty,
and it is the first in its own. -/
theorem flatMap_ofSeverity_cons {d : Diagnosis} {rest : List Diagnosis}
    (least : ∀ e ∈ rest, d.severity.rank ≤ e.severity.rank) :
    Severity.ranking.flatMap (ofSeverity (d :: rest)) =
      d :: Severity.ranking.flatMap (ofSeverity rest) := by
  obtain ⟨above, below, split⟩ := List.append_of_mem d.severity.mem_ranking
  have ordered := Severity.ranking_ordered
  rw [split, List.pairwise_append] at ordered
  obtain ⟨-, after, before⟩ := ordered
  have higher : ∀ severity ∈ above, severity.rank < d.severity.rank := fun severity member =>
    before severity member d.severity List.mem_cons_self
  have whole : ∀ e ∈ d :: rest, d.severity.rank ≤ e.severity.rank :=
    List.forall_mem_cons.mpr ⟨Nat.le_refl _, least⟩
  have sameBelow : below.flatMap (ofSeverity (d :: rest)) = below.flatMap (ofSeverity rest) := by
    apply List.flatMap_congr
    intro severity lower
    apply ofSeverity_cons_of_ne
    rintro rfl
    exact absurd (List.rel_of_pairwise_cons after lower) (Nat.lt_irrefl _)
  rw [split, List.flatMap_append, List.flatMap_append, flatMap_ofSeverity_above higher whole,
    flatMap_ofSeverity_above higher least, List.flatMap_cons, List.flatMap_cons, ofSeverity_cons,
    sameBelow]
  rfl

/-- The groups of ranked diagnoses, from the most to the least severe, are their ranking. -/
theorem flatMap_ofSeverity_of_ordered
    (ordered : diagnoses.Pairwise fun a b => inRank a b = true) :
    Severity.ranking.flatMap (ofSeverity diagnoses) = diagnoses := by
  induction diagnoses with
  | nil => rfl
  | cons d rest ih =>
    have least : ∀ e ∈ rest, d.severity.rank ≤ e.severity.rank := by
      intro e later
      have inOrder := List.rel_of_pairwise_cons ordered later
      rw [inRank_iff] at inOrder
      omega
    rw [flatMap_ofSeverity_cons least, ih ordered.tail]

theorem ofSeverity_ranked_perm (severity : Severity) :
    (ofSeverity (ranked diagnoses) severity).Perm (ofSeverity diagnoses severity) :=
  (ranked_perm diagnoses).filter _

/-- The severities that have diagnoses, each with its ranked diagnoses. -/
def groups (diagnoses : List Diagnosis) : List (Severity × List Diagnosis) :=
  (Severity.ranking.filter fun severity => !(ofSeverity (ranked diagnoses) severity).isEmpty).map
    fun severity => (severity, ofSeverity (ranked diagnoses) severity)

/-- The section of one group. -/
def groupText (group : Severity × List Diagnosis) : String :=
  "## " ++ group.1.symbol ++ " " ++ group.1.heading ++ " Severity\n\n" ++
    String.join (group.2.map entry)

/-- What the summary says of one group. -/
def groupCount (group : Severity × List Diagnosis) : String :=
  integerText group.2.length ++ " " ++ group.1.name

theorem groups_headings_sublist (diagnoses : List Diagnosis) :
    ((groups diagnoses).map (·.1)).Sublist Severity.ranking := by
  have headings : (·.1) ∘ (fun severity : Severity =>
      (severity, ofSeverity (ranked diagnoses) severity)) = id := rfl
  rw [groups, List.map_map, headings, List.map_id]
  exact List.filter_sublist

theorem mem_groups {group : Severity × List Diagnosis} :
    group ∈ groups diagnoses ↔ group.2 = ofSeverity (ranked diagnoses) group.1 ∧ group.2 ≠ [] := by
  rw [groups, List.mem_map]
  constructor
  · rintro ⟨severity, member, rfl⟩
    have nonempty := (List.mem_filter.mp member).2
    rw [Bool.not_eq_true', List.isEmpty_eq_false_iff] at nonempty
    exact ⟨rfl, nonempty⟩
  · rintro ⟨same, nonempty⟩
    refine ⟨group.1, List.mem_filter.mpr ⟨group.1.mem_ranking, ?_⟩, by rw [← same]⟩
    rw [← same, Bool.not_eq_true', List.isEmpty_eq_false_iff]
    exact nonempty

/-- A group has exactly the diagnoses of its severity. -/
theorem mem_of_mem_groups {group : Severity × List Diagnosis} (member : group ∈ groups diagnoses)
    (d : Diagnosis) : d ∈ group.2 ↔ d ∈ diagnoses ∧ d.severity = group.1 := by
  rw [(mem_groups.mp member).1, mem_ofSeverity, (ranked_perm diagnoses).mem_iff]

/-- What is kept gives the same as the whole, if the rest gives nothing. -/
theorem flatMap_filter_congr {α β : Type} {keep : α → Bool} {f g : α → List β}
    (same : ∀ a, keep a = true → f a = g a) (nothing : ∀ a, keep a = false → g a = [])
    (l : List α) : (l.filter keep).flatMap f = l.flatMap g := by
  induction l with
  | nil => rfl
  | cons a rest ih =>
    rw [List.flatMap_cons, List.filter_cons]
    split
    · rename_i kept
      rw [List.flatMap_cons, same a kept, ih]
    · rename_i dropped
      rw [nothing a (Bool.eq_false_iff.mpr dropped), ih]
      rfl

/-- Severities without diagnoses may be passed over where they add nothing. -/
theorem flatMap_groups {α : Type} {f : Severity × List Diagnosis → List α}
    {g : Severity → List α}
    (same : ∀ severity, ofSeverity (ranked diagnoses) severity ≠ [] →
      f (severity, ofSeverity (ranked diagnoses) severity) = g severity)
    (nothing : ∀ severity, ofSeverity (ranked diagnoses) severity = [] → g severity = []) :
    (groups diagnoses).flatMap f = Severity.ranking.flatMap g := by
  rw [groups, List.flatMap_map]
  apply flatMap_filter_congr
  · intro severity kept
    rw [Bool.not_eq_true', List.isEmpty_eq_false_iff] at kept
    exact same severity kept
  · intro severity dropped
    rw [Bool.not_eq_false', List.isEmpty_iff] at dropped
    exact nothing severity dropped

/-- The groups, one after the other, are the ranking. -/
theorem flatMap_groups_eq_ranked (diagnoses : List Diagnosis) :
    (groups diagnoses).flatMap (·.2) = ranked diagnoses := by
  rw [flatMap_groups (fun _ _ => rfl) (fun _ empty => empty)]
  exact flatMap_ofSeverity_of_ordered (ranked_ordered diagnoses)

/-- The sections written for all severities are those of the groups. -/
theorem join_sectionText (diagnoses : List Diagnosis) :
    String.join (Severity.ranking.map (sectionText (ranked diagnoses))) =
      String.join ((groups diagnoses).map groupText) := by
  apply String.toList_injective
  rw [String.toList_join, String.toList_join, List.flatMap_map, List.flatMap_map]
  symm
  apply flatMap_groups
  · intro severity nonempty
    rw [sectionText]
    split
    · contradiction
    · rfl
  · intro severity empty
    rw [sectionText, empty]
    rfl

theorem counts_eq_groups (diagnoses : List Diagnosis) :
    counts diagnoses = (groups diagnoses).map fun group => (group.1, group.2.length) := by
  have sizes (severity : Severity) : (ofSeverity diagnoses severity).length =
      (ofSeverity (ranked diagnoses) severity).length :=
    (ofSeverity_ranked_perm severity).length_eq.symm
  have counted (group : List Diagnosis) : (group.length != 0) = !group.isEmpty := by
    cases group <;> rfl
  rw [counts, groups, List.filter_map, List.map_map]
  simp only [sizes, counted, Function.comp_def]

theorem sum_groups (diagnoses : List Diagnosis) :
    ((groups diagnoses).map (·.2.length)).sum = diagnoses.length := by
  rw [← List.length_flatMap, flatMap_groups_eq_ranked]
  exact (ranked_perm diagnoses).length_eq

theorem summary_eq_groups (nonempty : diagnoses ≠ []) :
    summary diagnoses =
      "🚨 " ++ integerText diagnoses.length ++
        (if diagnoses.length = 1 then " issue" else " issues") ++ " detected: " ++
        Value.joined ((groups diagnoses).map groupCount) := by
  rw [summary, if_neg (by rwa [List.isEmpty_iff]), counts_eq_groups, List.map_map]
  rfl

/-- The order in which diagnoses come does not matter for their summary. -/
theorem summary_of_perm (same : others.Perm diagnoses) : summary others = summary diagnoses := by
  have counted : counts others = counts diagnoses := by
    simp only [counts, ofSeverity, (same.filter _).length_eq]
  rw [summary, summary, counted, same.length_eq, same.isEmpty_eq]

theorem markdown_eq_groups (nonempty : diagnoses ≠ []) :
    markdown diagnoses =
      Text.stripEnd (title ++ summary diagnoses ++ "\n\n" ++
        String.join ((groups diagnoses).map groupText)) ++ "\n" := by
  rw [markdown, if_neg (by rwa [List.isEmpty_iff])]
  dsimp only
  rw [summary_of_perm (ranked_perm diagnoses), join_sectionText]

theorem markdown_of_perm (distinct : (diagnoses.map (·.ruleId)).Nodup)
    (same : others.Perm diagnoses) : markdown others = markdown diagnoses := by
  simp only [markdown, ranked_eq_of_perm distinct same, same.isEmpty_eq]

/-- A rule's diagnosis is in the groups once. -/
theorem count_groups (distinct : (diagnoses.map (·.ruleId)).Nodup) {d : Diagnosis}
    (member : d ∈ diagnoses) :
    (((groups diagnoses).flatMap (·.2)).map (·.ruleId)).count d.ruleId = 1 := by
  have same := (ranked_perm diagnoses).map (·.ruleId)
  rw [flatMap_groups_eq_ranked, same.count_eq]
  exact List.count_eq_one_of_mem distinct (List.mem_map_of_mem member)

/-- A report has every diagnosis once, under its own severity. For diagnoses of different rules, in
whatever order they come: they have one ranking, one summary and one report; the groups of the
report, in the order of their severities, are the ranking one after the other; and the summary
counts the groups, whose sizes add up. -/
theorem each_reported_once (distinct : (diagnoses.map (·.ruleId)).Nodup) :
    (ranked diagnoses).Perm diagnoses ∧
      (∀ others : List Diagnosis, others.Perm diagnoses →
        ranked others = ranked diagnoses ∧ summary others = summary diagnoses ∧
          markdown others = markdown diagnoses) ∧
      (groups diagnoses).flatMap (·.2) = ranked diagnoses ∧
      ((groups diagnoses).map (·.1)).Sublist Severity.ranking ∧
      (∀ group ∈ groups diagnoses, group.2 ≠ [] ∧
        ∀ d, d ∈ group.2 ↔ d ∈ diagnoses ∧ d.severity = group.1) ∧
      (∀ d ∈ diagnoses,
        (((groups diagnoses).flatMap (·.2)).map (·.ruleId)).count d.ruleId = 1) ∧
      counts diagnoses = (groups diagnoses).map (fun group => (group.1, group.2.length)) ∧
      ((groups diagnoses).map (·.2.length)).sum = diagnoses.length ∧
      (diagnoses ≠ [] →
        summary diagnoses =
          "🚨 " ++ integerText diagnoses.length ++
            (if diagnoses.length = 1 then " issue" else " issues") ++ " detected: " ++
            Value.joined ((groups diagnoses).map groupCount) ∧
        markdown diagnoses =
          Text.stripEnd (title ++ summary diagnoses ++ "\n\n" ++
            String.join ((groups diagnoses).map groupText)) ++ "\n") := by
  refine ⟨ranked_perm diagnoses, fun others same => ?_, flatMap_groups_eq_ranked diagnoses,
    groups_headings_sublist diagnoses, fun group member => ?_, fun d member => ?_,
    counts_eq_groups diagnoses, sum_groups diagnoses, fun nonempty => ?_⟩
  · exact ⟨ranked_eq_of_perm distinct same, summary_of_perm same, markdown_of_perm distinct same⟩
  · exact ⟨(mem_groups.mp member).2, mem_of_mem_groups member⟩
  · exact count_groups distinct member
  · exact ⟨summary_eq_groups nonempty, markdown_eq_groups nonempty⟩

/-- A diagnosis with what its rank depends on. -/
def graded (ruleId : String) (severity : Severity) (confidence : Int) : Diagnosis :=
  { (default : Diagnosis) with ruleId := ruleId, severity := severity, confidence := confidence }

/-- Two diagnoses of equal severity and confidence behind a less severe one. -/
def mixed : List Diagnosis :=
  [graded "W-1" .warning 90, graded "H-2" .high 60, graded "H-1" .high 60]

theorem mixed_reported_once :
    (mixed.map (·.ruleId)).Nodup ∧ mixed.reverse.Perm mixed ∧
      markdown mixed.reverse = markdown mixed ∧
      (groups mixed).flatMap (·.2) = ranked mixed ∧
      (groups mixed).map (fun group => (group.1, group.2.length)) = [(.high, 2), (.warning, 1)] ∧
      ((groups mixed).map (·.2.length)).sum = 3 ∧
      summary mixed =
        "🚨 3 issues detected: " ++ Value.joined ((groups mixed).map groupCount) := by
  have distinct : (mixed.map (·.ruleId)).Nodup := by decide
  obtain ⟨-, alike, whole, -, -, -, counted, sizes, text⟩ := each_reported_once distinct
  have turned : mixed.reverse.Perm mixed := List.reverse_perm mixed
  have twoHigh : counts mixed = [(.high, 2), (.warning, 1)] := rfl
  refine ⟨distinct, turned, (alike _ turned).2.2, whole, counted.symm.trans twoHigh, sizes, ?_⟩
  exact (text (List.cons_ne_nil _ _)).1

end Report

end EnrollmentDiagnosis
