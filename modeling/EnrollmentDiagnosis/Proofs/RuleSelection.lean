import EnrollmentDiagnosis.Analysis
import Mathlib.Data.List.Induction
import Mathlib.Data.List.Nodup

set_option autoImplicit false

namespace EnrollmentDiagnosis.Analysis

/-- The identities of the enabled rules. -/
def enabledIds (rules : List Rule) : List String := (rules.filter (·.enabled)).map (·.id)

/-- True for a rule at a position when it is enabled, is not to be skipped, and no enabled rule
before that position has its identity. -/
def countsAt (rules : List Rule) (skip : List String) (rule : Rule) (position : Nat) : Bool :=
  rule.enabled && !skip.contains rule.id && !(enabledIds (rules.take position)).contains rule.id

/-- The first enabled rule of each identity that is not to be skipped, found by positions. -/
def firstEnabled (rules : List Rule) (skip : List String) : List Rule :=
  (rules.zipIdx.filter fun entry => countsAt rules skip entry.1 entry.2).map Prod.fst

@[simp] theorem enabledIds_nil : enabledIds [] = [] := rfl

theorem enabledIds_cons_enabled {rule : Rule} (enabled : rule.enabled = true) (rest : List Rule) :
    enabledIds (rule :: rest) = rule.id :: enabledIds rest := by
  simp only [enabledIds, List.filter_cons, enabled, ↓reduceIte, List.map_cons]

theorem enabledIds_cons_disabled {rule : Rule} (disabled : rule.enabled = false)
    (rest : List Rule) : enabledIds (rule :: rest) = enabledIds rest := by
  simp only [enabledIds, List.filter_cons, disabled, Bool.false_eq_true, ↓reduceIte]

theorem selected_cons_passed {rule : Rule} {skip : List String}
    (passed : rule.enabled = false ∨ rule.id ∈ skip) (rest : List Rule) :
    selected (rule :: rest) skip = selected rest skip := by
  have guard : (!rule.enabled || skip.contains rule.id) = true := by
    rcases passed with disabled | member
    · simp [disabled]
    · simp [member]
  simp only [selected, guard, ↓reduceIte]

theorem selected_cons_taken {rule : Rule} {skip : List String} (enabled : rule.enabled = true)
    (fresh : rule.id ∉ skip) (rest : List Rule) :
    selected (rule :: rest) skip = rule :: selected rest (rule.id :: skip) := by
  have guard : (!rule.enabled || skip.contains rule.id) = false := by
    simp [enabled, fresh]
  simp only [selected, guard, Bool.false_eq_true, ↓reduceIte]

/-- What is skipped matters as a set only. -/
theorem selected_congr (rules : List Rule) {skip other : List String}
    (same : ∀ id, id ∈ skip ↔ id ∈ other) : selected rules skip = selected rules other := by
  induction rules generalizing skip other with
  | nil => rfl
  | cons rule rest ih =>
    by_cases passed : rule.enabled = false ∨ rule.id ∈ skip
    · have passedOther : rule.enabled = false ∨ rule.id ∈ other :=
        passed.imp_right (same rule.id).mp
      rw [selected_cons_passed passed, selected_cons_passed passedOther]
      exact ih same
    · obtain ⟨enabled, fresh⟩ := not_or.mp passed
      have enabled : rule.enabled = true := by simpa using enabled
      have freshOther : rule.id ∉ other := fun member => fresh ((same rule.id).mpr member)
      rw [selected_cons_taken enabled fresh, selected_cons_taken enabled freshOther]
      refine congrArg (rule :: ·) (ih fun id => ?_)
      simp only [List.mem_cons, same id]

/-- Behind some rules, those with the identity of an enabled one among them are skipped too, whether
or not it was evaluated. -/
theorem selected_append (first second : List Rule) (skip : List String) :
    selected (first ++ second) skip =
      selected first skip ++ selected second (skip ++ enabledIds first) := by
  induction first generalizing skip with
  | nil => simp only [selected, enabledIds_nil, List.append_nil, List.nil_append]
  | cons rule rest ih =>
    rw [List.cons_append]
    cases enabled : rule.enabled with
    | false =>
      rw [selected_cons_passed (.inl enabled), selected_cons_passed (.inl enabled), ih,
        enabledIds_cons_disabled enabled]
    | true =>
      rw [enabledIds_cons_enabled enabled]
      by_cases member : rule.id ∈ skip
      · rw [selected_cons_passed (.inr member), selected_cons_passed (.inr member), ih]
        refine congrArg (selected rest skip ++ ·) (selected_congr second fun id => ?_)
        simp only [List.mem_append, List.mem_cons]
        constructor
        · exact fun present => present.imp_right .inr
        · rintro (present | rfl | present)
          · exact .inl present
          · exact .inl member
          · exact .inr present
      · rw [selected_cons_taken enabled member, selected_cons_taken enabled member, ih,
          List.cons_append]
        refine congrArg (fun last => rule :: (selected rest (rule.id :: skip) ++ last))
          (selected_congr second fun id => ?_)
        simp only [List.mem_append, List.mem_cons]
        tauto

theorem selected_singleton (rules : List Rule) (skip : List String) (rule : Rule) :
    selected [rule] (skip ++ enabledIds rules) =
      if countsAt (rules ++ [rule]) skip rule rules.length then [rule] else [] := by
  simp only [selected, countsAt, List.take_left]
  cases rule.enabled with
  | false => simp
  | true =>
    by_cases member : rule.id ∈ skip <;> by_cases earlier : rule.id ∈ enabledIds rules <;>
      simp [member, earlier]

theorem firstEnabled_concat (rules : List Rule) (skip : List String) (rule : Rule) :
    firstEnabled (rules ++ [rule]) skip = firstEnabled rules skip ++
      if countsAt (rules ++ [rule]) skip rule rules.length then [rule] else [] := by
  have before : ∀ entry ∈ rules.zipIdx, countsAt (rules ++ [rule]) skip entry.1 entry.2 =
      countsAt rules skip entry.1 entry.2 := by
    intro entry member
    have inside := List.snd_lt_of_mem_zipIdx member
    have taken : (rules ++ [rule]).take entry.2 = rules.take entry.2 :=
      List.take_append_of_le_length (by omega)
    simp only [countsAt, taken]
  simp only [firstEnabled, List.zipIdx_append, List.filter_append, List.map_append,
    List.filter_congr before, List.zipIdx_singleton, Nat.zero_add, List.filter_singleton]
  cases countsAt (rules ++ [rule]) skip rule rules.length <;> rfl

/-- The loop over the rules picks exactly the rules that the description by positions names. -/
theorem selected_eq_firstEnabled (rules : List Rule) (skip : List String) :
    selected rules skip = firstEnabled rules skip := by
  induction rules using List.reverseRecOn with
  | nil => rfl
  | append_singleton rules rule ih =>
    rw [selected_append, selected_singleton, firstEnabled_concat, ih]

/-- More to skip takes away the rules that are then skipped, and leaves the others. -/
theorem selected_of_subset (rules : List Rule) {skip more : List String} (part : skip ⊆ more) :
    selected rules more = (selected rules skip).filter (·.id ∉ more) := by
  have counts : ∀ rule position, countsAt rules more rule position =
      (countsAt rules skip rule position && decide (rule.id ∉ more)) := by
    intro rule position
    unfold countsAt
    by_cases member : rule.id ∈ more
    · simp [member]
    · have outside : rule.id ∉ skip := fun present => member (part present)
      simp [member, outside]
  simp only [selected_eq_firstEnabled, firstEnabled, List.filter_map, List.filter_filter, counts]
  refine congrArg (List.map Prod.fst) (List.filter_congr fun entry _ => ?_)
  simp only [Function.comp_apply, Bool.and_comm]

theorem selected_sublist (rules : List Rule) (skip : List String) :
    (selected rules skip).Sublist rules := by
  induction rules generalizing skip with
  | nil => exact List.Sublist.refl _
  | cons rule rest ih =>
    unfold selected
    split
    · exact (ih skip).cons rule
    · exact (ih (rule.id :: skip)).cons_cons rule

theorem selected_fresh (rules : List Rule) (skip : List String) :
    ∀ rule ∈ selected rules skip, rule.id ∉ skip := by
  induction rules generalizing skip with
  | nil => intro rule member; cases member
  | cons first rest ih =>
    intro rule member
    unfold selected at member
    split at member
    · exact ih skip rule member
    · rename_i guard
      rcases List.mem_cons.mp member with rfl | later
      · have unskipped : rule.enabled = true ∧ rule.id ∉ skip := by simpa using guard
        exact unskipped.2
      · have outside := ih (first.id :: skip) rule later
        exact fun present => outside (List.mem_cons_of_mem _ present)

theorem selected_ids_nodup (rules : List Rule) (skip : List String) :
    ((selected rules skip).map (·.id)).Nodup := by
  induction rules generalizing skip with
  | nil => exact List.nodup_nil
  | cons rule rest ih =>
    unfold selected
    split
    · exact ih skip
    · refine List.nodup_cons.mpr ⟨?_, ih (rule.id :: skip)⟩
      intro repeated
      obtain ⟨later, member, same⟩ := List.mem_map.mp repeated
      exact selected_fresh rest (rule.id :: skip) later member (same ▸ List.mem_cons_self)

end EnrollmentDiagnosis.Analysis
