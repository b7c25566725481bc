import EnrollmentDiagnosis.RuleBook.Validation
import Mathlib.Data.List.Nodup

set_option autoImplicit false

namespace EnrollmentDiagnosis.RuleBook

/-- An entry of a document, with the rule that it is read as. -/
structure Written where
  entry : Value
  rule : Rule
  reads : Rule.ofValue entry = .ok rule

namespace Verdict

theorem ofEntries?_of_sound {position : Nat} {seen : List String} (written : Written)
    (fresh : written.rule.id ∉ seen) (sound : written.rule.problems = []) (rest : List Value) :
    ofEntries? position seen (written.entry :: rest) =
      ofEntries? (position + 1) (written.rule.id :: seen) rest := by
  have unseen : seen.contains written.rule.id = false := by simpa using fresh
  simp only [ofEntries?, written.reads, unseen, Bool.false_eq_true, ↓reduceIte, sound]

/-- No entry is found to be wrong where the first one is a rule with a fresh identity and without
problems, and none of the others is found to be wrong. -/
theorem ofEntries?_cons_eq_none {position : Nat} {seen : List String} {entry : Value}
    {rest : List Value} (passed : ofEntries? position seen (entry :: rest) = none) :
    ∃ written : Written, written.entry = entry ∧ written.rule.id ∉ seen ∧
      written.rule.problems = [] ∧
      ofEntries? (position + 1) (written.rule.id :: seen) rest = none := by
  unfold ofEntries? at passed
  split at passed
  · cases passed
  · cases passed
  · rename_i rule reads
    split at passed
    · cases passed
    · rename_i unseen
      split at passed
      · rename_i sound
        have fresh : rule.id ∉ seen := by simpa using unseen
        exact ⟨⟨entry, rule, reads⟩, rfl, fresh, sound, passed⟩
      · cases passed

/-- No entry is found to be wrong if and only if all are rules with different identities that were
not seen before, and none of them has a problem. -/
theorem ofEntries?_eq_none_iff (position : Nat) (seen : List String) (entries : List Value) :
    ofEntries? position seen entries = none ↔
      ∃ written : List Written, written.map (·.entry) = entries ∧
        (written.map (·.rule.id)).Nodup ∧
        ∀ w ∈ written, w.rule.id ∉ seen ∧ w.rule.problems = [] := by
  induction entries generalizing position seen with
  | nil =>
    refine ⟨fun _ => ⟨[], rfl, List.nodup_nil, fun _ member => by cases member⟩, fun _ => rfl⟩
  | cons entry rest ih =>
    constructor
    · intro passed
      obtain ⟨first, rfl, fresh, sound, others⟩ := ofEntries?_cons_eq_none passed
      obtain ⟨written, rfl, distinct, each⟩ := (ih _ _).mp others
      refine ⟨first :: written, rfl, List.nodup_cons.mpr ⟨?_, distinct⟩, ?_⟩
      · intro repeated
        obtain ⟨w, member, same⟩ := List.mem_map.mp repeated
        exact (each w member).1 (same ▸ List.mem_cons_self)
      · intro w member
        rcases List.mem_cons.mp member with rfl | later
        · exact ⟨fresh, sound⟩
        · obtain ⟨unseen, soundLater⟩ := each w later
          exact ⟨fun present => unseen (List.mem_cons_of_mem _ present), soundLater⟩
    · rintro ⟨written, same, distinct, each⟩
      cases written with
      | nil => cases same
      | cons first written =>
        obtain ⟨rfl, rfl⟩ := List.cons.inj same
        obtain ⟨apart, distinctLater⟩ := List.nodup_cons.mp distinct
        obtain ⟨fresh, sound⟩ := each first List.mem_cons_self
        rw [ofEntries?_of_sound first fresh sound]
        refine (ih _ _).mpr ⟨written, rfl, distinctLater, fun w member => ⟨?_, ?_⟩⟩
        · intro seenBefore
          rcases List.mem_cons.mp seenBefore with same | present
          · exact apart (List.mem_map.mpr ⟨w, member, same⟩)
          · exact (each w (List.mem_cons_of_mem _ member)).1 present
        · exact (each w (List.mem_cons_of_mem _ member)).2

/-- A verdict on an entry is a refusal. -/
theorem ofEntries?_refuses {position : Nat} {seen : List String} {entries : List Value}
    {verdict : Verdict} (found : ofEntries? position seen entries = some verdict) :
    verdict.success = false := by
  induction entries generalizing position seen with
  | nil => cases found
  | cons entry rest ih =>
    unfold ofEntries? at found
    split at found
    · cases found
      rfl
    · cases found
      rfl
    · split at found
      · cases found
        rfl
      · split at found
        · exact ih found
        · cases found
          rfl

/-- The accepted documents have a list of rules in which no entry is wrong. -/
theorem entries_of_success {content : Value} (accepted : (ofContent content).success = true) :
    ∃ fields entries, content = .map fields ∧ Value.find? fields "rules" = some (.list entries) ∧
      ofEntries? 1 [] entries = none := by
  unfold ofContent at accepted
  split at accepted
  · rename_i fields
    split at accepted
    · cases accepted
    · rename_i found
      exact ⟨fields, [], rfl, found, rfl⟩
    · rename_i entries _ found
      refine ⟨fields, entries, rfl, found, ?_⟩
      cases outcome : ofEntries? 1 [] entries with
      | none => rfl
      | some verdict =>
        rw [outcome, Option.getD_some] at accepted
        exact absurd accepted (ne_true_of_eq_false (ofEntries?_refuses outcome))
    · cases accepted
  · cases accepted

end Verdict

/-- A text that validation accepts is a mapping with a list of rules, which have different
identities and no problems. -/
theorem written_of_validate {text : String} {verdict : Verdict}
    (validated : validate text = .ok verdict) (accepted : verdict.success = true) :
    ∃ fields, ∃ written : List Written, Yaml.load text = .ok (.map fields) ∧
      Value.find? fields "rules" = some (.list (written.map (·.entry))) ∧
      (written.map (·.rule.id)).Nodup ∧ ∀ w ∈ written, w.rule.problems = [] := by
  unfold validate Verdict.ofLoaded at validated
  split at validated
  · cases validated
    cases accepted
  · cases validated
  · rename_i content loaded
    cases validated
    obtain ⟨fields, entries, rfl, found, passed⟩ := Verdict.entries_of_success accepted
    obtain ⟨written, rfl, distinct, each⟩ := (Verdict.ofEntries?_eq_none_iff 1 [] entries).mp passed
    exact ⟨fields, written, loaded, found, distinct, fun w member => (each w member).2⟩

end EnrollmentDiagnosis.RuleBook
