import EnrollmentDiagnosis.Store.Diagnoses
import Mathlib.Data.List.Nodup

set_option autoImplicit false

namespace EnrollmentDiagnosis.DiagnosisStore

def keys (store : DiagnosisStore) : List DiagnosisKey := store.diagnoses.map Diagnosis.key

/-- No key is taken twice. -/
def Keyed (store : DiagnosisStore) : Prop := store.keys.Nodup

/-- The stored diagnosis with a key. -/
def find? (store : DiagnosisStore) (key : DiagnosisKey) : Option Diagnosis :=
  store.diagnoses.find? fun d => d.key == key

/-- One store holds all that another one held, at the same places. -/
def Extends (later earlier : DiagnosisStore) : Prop := earlier.diagnoses <+: later.diagnoses

theorem Extends.refl (store : DiagnosisStore) : store.Extends store := List.prefix_refl _

theorem Extends.trans {last middle first : DiagnosisStore} (later : last.Extends middle)
    (earlier : middle.Extends first) : last.Extends first := List.IsPrefix.trans earlier later

theorem has_eq_true_iff (store : DiagnosisStore) (key : DiagnosisKey) :
    store.has key = true ↔ key ∈ store.keys := by
  simp only [has, keys, List.any_eq_true, beq_iff_eq, List.mem_map]

theorem has_eq_false_iff (store : DiagnosisStore) (key : DiagnosisKey) :
    store.has key = false ↔ key ∉ store.keys := by
  rw [← has_eq_true_iff, Bool.not_eq_true]

theorem insert_of_taken {store : DiagnosisStore} {d : Diagnosis} (taken : d.key ∈ store.keys) :
    store.insert d = (store, false) := by
  have present := (has_eq_true_iff store d.key).mpr taken
  simp only [insert, present, ↓reduceIte]

theorem insert_of_fresh {store : DiagnosisStore} {d : Diagnosis} (fresh : d.key ∉ store.keys) :
    store.insert d = (⟨store.diagnoses ++ [d]⟩, true) := by
  have absent := (has_eq_false_iff store d.key).mpr fresh
  simp only [insert, absent, Bool.false_eq_true, ↓reduceIte]

theorem empty_keyed : empty.Keyed := List.nodup_nil

theorem insert_keyed {store : DiagnosisStore} (keyed : store.Keyed) (d : Diagnosis) :
    (store.insert d).1.Keyed := by
  by_cases taken : d.key ∈ store.keys
  · rw [insert_of_taken taken]
    exact keyed
  · rw [insert_of_fresh taken]
    have grown := List.Nodup.concat taken keyed
    simpa only [Keyed, keys, List.map_append, List.map_cons, List.map_nil,
      List.concat_eq_append] using grown

theorem insert_extends (store : DiagnosisStore) (d : Diagnosis) :
    (store.insert d).1.Extends store := by
  by_cases taken : d.key ∈ store.keys
  · rw [insert_of_taken taken]
    exact Extends.refl store
  · rw [insert_of_fresh taken]
    exact List.prefix_append _ _

theorem insertAll_extends (store : DiagnosisStore) (diagnoses : List Diagnosis) :
    (store.insertAll diagnoses).1.Extends store := by
  induction diagnoses generalizing store with
  | nil => exact Extends.refl store
  | cons d rest ih => exact (ih (store.insert d).1).trans (insert_extends store d)

/-- Diagnoses with new and distinct keys are all stored, in their order. -/
theorem insertAll_of_fresh (store : DiagnosisStore) (diagnoses : List Diagnosis)
    (distinct : (diagnoses.map Diagnosis.key).Nodup)
    (fresh : ∀ d ∈ diagnoses, d.key ∉ store.keys) :
    store.insertAll diagnoses = (⟨store.diagnoses ++ diagnoses⟩, diagnoses) := by
  induction diagnoses generalizing store with
  | nil => simp only [insertAll, List.append_nil]
  | cons d rest ih =>
    obtain ⟨apart, distinctRest⟩ := List.nodup_cons.mp distinct
    have freshRest : ∀ e ∈ rest, e.key ∉ (⟨store.diagnoses ++ [d]⟩ : DiagnosisStore).keys := by
      intro e member
      have different : e.key ≠ d.key := by
        intro same
        exact apart (same ▸ List.mem_map_of_mem member)
      have old := fresh e (List.mem_cons_of_mem d member)
      simp only [keys, List.map_append, List.map_cons, List.map_nil, List.mem_append,
        List.mem_singleton, not_or]
      exact ⟨old, different⟩
    simp only [insertAll, insert_of_fresh (fresh d List.mem_cons_self), ih _ distinctRest freshRest,
      List.append_assoc, List.singleton_append, ↓reduceIte]

theorem find?_eq_some_iff {store : DiagnosisStore} (keyed : store.Keyed) (d : Diagnosis) :
    store.find? d.key = some d ↔ d ∈ store.diagnoses := by
  constructor
  · exact List.mem_of_find?_eq_some
  · intro member
    cases found : store.find? d.key with
    | none =>
      have none_has := List.find?_eq_none.mp found d member
      simp at none_has
    | some e =>
      have stored := List.mem_of_find?_eq_some found
      have same : e.key = d.key := by simpa using List.find?_some found
      rw [List.inj_on_of_nodup_map keyed stored member same]

theorem mem_ofSession {store : DiagnosisStore} {tenant session : String} {d : Diagnosis} :
    d ∈ store.ofSession tenant session ↔
      d ∈ store.diagnoses ∧ d.tenant = tenant ∧ d.session = session := by
  simp only [ofSession, List.mem_filter, Bool.and_eq_true, beq_iff_eq]

/-- A key is taken exactly if the session has a diagnosis of the rule. -/
theorem key_mem_keys_iff (store : DiagnosisStore) (tenant session ruleId : String) :
    ⟨tenant, session, ruleId⟩ ∈ store.keys ↔
      ruleId ∈ (store.ofSession tenant session).map (·.ruleId) := by
  simp only [keys, List.mem_map, mem_ofSession, Diagnosis.key, DiagnosisKey.mk.injEq]
  constructor
  · rintro ⟨d, stored, rfl, rfl, rfl⟩
    exact ⟨d, ⟨stored, rfl, rfl⟩, rfl⟩
  · rintro ⟨d, ⟨stored, rfl, rfl⟩, rfl⟩
    exact ⟨d, stored, rfl, rfl, rfl⟩

end EnrollmentDiagnosis.DiagnosisStore
