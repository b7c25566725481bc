import EnrollmentDiagnosis.Proofs.CanonicalOrder
import EnrollmentDiagnosis.Proofs.DiagnosisKeys
import EnrollmentDiagnosis.Proofs.DiagnosisStamps
import EnrollmentDiagnosis.Store.Events

set_option autoImplicit false

namespace EnrollmentDiagnosis

/-- True for an event of a tenant's session. -/
def Event.isOf (tenant session : String) (e : Event) : Bool :=
  e.tenant == tenant && e.session == session

namespace EventStore

theorem arrivals_add (store : EventStore) (events : List Event) (tenant session : String) :
    (store.add events).arrivals tenant session =
      store.arrivals tenant session ++ events.filter (·.isOf tenant session) :=
  List.filter_append store.events events

/-- Stores that read a session alike go on to do so with events that are sorted alike. -/
theorem sessionEvents_add_congr {first second : EventStore} {events others : List Event}
    {tenant session : String}
    (same : first.sessionEvents tenant session = second.sessionEvents tenant session)
    (sorted : Event.sort (events.filter (·.isOf tenant session)) =
      Event.sort (others.filter (·.isOf tenant session))) :
    (first.add events).sessionEvents tenant session =
      (second.add others).sessionEvents tenant session := by
  unfold sessionEvents at same ⊢
  rw [arrivals_add, arrivals_add, Event.sort_append_congr same]
  rw [Event.sort_eq_iff] at sorted ⊢
  intro time sequence
  rw [Event.tied_append, Event.tied_append, sorted]

end EventStore

/-- True for a diagnosis of a tenant's session. -/
def Diagnosis.isOf (tenant session : String) (d : Diagnosis) : Bool :=
  d.tenant == tenant && d.session == session

theorem Diagnosis.isOf_iff {tenant session : String} {d : Diagnosis} :
    d.isOf tenant session = true ↔ d.tenant = tenant ∧ d.session = session := by
  simp only [isOf, Bool.and_eq_true, beq_iff_eq]

/-- A stamp is no part of a key. -/
theorem Diagnosis.key_of_unstamped {d e : Diagnosis} (alike : d.unstamped = e.unstamped) :
    d.key = e.key := by
  have same : d.unstamped.key = e.unstamped.key := congrArg Diagnosis.key alike
  exact same

theorem Diagnosis.isOf_of_unstamped {tenant session : String} {d e : Diagnosis}
    (alike : d.unstamped = e.unstamped) : d.isOf tenant session = e.isOf tenant session := by
  have sameTenant : d.tenant = e.tenant := congrArg DiagnosisKey.tenant (key_of_unstamped alike)
  have sameSession : d.session = e.session := congrArg DiagnosisKey.session (key_of_unstamped alike)
  simp only [isOf, sameTenant, sameSession]

namespace DiagnosisStore

variable {tenant session : String}

theorem ofSession_concat_own {d : Diagnosis} (own : d.isOf tenant session = true)
    (diagnoses : List Diagnosis) :
    (⟨diagnoses ++ [d]⟩ : DiagnosisStore).ofSession tenant session =
      (⟨diagnoses⟩ : DiagnosisStore).ofSession tenant session ++ [d] := by
  simp only [ofSession, List.filter_append]
  exact congrArg _ (List.filter_cons_of_pos own)

theorem ofSession_concat_other {d : Diagnosis} (other : ¬d.isOf tenant session = true)
    (diagnoses : List Diagnosis) :
    (⟨diagnoses ++ [d]⟩ : DiagnosisStore).ofSession tenant session =
      (⟨diagnoses⟩ : DiagnosisStore).ofSession tenant session := by
  simp only [ofSession, List.filter_append]
  exact (congrArg _ (List.filter_cons_of_neg other)).trans (List.append_nil _)

theorem ofSession_insert_other {d : Diagnosis} (other : ¬d.isOf tenant session = true)
    (store : DiagnosisStore) :
    (store.insert d).1.ofSession tenant session = store.ofSession tenant session := by
  by_cases taken : d.key ∈ store.keys
  · rw [insert_of_taken taken]
  · rw [insert_of_fresh taken]
    exact ofSession_concat_other other store.diagnoses

theorem ofSession_insertAll_other (diagnoses : List Diagnosis)
    (others : ∀ d ∈ diagnoses, ¬d.isOf tenant session = true) (store : DiagnosisStore) :
    (store.insertAll diagnoses).1.ofSession tenant session = store.ofSession tenant session := by
  induction diagnoses generalizing store with
  | nil => rfl
  | cons d rest ih =>
    exact (ih (fun e member => others e (List.mem_cons_of_mem _ member)) (store.insert d).1).trans
      (ofSession_insert_other (others d List.mem_cons_self) store)

/-- Two stores that hold the same diagnoses of a session, apart from their stamps. -/
def SameOf (tenant session : String) (first second : DiagnosisStore) : Prop :=
  (first.ofSession tenant session).map Diagnosis.unstamped =
    (second.ofSession tenant session).map Diagnosis.unstamped

theorem SameOf.ruleIds {first second : DiagnosisStore} (same : SameOf tenant session first second) :
    (first.ofSession tenant session).map (·.ruleId) =
      (second.ofSession tenant session).map (·.ruleId) := by
  have named := congrArg (List.map (·.ruleId)) same
  rwa [List.map_map, List.map_map] at named

/-- A key of the session is taken in both stores or in none of them. -/
theorem SameOf.taken_iff {first second : DiagnosisStore} (same : SameOf tenant session first second)
    {d e : Diagnosis} (alike : d.unstamped = e.unstamped) (own : d.isOf tenant session = true) :
    d.key ∈ first.keys ↔ e.key ∈ second.keys := by
  obtain ⟨rfl, rfl⟩ := Diagnosis.isOf_iff.mp own
  rw [← Diagnosis.key_of_unstamped alike, Diagnosis.key, key_mem_keys_iff, key_mem_keys_iff,
    same.ruleIds]

/-- Both stores take a diagnosis of the session, or none of them does. -/
theorem insert_sameOf {first second : DiagnosisStore} (same : SameOf tenant session first second)
    {d e : Diagnosis} (alike : d.unstamped = e.unstamped) (own : d.isOf tenant session = true) :
    (first.insert d).2 = (second.insert e).2 ∧
      SameOf tenant session (first.insert d).1 (second.insert e).1 := by
  have ownSecond : e.isOf tenant session = true := Diagnosis.isOf_of_unstamped alike ▸ own
  by_cases taken : d.key ∈ first.keys
  · rw [insert_of_taken taken, insert_of_taken ((same.taken_iff alike own).mp taken)]
    exact ⟨rfl, same⟩
  · have fresh : e.key ∉ second.keys := fun stored => taken ((same.taken_iff alike own).mpr stored)
    rw [insert_of_fresh taken, insert_of_fresh fresh]
    refine ⟨rfl, ?_⟩
    unfold SameOf at same ⊢
    rw [ofSession_concat_own own, ofSession_concat_own ownSecond, List.map_append,
      List.map_append, same]
    exact congrArg (_ ++ [·]) alike

theorem insertAll_sameOf {first second : DiagnosisStore}
    (same : SameOf tenant session first second) {diagnoses others : List Diagnosis}
    (alike : diagnoses.map Diagnosis.unstamped = others.map Diagnosis.unstamped)
    (own : ∀ d ∈ diagnoses, d.isOf tenant session = true) :
    (first.insertAll diagnoses).2.map Diagnosis.unstamped =
        (second.insertAll others).2.map Diagnosis.unstamped ∧
      SameOf tenant session (first.insertAll diagnoses).1 (second.insertAll others).1 := by
  induction diagnoses generalizing first second others with
  | nil =>
    cases others with
    | nil => exact ⟨rfl, same⟩
    | cons e rest => cases alike
  | cons d rest ih =>
    cases others with
    | nil => cases alike
    | cons e tail =>
      obtain ⟨alikeHead, alikeTail⟩ := List.cons.inj alike
      obtain ⟨inserted, sameNext⟩ := insert_sameOf same alikeHead (own d List.mem_cons_self)
      obtain ⟨stored, sameLast⟩ :=
        ih sameNext alikeTail fun f member => own f (List.mem_cons_of_mem _ member)
      refine ⟨?_, sameLast⟩
      simp only [insertAll, inserted]
      split
      · rw [List.map_cons, List.map_cons, alikeHead, stored]
      · exact stored

end DiagnosisStore

end EnrollmentDiagnosis
