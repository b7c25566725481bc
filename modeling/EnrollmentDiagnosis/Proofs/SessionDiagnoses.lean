import EnrollmentDiagnosis.Proofs.DiagnosisKeys
import EnrollmentDiagnosis.Proofs.DiagnosisStamps
import EnrollmentDiagnosis.SessionAnalysis

set_option autoImplicit false

namespace EnrollmentDiagnosis.SessionAnalysis

theorem mem_diagnose {engine : Analysis.Engine} {material : Material} {tenant session : String}
    {d : Diagnosis} (member : d ∈ diagnose engine material tenant session) :
    d.tenant = tenant ∧ d.session = session := by
  obtain ⟨found, _, rfl⟩ := List.mem_map.mp member
  exact ⟨rfl, rfl⟩

theorem diagnose_keys (engine : Analysis.Engine) (material : Material) (tenant session : String) :
    (diagnose engine material tenant session).map Diagnosis.key =
      ((Analysis.analyze engine material.rules material.events material.evaluated).map
        (·.ruleId)).map (DiagnosisKey.mk tenant session) := by
  simp only [diagnose, List.map_map]
  rfl

theorem diagnose_keys_nodup (engine : Analysis.Engine) (material : Material)
    (tenant session : String) :
    ((diagnose engine material tenant session).map Diagnosis.key).Nodup := by
  rw [diagnose_keys]
  refine (Analysis.analyze_ruleIds_nodup _ _ _ _).map fun first second same => ?_
  exact congrArg DiagnosisKey.ruleId same

/-- What is stored for a session is not found again. -/
theorem diagnose_fresh {engine : Analysis.Engine} {rules : List Rule} {events : List Event}
    {store : DiagnosisStore} {tenant session : String} {d : Diagnosis}
    (member : d ∈ diagnose engine ⟨rules, events, evaluatedRules (store.ofSession tenant session)⟩
      tenant session) : d.key ∉ store.keys := by
  obtain ⟨found, fired, rfl⟩ := List.mem_map.mp member
  have outside := Analysis.ruleId_notMem_evaluated fired
  intro stored
  exact outside ((store.key_mem_keys_iff tenant session found.ruleId).mp stored)

theorem diagnose_unstamped (engine : Analysis.Engine) (stampFor : String → Stamp)
    (material : Material) (tenant session : String) :
    (diagnose (engine.withStamps stampFor) material tenant session).map Diagnosis.unstamped =
      (diagnose engine material tenant session).map Diagnosis.unstamped := by
  have same := congrArg (List.map (·.addressedTo tenant session)) (Analysis.analyze_unstamped engine
    stampFor material.rules material.events material.evaluated)
  simpa only [diagnose, List.map_map, Function.comp_def, Diagnosis.unstamped_addressedTo] using same

end EnrollmentDiagnosis.SessionAnalysis
