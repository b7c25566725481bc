import EnrollmentDiagnosis.Proofs.CanonicalOrder
import EnrollmentDiagnosis.Proofs.DeploymentRuns
import EnrollmentDiagnosis.Proofs.SessionDiagnoses
import EnrollmentDiagnosis.Proofs.SessionStore
import EnrollmentDiagnosis.Proofs.TenantRules

set_option autoImplicit false

namespace EnrollmentDiagnosis

open RuleBook

/-- An answer without the stamps of its diagnoses. -/
def Answer.unstamped : Answer → Answer
  | .diagnoses found => .diagnoses (found.map Diagnosis.unstamped)
  | answer => answer

/-- What a step answers, without stamps. -/
def Step.answer (step : Step) : Except OperationError Answer := step.result.map Answer.unstamped

/-- Unstamping an answer is unstamping its diagnoses. -/
theorem Answer.unstamped_diagnoses {α : Type} (failure : α → OperationError)
    (found : Except α (List Diagnosis)) :
    ((found.map Answer.diagnoses).mapError failure).map Answer.unstamped =
      ((found.map (List.map Diagnosis.unstamped)).map Answer.diagnoses).mapError failure := by
  cases found <;> rfl

/-- Of the diagnoses that are read only the identities of their rules count. -/
theorem SessionAnalysis.gather_unstamped (rules : Except ReadFailure (List Rule))
    (events : Except ReadFailure (List Event)) (diagnoses : Except ReadFailure (List Diagnosis))
    (tenant session : String) :
    gather rules events (diagnoses.map (List.map Diagnosis.unstamped)) tenant session =
      gather rules events diagnoses tenant session := by
  have evaluated : ∀ read : List Diagnosis,
      evaluatedRules (read.map Diagnosis.unstamped) = evaluatedRules read :=
    fun read => List.map_map
  cases diagnoses with
  | error e => rfl
  | ok read => simp only [gather, Except.map, evaluated]

namespace RuleProvider

/-- Two providers of one kind that have the same rules for a tenant. -/
inductive AgreeFor (files : Files) (tenant : String) : RuleProvider → RuleProvider → Prop
  | absent : AgreeFor files tenant .absent .absent
  | memory {first second : RuleStore} (shared : first.globalRules = second.globalRules)
      (own : first.ofTenant tenant = second.ofTenant tenant) :
      AgreeFor files tenant (.memory first) (.memory second)
  | catalogue {first second : Catalogue} (agree : first.AgreeFor files tenant second) :
      AgreeFor files tenant (.catalogue first) (.catalogue second)

variable {files : Files} {tenant : String} {first second third : RuleProvider}

theorem AgreeFor.refl (files : Files) (tenant : String) (provider : RuleProvider) :
    AgreeFor files tenant provider provider := by
  cases provider with
  | absent => exact .absent
  | memory store => exact .memory rfl rfl
  | catalogue catalogue => exact .catalogue (.refl files tenant catalogue)

theorem AgreeFor.symm (agree : AgreeFor files tenant first second) :
    AgreeFor files tenant second first := by
  cases agree with
  | absent => exact .absent
  | memory shared own => exact .memory shared.symm own.symm
  | catalogue agree => exact .catalogue agree.symm

theorem AgreeFor.trans (agree : AgreeFor files tenant first second)
    (next : AgreeFor files tenant second third) : AgreeFor files tenant first third := by
  cases agree with
  | absent => exact next
  | memory shared own =>
    cases next with
    | memory sharedNext ownNext => exact .memory (shared.trans sharedNext) (own.trans ownNext)
  | catalogue agree =>
    cases next with
    | catalogue agreeNext => exact .catalogue (agree.trans agreeNext)

theorem SameRules.agreeFor (same : SameRules files first second) (tenant : String) :
    AgreeFor files tenant first second := by
  unfold SameRules at same
  split at same
  · exact .catalogue (same.agreeFor tenant)
  · rw [same]
    exact .refl files tenant _

theorem AgreeFor.readNow (agree : AgreeFor files tenant first second) :
    first.readNow files tenant = second.readNow files tenant := by
  cases agree with
  | absent => rfl
  | memory shared own => simp only [RuleProvider.readNow, RuleStore.activeRules_congr shared own]
  | catalogue agree => simp only [RuleProvider.readNow, agree.activeNow]

end RuleProvider

namespace Deployment

/-- Two deployments between which a session of a tenant cannot tell. -/
structure Alike (tenant session : String) (first second : Deployment) : Prop where
  evaluator : first.engine.evaluator = second.engine.evaluator
  files : first.files = second.files
  rules : first.rules.AgreeFor first.files tenant second.rules
  events : first.events.sessionEvents tenant session = second.events.sessionEvents tenant session
  diagnoses : first.diagnoses.SameOf tenant session second.diagnoses
  eventOutage : first.eventOutage = second.eventOutage
  diagnosisOutage : first.diagnosisOutage = second.diagnosisOutage
  isStale : first.isStale = second.isStale

variable {tenant session : String} {first second third : Deployment}

theorem Alike.refl (tenant session : String) (state : Deployment) :
    state.Alike tenant session state :=
  ⟨rfl, rfl, .refl _ tenant _, rfl, rfl, rfl, rfl, rfl⟩

theorem Alike.symm (alike : first.Alike tenant session second) :
    second.Alike tenant session first where
  evaluator := alike.evaluator.symm
  files := alike.files.symm
  rules := alike.files ▸ alike.rules.symm
  events := alike.events.symm
  diagnoses := Eq.symm alike.diagnoses
  eventOutage := alike.eventOutage.symm
  diagnosisOutage := alike.diagnosisOutage.symm
  isStale := alike.isStale.symm

theorem Alike.trans (alike : first.Alike tenant session second)
    (next : second.Alike tenant session third) : first.Alike tenant session third where
  evaluator := alike.evaluator.trans next.evaluator
  files := alike.files.trans next.files
  rules := alike.rules.trans (alike.files ▸ next.rules)
  events := alike.events.trans next.events
  diagnoses := Eq.trans alike.diagnoses next.diagnoses
  eventOutage := alike.eventOutage.trans next.eventOutage
  diagnosisOutage := alike.diagnosisOutage.trans next.diagnosisOutage
  isStale := alike.isStale.trans next.isStale

theorem withStamps_alike (state : Deployment) (stampFor : String → Stamp)
    (tenant session : String) : (state.withStamps stampFor).Alike tenant session state :=
  { Alike.refl tenant session state with }

theorem Alike.readEvents (alike : first.Alike tenant session second) :
    first.readEvents tenant session = second.readEvents tenant session := by
  simp only [Deployment.readEvents, alike.eventOutage, alike.events]

/-- Diagnoses are read alike, apart from their stamps. -/
theorem Alike.readDiagnoses (alike : first.Alike tenant session second) :
    (first.readDiagnoses tenant session).map (List.map Diagnosis.unstamped) =
      (second.readDiagnoses tenant session).map (List.map Diagnosis.unstamped) := by
  simp only [Deployment.readDiagnoses, alike.diagnosisOutage, alike.isStale]
  cases second.diagnosisOutage with
  | some reason => rfl
  | none =>
    cases second.isStale with
    | true => rfl
    | false => exact congrArg Except.ok alike.diagnoses

/-- What is analyzed is the same: of stored diagnoses only the identities of their rules count. -/
theorem Alike.material (alike : first.Alike tenant session second) :
    (first.reads tenant session).material tenant session =
      (second.reads tenant session).material tenant session := by
  have rules : first.rules.readNow first.files tenant = second.rules.readNow second.files tenant :=
    alike.rules.readNow.trans (by rw [alike.files])
  simp only [reads, rules, alike.readEvents, SessionAnalysis.Reads.material]
  cases second.rules.readNow second.files tenant with
  | none => rfl
  | some read =>
    simp only [← SessionAnalysis.gather_unstamped read _ (Deployment.readDiagnoses _ _ _),
      alike.readDiagnoses]

/-- The same is found, and stored by both or by none. -/
theorem Alike.outcome (alike : first.Alike tenant session second) (persist : Bool) :
    (first.outcome tenant session persist).1.map (List.map Diagnosis.unstamped) =
        (second.outcome tenant session persist).1.map (List.map Diagnosis.unstamped) ∧
      (first.outcome tenant session persist).2.SameOf tenant session
        (second.outcome tenant session persist).2 := by
  simp only [Deployment.outcome, SessionAnalysis.run, alike.material]
  cases (second.reads tenant session).material tenant session with
  | error e => exact ⟨rfl, alike.diagnoses⟩
  | ok material =>
    -- The engines differ in their stamps at most.
    have engine : first.engine = second.engine.withStamps first.engine.stampFor := by
      rw [Analysis.Engine.withStamps, ← alike.evaluator]
    have found : (SessionAnalysis.diagnose first.engine material tenant session).map
        Diagnosis.unstamped = (SessionAnalysis.diagnose second.engine material tenant session).map
          Diagnosis.unstamped := by
      rw [engine]
      exact SessionAnalysis.diagnose_unstamped _ _ _ tenant session
    have own : ∀ d ∈ SessionAnalysis.diagnose first.engine material tenant session,
        d.isOf tenant session = true :=
      fun d member => Diagnosis.isOf_iff.mpr (SessionAnalysis.mem_diagnose member)
    obtain ⟨stored, same⟩ := DiagnosisStore.insertAll_sameOf alike.diagnoses found own
    cases persist with
    | false => exact ⟨congrArg Except.ok found, alike.diagnoses⟩
    | true => exact ⟨congrArg Except.ok stored, same⟩

end Deployment

/-- Two steps with the same answer, which lead to deployments that are alike. -/
structure Step.Alike (tenant session : String) (first second : Step) : Prop where
  answer : first.answer = second.answer
  state : first.state.Alike tenant session second.state

/-- Steps that are alike have the same answer where answers are compared at all. -/
theorem Step.Alike.compared {tenant session : String} {first second : Step}
    (alike : first.Alike tenant session second) (comparable : Prop) :
    first.state.Alike tenant session second.state ∧
      (comparable → first.answer = second.answer) :=
  ⟨alike.state, fun _ => alike.answer⟩

namespace Deployment

variable {tenant session : String} {first second : Deployment}

/-- An analysis of the session has the same answer in both deployments. -/
theorem Alike.analyze (alike : first.Alike tenant session second) (elapsed other : String)
    (persist : Bool) :
    (first.analyze elapsed tenant session persist).Alike tenant session
      (second.analyze other tenant session persist) := by
  obtain ⟨rules, same, result, after⟩ := analyze_spec first elapsed tenant session persist
  obtain ⟨rulesSecond, sameSecond, resultSecond, afterSecond⟩ :=
    analyze_spec second other tenant session persist
  obtain ⟨found, stored⟩ := alike.outcome persist
  refine ⟨?_, ?_⟩
  · rw [Step.answer, Step.answer, result, resultSecond, Answer.unstamped_diagnoses,
      Answer.unstamped_diagnoses, found]
  · rw [after, afterSecond]
    have agree : rules.AgreeFor first.files tenant rulesSecond :=
      (same.agreeFor tenant).trans
        (alike.rules.trans (alike.files ▸ (sameSecond.agreeFor tenant).symm))
    exact { alike with
      rules := agree
      diagnoses := stored }

end Deployment

end EnrollmentDiagnosis
