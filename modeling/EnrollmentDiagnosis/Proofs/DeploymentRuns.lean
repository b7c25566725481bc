import EnrollmentDiagnosis.Deployment
import EnrollmentDiagnosis.Proofs.DiagnosisKeys
import EnrollmentDiagnosis.Proofs.DiagnosisStamps
import EnrollmentDiagnosis.Proofs.RuleReading

set_option autoImplicit false

namespace EnrollmentDiagnosis

open RuleBook

namespace RuleProvider

/-- What reading the rules of a tenant gives; none where there is nothing to read from. -/
def readNow (provider : RuleProvider) (files : Files) (tenant : String) :
    Option (Except ReadFailure (List Rule)) :=
  match provider with
  | .absent => none
  | .memory store => some (.ok (store.activeRules tenant))
  | .catalogue kept =>
    some ((kept.activeNow files tenant).mapError fun e => .other e.message)

/-- The same rules are read from one provider as from another, and it takes changes as well. -/
def SameRules (files : Files) : RuleProvider → RuleProvider → Prop
  | .catalogue later, .catalogue earlier => later.SameRules files earlier
  | later, earlier => later = earlier

theorem SameRules.refl (files : Files) (provider : RuleProvider) :
    SameRules files provider provider := by
  cases provider with
  | absent => rfl
  | memory store => rfl
  | catalogue catalogue => exact Catalogue.SameRules.refl files catalogue

theorem SameRules.readNow {files : Files} {later earlier : RuleProvider}
    (same : SameRules files later earlier) (tenant : String) :
    later.readNow files tenant = earlier.readNow files tenant := by
  unfold SameRules at same
  split at same
  · simp only [RuleProvider.readNow, same.activeNow]
  · rw [same]

end RuleProvider

namespace Deployment

variable (state : Deployment) (elapsed tenant session : String) (persist : Bool)

/-- What the reads of an analysis give. -/
def reads : SessionAnalysis.Reads :=
  ⟨state.rules.readNow state.files tenant, some (state.readEvents tenant session),
    some (state.readDiagnoses tenant session)⟩

/-- What an analysis of a session comes to by its reads. -/
def outcome : Except SessionError (List Diagnosis) × DiagnosisStore :=
  SessionAnalysis.run state.engine (state.reads tenant session) state.diagnoses tenant session
    persist

/-- An analysis has the outcome of its reads. Of its state it changes the stored diagnoses and what
is kept of rules, which are read as before. -/
theorem analyze_spec :
    ∃ rules, rules.SameRules state.files state.rules ∧
      (state.analyze elapsed tenant session persist).result =
        ((state.outcome tenant session persist).1.map Answer.diagnoses).mapError .session ∧
      (state.analyze elapsed tenant session persist).state =
        { state with rules := rules, diagnoses := (state.outcome tenant session persist).2 } := by
  unfold analyze outcome reads
  split
  · rename_i provider
    refine ⟨.absent, ?_, ?_, ?_⟩
    · rw [provider]
      exact .refl _ _
    · rw [provider]
      rfl
    · rw [provider]
      simp only [analyzeWith, provider, RuleProvider.readNow]
  · rename_i store provider
    refine ⟨.memory store, ?_, ?_, ?_⟩
    · rw [provider]
      exact .refl _ _
    · rw [provider]
      rfl
    · rw [provider]
      simp only [analyzeWith, provider, RuleProvider.readNow]
  · rename_i catalogue provider
    obtain ⟨read, same⟩ := Catalogue.activeRules_spec catalogue elapsed state.files tenant
    refine ⟨.catalogue (catalogue.activeRules elapsed state.files tenant).catalogue, ?_, ?_, ?_⟩
    · rw [provider]
      exact same
    · simp only [analyzeWith, provider, RuleProvider.readNow, ← read]
      rfl
    · simp only [analyzeWith, provider, RuleProvider.readNow, ← read]
      rfl

/-- What stays through all operations: conditions are evaluated alike, and what is stored stays. -/
structure Follows (later earlier : Deployment) : Prop where
  evaluator : later.engine.evaluator = earlier.engine.evaluator
  diagnoses : later.diagnoses.Extends earlier.diagnoses

theorem Follows.of_same {later earlier : Deployment} (engine : later.engine = earlier.engine)
    (diagnoses : later.diagnoses = earlier.diagnoses) : later.Follows earlier := by
  refine ⟨congrArg Analysis.Engine.evaluator engine, ?_⟩
  rw [diagnoses]
  exact DiagnosisStore.Extends.refl _

theorem Follows.trans {last middle first : Deployment} (later : last.Follows middle)
    (earlier : middle.Follows first) : last.Follows first :=
  ⟨later.evaluator.trans earlier.evaluator, later.diagnoses.trans earlier.diagnoses⟩

theorem onCatalogue_follows {act : Catalogue → Step}
    (follows : ∀ catalogue, (act catalogue).state.Follows state) :
    (state.onCatalogue act).state.Follows state := by
  unfold onCatalogue
  split
  · exact follows _
  · exact .of_same rfl rfl

theorem outcome_extends : (state.outcome tenant session persist).2.Extends state.diagnoses := by
  unfold outcome SessionAnalysis.run
  split
  · exact DiagnosisStore.Extends.refl _
  · split
    · exact DiagnosisStore.insertAll_extends _ _
    · exact DiagnosisStore.Extends.refl _

theorem perform_follows (operation : Operation) :
    (state.perform elapsed operation).state.Follows state := by
  cases operation with
  | analyze tenant session persist =>
    obtain ⟨rules, same, result, after⟩ := analyze_spec state elapsed tenant session persist
    simp only [perform, after]
    exact ⟨rfl, outcome_extends state tenant session persist⟩
  | storeDiagnosis d => exact ⟨rfl, DiagnosisStore.insert_extends _ _⟩
  | addRule tenant rule =>
    simp only [perform]
    split <;> exact .of_same rfl rfl
  | activeRules tenant =>
    simp only [perform]
    split
    · exact .of_same rfl rfl
    · exact onCatalogue_follows state fun _ => .of_same rfl rfl
  | allRules | sharedRules | loadFile | chooseRule | addCustomRule | addCustomDocument
  | removeCustomRule | clearCache =>
    exact onCatalogue_follows state fun _ => .of_same rfl rfl
  | _ => exact .of_same rfl rfl

/-- The same deployment with other stamps for new diagnoses. -/
def withStamps (stampFor : String → Stamp) : Deployment :=
  { state with engine := state.engine.withStamps stampFor }

end Deployment

/-- An operation with the stamps for its diagnoses and the time that it takes. -/
structure Request where
  elapsed : String
  stampFor : String → Stamp
  operation : Operation

namespace Deployment

def serve (state : Deployment) (request : Request) : Step :=
  (state.withStamps request.stampFor).perform request.elapsed request.operation

/-- The state after requests in turn. -/
def serveAll (state : Deployment) (requests : List Request) : Deployment :=
  requests.foldl (fun state request => (state.serve request).state) state

theorem serve_follows (state : Deployment) (request : Request) :
    (state.serve request).state.Follows state :=
  (perform_follows _ request.elapsed request.operation).trans ⟨rfl, .refl _⟩

theorem serveAll_follows (state : Deployment) (requests : List Request) :
    (state.serveAll requests).Follows state := by
  induction requests generalizing state with
  | nil => exact .of_same rfl rfl
  | cons request rest ih =>
    exact (ih (state.serve request).state).trans (serve_follows state request)

end Deployment

end EnrollmentDiagnosis
