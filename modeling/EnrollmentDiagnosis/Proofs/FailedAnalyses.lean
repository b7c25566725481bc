import EnrollmentDiagnosis.Proofs.KeptRules
import EnrollmentDiagnosis.Proofs.LateEvents
import EnrollmentDiagnosis.Proofs.ReadsInTurn

set_option autoImplicit false

namespace EnrollmentDiagnosis

open RuleBook

namespace Deployment

/-- Two deployments that differ in nothing but in what their catalogues keep, from which the same is
loaded. -/
inductive LoadsAlike (allowed : Files → Prop) : Deployment → Deployment → Prop
  | same (state : Deployment) : LoadsAlike allowed state state
  | catalogue (state : Deployment) {later earlier : Catalogue}
      (alike : later.LoadsAlike allowed earlier) :
      LoadsAlike allowed { state with rules := .catalogue later }
        { state with rules := .catalogue earlier }

end Deployment

/-- Two steps with the same result, which lead to deployments from which the same is loaded. -/
structure Step.LoadsAlike (allowed : Files → Prop) (later earlier : Step) : Prop where
  result : later.result = earlier.result
  state : later.state.LoadsAlike allowed earlier.state

namespace Deployment

variable {allowed : Files → Prop}

section Steps

variable (state : Deployment) {later earlier : Catalogue}

/-- What both catalogues load is answered alike. -/
theorem LoadsAlike.loaded {α : Type} (answer : α → Answer) {loading other : Loading α}
    (alike : loading.Alike allowed other) :
    (({ state with rules := .catalogue later } : Deployment).loaded answer loading).LoadsAlike
      allowed (({ state with rules := .catalogue earlier } : Deployment).loaded answer other) := by
  refine ⟨?_, .catalogue state alike.catalogue⟩
  simp only [Deployment.loaded, alike.result]

/-- The analysis of a session gives the same with what either catalogue keeps. -/
theorem LoadsAlike.analyze (alike : later.LoadsAlike allowed earlier)
    (permitted : allowed state.files) (elapsed tenant session : String) (persist : Bool) :
    (({ state with rules := .catalogue later } : Deployment).analyze elapsed tenant session
      persist).LoadsAlike allowed
        (({ state with rules := .catalogue earlier } : Deployment).analyze elapsed tenant session
          persist) := by
  have reading := alike.activeRules permitted elapsed elapsed tenant
  have after : ∀ diagnoses, LoadsAlike allowed
      { state with
        rules := .catalogue (later.activeRules elapsed state.files tenant).catalogue
        diagnoses := diagnoses }
      { state with
        rules := .catalogue (earlier.activeRules elapsed state.files tenant).catalogue
        diagnoses := diagnoses } :=
    fun diagnoses => .catalogue { state with diagnoses := diagnoses } reading.catalogue
  unfold Deployment.analyze
  dsimp only
  rw [reading.result]
  exact ⟨rfl, after _⟩

/-- Whatever is done with the one deployment gives what it gives with the other. -/
theorem LoadsAlike.perform {first second : Deployment} (alike : first.LoadsAlike allowed second)
    (permitted : allowed second.files) (elapsed : String) (operation : Operation) :
    (first.perform elapsed operation).LoadsAlike allowed (second.perform elapsed operation) := by
  cases alike with
  | same => exact ⟨rfl, .same _⟩
  | catalogue state alike =>
    cases operation with
    | addEvents events =>
      exact ⟨rfl, .catalogue { state with events := state.events.add events } alike⟩
    | failEvents outage => exact ⟨rfl, .catalogue { state with eventOutage := outage } alike⟩
    | failDiagnoses outage => exact ⟨rfl, .catalogue { state with diagnosisOutage := outage } alike⟩
    | setStale isStale => exact ⟨rfl, .catalogue { state with isStale := isStale } alike⟩
    | storeDiagnosis d =>
      exact ⟨rfl, .catalogue { state with diagnoses := (state.diagnoses.insert d).1 } alike⟩
    | writeFile path text =>
      exact ⟨rfl, .catalogue { state with files := Files.write state.files path text } alike⟩
    | deleteFile path =>
      exact ⟨rfl, .catalogue { state with files := Files.delete state.files path } alike⟩
    | analyze tenant session persist =>
      exact LoadsAlike.analyze state alike permitted elapsed tenant session persist
    | activeRules tenant =>
      exact LoadsAlike.loaded state .rules (alike.activeRules permitted elapsed elapsed tenant)
    | allRules tenant =>
      exact LoadsAlike.loaded state .rules (alike.allRules permitted elapsed elapsed tenant)
    | sharedRules =>
      exact LoadsAlike.loaded state .rules (alike.sharedRules permitted elapsed elapsed)
    | loadFile path =>
      exact LoadsAlike.loaded state .rules (alike.loadFile permitted elapsed elapsed path)
    | addCustomDocument tenant text =>
      exact LoadsAlike.loaded state .count (alike.addDocument tenant text)
    | chooseRule tenant ruleId enabled =>
      exact ⟨rfl, .catalogue state (alike.choose tenant ruleId enabled)⟩
    | addCustomRule tenant rule => exact ⟨rfl, .catalogue state (alike.addRule tenant rule)⟩
    | removeCustomRule tenant ruleId =>
      refine ⟨?_, .catalogue state (alike.removeRule tenant ruleId)⟩
      exact congrArg (fun known => Except.ok (Answer.flag known)) (alike.hasRule tenant ruleId)
    | clearCache => exact ⟨rfl, .catalogue state alike.clearCache⟩
    | readEvents | readDiagnoses | allDiagnoses | report | addRule =>
      exact ⟨rfl, .catalogue state alike⟩

end Steps

/-- The results of requests in turn. -/
def results (state : Deployment) : List Request → List (Except OperationError Answer)
  | [] => []
  | request :: rest => (state.serve request).result :: results (state.serve request).state rest

theorem LoadsAlike.withStamps {first second : Deployment} (alike : first.LoadsAlike allowed second)
    (stampFor : String → Stamp) :
    (first.withStamps stampFor).LoadsAlike allowed (second.withStamps stampFor) := by
  cases alike with
  | same => exact .same _
  | catalogue state alike => exact .catalogue (state.withStamps stampFor) alike

theorem LoadsAlike.serve {first second : Deployment} (alike : first.LoadsAlike allowed second)
    (permitted : allowed second.files) (request : Request) :
    (first.serve request).LoadsAlike allowed (second.serve request) :=
  (alike.withStamps request.stampFor).perform permitted request.elapsed request.operation

/-- As long as the files are allowed, a run on the one deployment has the results that it has on the
other, and leads to deployments from which the same is loaded. -/
theorem LoadsAlike.run {first second : Deployment} (alike : first.LoadsAlike allowed second)
    {run : List Request}
    (permitted : ∀ part, part <+: run → allowed (second.serveAll part).files) :
    first.results run = second.results run ∧
      (first.serveAll run).LoadsAlike allowed (second.serveAll run) := by
  induction run generalizing first second with
  | nil => exact ⟨rfl, alike⟩
  | cons request rest ih =>
    have step := alike.serve (permitted [] List.nil_prefix) request
    obtain ⟨same, later⟩ := ih step.state fun part initial =>
      permitted (request :: part) (List.cons_prefix_cons.mpr ⟨rfl, initial⟩)
    refine ⟨?_, later⟩
    rw [results, results, step.result, same]

/-- Files in which the file with the shared rules of a deployment has the text that it has now. -/
def HasRulesFile (state : Deployment) (files : Files) : Prop :=
  ∀ catalogue path, state.rules = .catalogue catalogue →
    catalogue.settings.sharedPath = some path → files.read? path = state.files.read? path

/-- True if the file with the shared rules has the text that it has now all through a run. -/
def KeepsRulesFile (state : Deployment) (run : List Request) : Prop :=
  ∀ part, part <+: run → state.HasRulesFile (state.serveAll part).files

/-- True if the rules of a tenant cannot be read. -/
def FailsRules (state : Deployment) (tenant : String) : Prop :=
  ∃ failure, state.rules.readNow state.files tenant = some (.error failure)

section Failure

variable (state : Deployment) (elapsed tenant session : String)

/-- The reads in turn leave a deployment from which the same is loaded, as long as the shared file
stays, or in any case if the rules could not be read. -/
theorem gather_loadsAlike
    (unread : state.FailsRules tenant ∨ ∀ files, allowed files → state.HasRulesFile files) :
    ((state.collaborators elapsed tenant session).gather tenant session state).state.LoadsAlike
      allowed state := by
  unfold FailsRules RuleProvider.readNow HasRulesFile at unread
  unfold collaborators
  cases provider : state.rules with
  | absent => exact .same state
  | memory store =>
    rw [SessionAnalysis.Collaborators.gather_state (fun _ => rfl) (fun _ => rfl)]
    exact .same state
  | catalogue catalogue =>
    rw [SessionAnalysis.Collaborators.gather_state (fun _ => rfl) (fun _ => rfl)]
    rw [provider] at unread
    have kept : (catalogue.activeRules elapsed state.files tenant).catalogue.LoadsAlike allowed
        catalogue := by
      refine catalogue.activeRules_loadsAlike elapsed state.files tenant (unread.imp ?_ ?_)
      · rintro ⟨failure, failed⟩
        rw [(catalogue.activeRules_spec elapsed state.files tenant).1]
        cases read : catalogue.activeNow state.files tenant with
        | error e => exact ⟨e, rfl⟩
        | ok rules =>
          simp only [read] at failed
          cases failed
      · exact fun stays files permitted path shared =>
          stays files permitted catalogue path rfl shared
    have self : state = { state with rules := .catalogue catalogue } := by rw [← provider]
    have alike : LoadsAlike allowed { state with
        rules := .catalogue (catalogue.activeRules elapsed state.files tenant).catalogue }
        { state with rules := .catalogue catalogue } := .catalogue state kept
    rwa [← self] at alike

theorem LoadsAlike.mono {first second : Deployment} {fewer : Files → Prop}
    (alike : first.LoadsAlike allowed second) (part : ∀ files, fewer files → allowed files) :
    first.LoadsAlike fewer second := by
  cases alike with
  | same => exact .same _
  | catalogue state alike => exact .catalogue state (alike.mono part)

/-- What an analysis that failed leaves of a deployment. All but the rules stays, and of the rules
all but what is kept of loaded ones. Whatever is done then has the results that it would have had
without the analysis, and leads to the same, unless shared rules were read from a file and the file
changes. -/
structure LeavesNoTrace (after : Deployment) : Prop where
  stays : ∃ rules, rules.SameRules state.files state.rules ∧ after = { state with rules := rules }
  later : ∀ run, state.FailsRules tenant ∨ state.KeepsRulesFile run →
    after.results run = state.results run ∧
      (after.serveAll run).LoadsAlike (· = (state.serveAll run).files) (state.serveAll run)

theorem leavesNoTrace_of_error {persist : Bool} {error : OperationError}
    (failed : (state.analyze elapsed tenant session persist).result = .error error) :
    state.LeavesNoTrace tenant (state.analyze elapsed tenant session persist).state := by
  refine ⟨?_, fun run unread => ?_⟩
  · obtain ⟨rules, same, result, after⟩ := analyze_spec state elapsed tenant session persist
    refine ⟨rules, same, ?_⟩
    rw [result] at failed
    cases outcome : (state.outcome tenant session persist).1 with
    | error e =>
      have stored : (state.outcome tenant session persist).2 = state.diagnoses :=
        SessionAnalysis.store_of_run_error _ _ _ _ _ _ outcome
      rw [after, stored]
    | ok found =>
      rw [outcome] at failed
      cases failed
  · rw [state_of_analyze_error state elapsed tenant session failed]
    -- Files on which the two deployments agree, among them those of the run.
    have agreeing : ∃ allowed : Files → Prop,
        (state.FailsRules tenant ∨ ∀ files, allowed files → state.HasRulesFile files) ∧
          ∀ part, part <+: run → allowed (state.serveAll part).files := by
      rcases unread with fails | keeps
      · exact ⟨fun _ => True, .inl fails, fun _ _ => trivial⟩
      · exact ⟨state.HasRulesFile, .inr fun _ has => has, keeps⟩
    obtain ⟨allowed, agrees, during⟩ := agreeing
    obtain ⟨same, alike⟩ := (gather_loadsAlike state elapsed tenant session agrees).run during
    refine ⟨same, alike.mono fun files now => ?_⟩
    rw [now]
    exact during run (List.prefix_refl run)

end Failure

/-- An analysis fails exactly by its reads, the first one that fails decides how, and a failed
analysis leaves no trace. This holds with all collaborators, for which reads may change what they
read from, and it holds for all deployments. -/
theorem failed_analysis_leaves_no_trace {σ : Type}
    (collaborators : SessionAnalysis.Collaborators σ) (before : σ) (engine : Analysis.Engine)
    (store : DiagnosisStore) (state : Deployment) (elapsed tenant session : String)
    (persist : Bool) :
    (∀ e, (SessionAnalysis.run engine (collaborators.offered before) store tenant session
          persist).1 = .error e ↔
        (collaborators.offered before).FailsWith tenant session e
          (collaborators.gather tenant session before).made) ∧
      (∀ e, (SessionAnalysis.run engine (collaborators.offered before) store tenant session
          persist).1 = .error e →
        (SessionAnalysis.run engine (collaborators.offered before) store tenant session
          persist).2 = store ∧
        (e = .incomplete → (collaborators.gather tenant session before).state = before)) ∧
      (∀ error, (state.analyze elapsed tenant session persist).result = .error error ↔
        ∃ e, error = .session e ∧ (state.reads tenant session).FailsWith tenant session e
          ((state.collaborators elapsed tenant session).gather tenant session state).made) ∧
      (∀ error, (state.analyze elapsed tenant session persist).result = .error error →
        state.LeavesNoTrace tenant (state.analyze elapsed tenant session persist).state ∧
        (error = .session .incomplete →
          (state.analyze elapsed tenant session persist).state = state)) := by
  have gathered : ∀ e, (SessionAnalysis.run engine (collaborators.offered before) store tenant
      session persist).1 = .error e ↔
        (collaborators.gather tenant session before).result = .error e := by
    intro e
    rw [SessionAnalysis.run_error_iff, SessionAnalysis.Collaborators.gather_result]
  refine ⟨fun e => ?_, fun e failed => ?_, analyze_error_iff state elapsed tenant session persist,
    fun error failed => ?_⟩
  · rw [gathered, SessionAnalysis.Collaborators.gather_error_iff]
  · exact ⟨SessionAnalysis.store_of_run_error _ _ _ _ _ _ failed,
      (collaborators.failsWith_of_gather ((gathered e).mp failed)).2⟩
  · refine ⟨leavesNoTrace_of_error state elapsed tenant session failed, ?_⟩
    rintro rfl
    obtain ⟨e, same, fails⟩ := (analyze_error_iff state elapsed tenant session persist _).mp failed
    cases same
    rw [state_of_analyze_error state elapsed tenant session failed]
    rw [← state.offered_collaborators elapsed tenant session] at fails
    exact (SessionAnalysis.Collaborators.failsWith_of_gather _
      ((SessionAnalysis.Collaborators.gather_error_iff _ tenant session state _).mpr fails)).2 rfl

/-- A deployment in which one session has a stall, and events cannot be read. -/
def stalledOutage : Deployment where
  engine := ⟨Condition.evaluator default, fun _ => default⟩
  maxEvents := 10
  rules := .catalogue
    { settings := ⟨false, none, true, 40⟩
      cache := []
      choices := []
      tenantRules := [("t", Analysis.stallRule)] }
  files := []
  events := ⟨[{ Analysis.stall 1 with tenant := "t", session := "s" }]⟩
  diagnoses := .empty
  eventOutage := some fun _ => .other "store down"
  diagnosisOutage := none
  isStale := false

/-- The session is analyzed again when events can be read. -/
def retried : List Request :=
  [⟨"", fun _ => default, .failEvents none⟩, ⟨"", fun _ => default, .analyze "t" "s" true⟩]

/-- The analysis that fails for want of events does not change what the next one comes to. -/
theorem stalled_outage_leaves_no_trace :
    (stalledOutage.analyze "" "t" "s" true).result =
        .error (.session (.fetch ⟨"events", "t", some "s", "store down"⟩)) ∧
      (stalledOutage.analyze "" "t" "s" true).state.results retried =
        stalledOutage.results retried := by
  have failed : (stalledOutage.analyze "" "t" "s" true).result =
      .error (.session (.fetch ⟨"events", "t", some "s", "store down"⟩)) := rfl
  have stays : stalledOutage.KeepsRulesFile retried := by
    intro part _ catalogue path provider shared
    cases provider
    cases shared
  obtain ⟨-, -, -, traceless⟩ := failed_analysis_leaves_no_trace
    (SessionAnalysis.Reads.given ⟨none, none, none⟩) () stalledOutage.engine .empty stalledOutage
    "" "t" "s" true
  exact ⟨failed, ((traceless _ failed).1.later retried (.inr stays)).1⟩

example : (stalledOutage.results retried).map (fun result => result.toOption.map fun
    | .diagnoses found => found.map (·.confidence)
    | _ => []) = [some [], some [60]] := by decide +kernel

end Deployment

end EnrollmentDiagnosis
