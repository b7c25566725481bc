import EnrollmentDiagnosis.Proofs.AnalysisLoop
import EnrollmentDiagnosis.Proofs.DeploymentRuns
import EnrollmentDiagnosis.Proofs.SessionDiagnoses

set_option autoImplicit false

namespace EnrollmentDiagnosis

namespace Deployment

/-- No read fails, and stored diagnoses are seen. -/
structure ReadsCurrent (state : Deployment) : Prop where
  events : state.eventOutage = none
  diagnoses : state.diagnosisOutage = none
  seen : state.isStale = false

/-- What an analysis of a session with some rules finds. -/
def newDiagnoses (state : Deployment) (rules : List Rule) (tenant session : String) :
    List Diagnosis :=
  SessionAnalysis.diagnose state.engine ⟨rules, state.events.sessionEvents tenant session,
    SessionAnalysis.evaluatedRules (state.diagnoses.ofSession tenant session)⟩ tenant session

theorem newDiagnoses_unstamped (state : Deployment) (stampFor : String → Stamp)
    (rules : List Rule) (tenant session : String) :
    ((state.withStamps stampFor).newDiagnoses rules tenant session).map Diagnosis.unstamped =
      (state.newDiagnoses rules tenant session).map Diagnosis.unstamped :=
  SessionAnalysis.diagnose_unstamped state.engine stampFor _ tenant session

variable {state : Deployment} {rules : List Rule} {tenant session : String}

theorem diagnose_material (current : state.ReadsCurrent)
    (read : state.rules.readNow state.files tenant = some (.ok rules)) (session : String) :
    ∃ material, (state.reads tenant session).material tenant session = .ok material ∧
      SessionAnalysis.diagnose state.engine material tenant session =
        state.newDiagnoses rules tenant session := by
  simp only [reads, read, readEvents, readDiagnoses, current.events, current.diagnoses,
    current.seen, SessionAnalysis.Reads.material, SessionAnalysis.gather, newDiagnoses,
    Bool.false_eq_true, ↓reduceIte]
  cases state.events.sessionEvents tenant session with
  | nil => exact ⟨_, rfl, rfl⟩
  | cons first rest => exact ⟨_, rfl, rfl⟩

/-- With current reads every new diagnosis is found, and stored behind all others if asked. -/
theorem outcome_of_current (current : state.ReadsCurrent)
    (read : state.rules.readNow state.files tenant = some (.ok rules)) (persist : Bool) :
    state.outcome tenant session persist = (.ok (state.newDiagnoses rules tenant session),
      if persist then ⟨state.diagnoses.diagnoses ++ state.newDiagnoses rules tenant session⟩
      else state.diagnoses) := by
  obtain ⟨material, gathered, found⟩ := diagnose_material current read session
  have stored : state.diagnoses.insertAll (state.newDiagnoses rules tenant session) =
      (⟨state.diagnoses.diagnoses ++ state.newDiagnoses rules tenant session⟩,
        state.newDiagnoses rules tenant session) :=
    state.diagnoses.insertAll_of_fresh _
      (SessionAnalysis.diagnose_keys_nodup _ _ tenant session)
      fun d member => SessionAnalysis.diagnose_fresh member
  simp only [outcome, SessionAnalysis.run, gathered, found, stored]
  cases persist <;> rfl

theorem analyze_of_current (current : state.ReadsCurrent)
    (read : state.rules.readNow state.files tenant = some (.ok rules)) (elapsed : String)
    (persist : Bool) :
    (state.analyze elapsed tenant session persist).result =
        .ok (.diagnoses (state.newDiagnoses rules tenant session)) ∧
      (state.analyze elapsed tenant session persist).state.diagnoses =
        if persist then ⟨state.diagnoses.diagnoses ++ state.newDiagnoses rules tenant session⟩
        else state.diagnoses := by
  obtain ⟨provider, same, result, after⟩ := analyze_spec state elapsed tenant session persist
  rw [result, after, outcome_of_current current read]
  exact ⟨rfl, rfl⟩

/-- Once what was found is stored, nothing is found again under the same rules and events. -/
theorem newDiagnoses_settled {later : Deployment}
    (evaluator : later.engine.evaluator = state.engine.evaluator)
    (events : later.events.sessionEvents tenant session =
      state.events.sessionEvents tenant session)
    (stored : later.diagnoses.Extends
      ⟨state.diagnoses.diagnoses ++ state.newDiagnoses rules tenant session⟩) :
    later.newDiagnoses rules tenant session = [] := by
  have engine : later.engine = state.engine.withStamps later.engine.stampFor := by
    rw [Analysis.Engine.withStamps, ← evaluator]
  have part : SessionAnalysis.evaluatedRules (state.diagnoses.ofSession tenant session) ⊆
      SessionAnalysis.evaluatedRules (later.diagnoses.ofSession tenant session) := by
    intro ruleId member
    obtain ⟨d, old, rfl⟩ := List.mem_map.mp member
    obtain ⟨kept, ofTenant, ofSession⟩ := DiagnosisStore.mem_ofSession.mp old
    have keptLater := stored.subset (List.mem_append_left _ kept)
    exact List.mem_map_of_mem (DiagnosisStore.mem_ofSession.mpr ⟨keptLater, ofTenant, ofSession⟩)
  have covered : ∀ d ∈ Analysis.analyze later.engine rules
      (state.events.sessionEvents tenant session)
      (SessionAnalysis.evaluatedRules (state.diagnoses.ofSession tenant session)),
      d.ruleId ∈ SessionAnalysis.evaluatedRules (later.diagnoses.ofSession tenant session) := by
    intro d fired
    have named := List.mem_map_of_mem (f := (·.ruleId)) fired
    rw [engine, Analysis.analyze_ruleIds_withStamps] at named
    obtain ⟨found, firedBefore, same⟩ := List.mem_map.mp named
    have new : found.addressedTo tenant session ∈ state.newDiagnoses rules tenant session :=
      List.mem_map_of_mem firedBefore
    have keptLater := stored.subset (List.mem_append_right _ new)
    have seen := DiagnosisStore.mem_ofSession.mpr ⟨keptLater, rfl, rfl⟩
    rw [← same]
    exact List.mem_map_of_mem (f := (·.ruleId)) seen
  have nothing : Analysis.analyze later.engine rules (state.events.sessionEvents tenant session)
      (SessionAnalysis.evaluatedRules (later.diagnoses.ofSession tenant session)) = [] := by
    rw [Analysis.analyze_of_subset _ _ _ part, List.filter_eq_nil_iff]
    intro d fired
    simpa using covered d fired
  simp only [newDiagnoses, SessionAnalysis.diagnose, events, nothing, List.map_nil]

/-- A session has current reads, of the same rules and events as before. -/
structure SameReading (later earlier : Deployment) (tenant session : String) : Prop where
  current : later.ReadsCurrent
  rules : later.rules.readNow later.files tenant = earlier.rules.readNow earlier.files tenant
  events : later.events.sessionEvents tenant session = earlier.events.sessionEvents tenant session

theorem SameReading.trans {last middle first : Deployment} {tenant session : String}
    (later : last.SameReading middle tenant session)
    (earlier : middle.SameReading first tenant session) : last.SameReading first tenant session :=
  ⟨later.current, later.rules.trans earlier.rules, later.events.trans earlier.events⟩

theorem analyze_sameReading (current : state.ReadsCurrent)
    (elapsed ofTenant ofSession : String) (persist : Bool) (tenant session : String) :
    (state.analyze elapsed ofTenant ofSession persist).state.SameReading state tenant session := by
  obtain ⟨provider, same, result, after⟩ := analyze_spec state elapsed ofTenant ofSession persist
  rw [after]
  exact ⟨⟨current.events, current.diagnoses, current.seen⟩, same.readNow tenant, rfl⟩

end Deployment

def Request.IsAnalysis (request : Request) : Prop :=
  ∃ tenant session persist, request.operation = .analyze tenant session persist

namespace Deployment

/-- Analyses of any sessions change no reading. -/
theorem serveAll_sameReading {state : Deployment} (current : state.ReadsCurrent)
    (requests : List Request) (analyses : ∀ request ∈ requests, request.IsAnalysis)
    (tenant session : String) :
    (state.serveAll requests).SameReading state tenant session := by
  induction requests generalizing state with
  | nil => exact ⟨current, rfl, rfl⟩
  | cons request rest ih =>
    obtain ⟨ofTenant, ofSession, persist, isAnalysis⟩ := analyses request List.mem_cons_self
    have step : (state.serve request).state.SameReading state tenant session := by
      have stamped : (state.withStamps request.stampFor).ReadsCurrent :=
        ⟨current.events, current.diagnoses, current.seen⟩
      have analyzed := analyze_sameReading stamped request.elapsed ofTenant ofSession persist
        tenant session
      rw [serve, isAnalysis]
      exact ⟨analyzed.current, analyzed.rules, analyzed.events⟩
    exact (ih step.current fun r member => analyses r (List.mem_cons_of_mem _ member)).trans step

/-- An analysis on request, with what it finds under the stamps of the request. -/
theorem serve_of_current {state : Deployment} {rules : List Rule} {tenant session : String}
    (current : state.ReadsCurrent)
    (read : state.rules.readNow state.files tenant = some (.ok rules)) {request : Request}
    {persist : Bool} (isAnalysis : request.operation = .analyze tenant session persist) :
    (state.serve request).result = .ok (.diagnoses
        ((state.withStamps request.stampFor).newDiagnoses rules tenant session)) ∧
      (state.serve request).state.diagnoses =
        if persist then ⟨state.diagnoses.diagnoses ++
          (state.withStamps request.stampFor).newDiagnoses rules tenant session⟩
        else state.diagnoses := by
  have stamped : (state.withStamps request.stampFor).ReadsCurrent :=
    ⟨current.events, current.diagnoses, current.seen⟩
  rw [serve, isAnalysis]
  exact analyze_of_current stamped read request.elapsed persist

/-- With current reads, an analysis that stores finds under its stamps what one that does not store
finds, and puts it behind what is stored. Whatever is done then, while the session has the same
reading a further analysis finds nothing and stores nothing; and analyses keep the reading. -/
theorem analysis_settles_session (state : Deployment) (rules : List Rule) (tenant session : String)
    (current : state.ReadsCurrent)
    (read : state.rules.readNow state.files tenant = some (.ok rules)) (trial storing : Request)
    (isTrial : trial.operation = .analyze tenant session false)
    (isStoring : storing.operation = .analyze tenant session true) :
    ∃ found kept,
      (state.serve trial).result = .ok (.diagnoses found) ∧
      (state.serve trial).state.diagnoses = state.diagnoses ∧
      (state.serve storing).result = .ok (.diagnoses kept) ∧
      (state.serve storing).state.diagnoses.diagnoses = state.diagnoses.diagnoses ++ kept ∧
      kept.map Diagnosis.unstamped = found.map Diagnosis.unstamped ∧
      (∀ d ∈ kept, d.tenant = tenant ∧ d.session = session) ∧
      (∀ (between : List Request) (again : Request) (persist : Bool),
        ((state.serve storing).state.serveAll between).SameReading state tenant session →
        again.operation = .analyze tenant session persist →
        (((state.serve storing).state.serveAll between).serve again).result =
            .ok (.diagnoses []) ∧
          (((state.serve storing).state.serveAll between).serve again).state.diagnoses =
            ((state.serve storing).state.serveAll between).diagnoses) ∧
      (∀ between : List Request, (∀ request ∈ between, request.IsAnalysis) →
        ((state.serve storing).state.serveAll between).SameReading state tenant session) := by
  obtain ⟨tried, untouched⟩ := serve_of_current current read isTrial
  obtain ⟨kept, stored⟩ := serve_of_current current read isStoring
  have restamped := (newDiagnoses_unstamped state storing.stampFor rules tenant session).trans
    (newDiagnoses_unstamped state trial.stampFor rules tenant session).symm
  refine ⟨_, _, tried, untouched, kept, congrArg DiagnosisStore.diagnoses stored, restamped,
    fun d member => SessionAnalysis.mem_diagnose member,
    fun between again persist same isAgain => ?_, fun between analyses => ?_⟩
  · have follows := serveAll_follows (state.serve storing).state between
    have evaluator : ((state.serve storing).state.serveAll between).engine.evaluator =
        (state.withStamps storing.stampFor).engine.evaluator :=
      follows.evaluator.trans (serve_follows state storing).evaluator
    have remains := follows.diagnoses
    rw [stored, if_pos rfl] at remains
    have nothing : (((state.serve storing).state.serveAll between).withStamps
        again.stampFor).newDiagnoses rules tenant session = [] :=
      newDiagnoses_settled evaluator same.events remains
    obtain ⟨result, after⟩ := serve_of_current same.current (same.rules.trans read) isAgain
    rw [nothing] at result after
    refine ⟨result, after.trans ?_⟩
    split
    · simp only [List.append_nil]
    · rfl
  · exact serveAll_sameReading current (storing :: between)
      (fun request member => by
        rcases List.mem_cons.mp member with rfl | later
        · exact ⟨tenant, session, true, isStoring⟩
        · exact analyses request later) tenant session

/-- A session with one event and one stored diagnosis, and rules of which the first one crashes and
has its identity repeated. -/
def crashing : Deployment where
  engine := Analysis.crashingEngine
  maxEvents := 0
  rules := .memory (.ofGlobal [Analysis.oneConditionRule "a" "crash",
    Analysis.oneConditionRule "a" "found", Analysis.oneConditionRule "b" "found",
    Analysis.oneConditionRule "c" "found"])
  files := []
  events := ⟨[{ (default : Event) with tenant := "t", session := "s" }]⟩
  diagnoses := ⟨[{ (default : Diagnosis) with tenant := "t", session := "s", ruleId := "b" }]⟩
  eventOutage := none
  diagnosisOutage := none
  isStale := false

def analysisRequest (persist : Bool) : Request :=
  ⟨"", fun _ => default, .analyze "t" "s" persist⟩

/-- One analysis stores the diagnosis that is left to find, and the next one finds nothing. -/
theorem crashing_settles :
    crashing.ReadsCurrent ∧
      (crashing.serve (analysisRequest true)).state.diagnoses.diagnoses.map (·.ruleId) =
        ["b", "c"] ∧
      ((crashing.serve (analysisRequest true)).state.serve (analysisRequest true)).result =
        .ok (.diagnoses []) := by
  have current : crashing.ReadsCurrent := ⟨rfl, rfl, rfl⟩
  obtain ⟨_, _, _, _, _, _, _, _, settled, keeps⟩ := analysis_settles_session crashing _ "t" "s"
    current rfl (analysisRequest false) (analysisRequest true) rfl rfl
  refine ⟨current, by decide +kernel, ?_⟩
  exact (settled [] (analysisRequest true) true (keeps [] fun _ none => by cases none) rfl).1

end Deployment

end EnrollmentDiagnosis
