import EnrollmentDiagnosis.Proofs.DeploymentRuns

set_option autoImplicit false

namespace EnrollmentDiagnosis

namespace SessionAnalysis

/-- What an analysis reads. -/
inductive Source where
  | rules
  | events
  | diagnoses
  deriving DecidableEq

def Source.name : Source → String
  | rules => "rules"
  | events => "events"
  | diagnoses => "rule results"

/-- How an analysis fails by what its reads give, and the reads that it has made by then. -/
inductive Reads.FailsWith (reads : Reads) (tenant session : String) :
    SessionError → List Source → Prop
  | missing (absent : reads.rules = none ∨ reads.events = none ∨ reads.diagnoses = none) :
      FailsWith reads tenant session .incomplete []
  | rules {failure : ReadFailure} (failed : reads.rules = some (.error failure))
      (events : reads.events.isSome = true) (diagnoses : reads.diagnoses.isSome = true) :
      FailsWith reads tenant session
        (.fetch (failure.reported Source.rules.name tenant session)) [.rules]
  | events {rules : List Rule} {failure : ReadFailure} (rulesRead : reads.rules = some (.ok rules))
      (failed : reads.events = some (.error failure)) (diagnoses : reads.diagnoses.isSome = true) :
      FailsWith reads tenant session
        (.fetch (failure.reported Source.events.name tenant session)) [.rules, .events]
  | diagnoses {rules : List Rule} {first : Event} {rest : List Event} {failure : ReadFailure}
      (rulesRead : reads.rules = some (.ok rules))
      (eventsRead : reads.events = some (.ok (first :: rest)))
      (failed : reads.diagnoses = some (.error failure)) :
      FailsWith reads tenant session
        (.fetch (failure.reported Source.diagnoses.name tenant session))
        [.rules, .events, .diagnoses]

/-- A read in a state, which it may change. -/
abbrev ReadIn (σ α : Type) := σ → Except ReadFailure α × σ

/-- What an analysis reads from, as far as it is there. -/
structure Collaborators (σ : Type) where
  rules : Option (ReadIn σ (List Rule))
  events : Option (ReadIn σ (List Event))
  diagnoses : Option (ReadIn σ (List Diagnosis))

/-- What reads in turn come to: what is analyzed, the state after them, and the reads made. -/
structure Gathering (σ : Type) where
  result : Except SessionError Material
  state : σ
  made : List Source

namespace Collaborators

variable {σ : Type} (collaborators : Collaborators σ)

/-- Reads in turn, unless something to read from is missing. The first failure ends the reads, and
so does a session without events. -/
def gather (tenant session : String) (before : σ) : Gathering σ :=
  match collaborators.rules, collaborators.events, collaborators.diagnoses with
  | some readRules, some readEvents, some readDiagnoses =>
    let failed (source : Source) (failure : ReadFailure) : Except SessionError Material :=
      .error (.fetch (failure.reported source.name tenant session))
    match readRules before with
    | (.error failure, after) => ⟨failed .rules failure, after, [.rules]⟩
    | (.ok rules, after) =>
      match readEvents after with
      | (.error failure, after) => ⟨failed .events failure, after, [.rules, .events]⟩
      | (.ok [], after) => ⟨.ok ⟨rules, [], []⟩, after, [.rules, .events]⟩
      | (.ok (first :: rest), after) =>
        match readDiagnoses after with
        | (.error failure, after) =>
          ⟨failed .diagnoses failure, after, [.rules, .events, .diagnoses]⟩
        | (.ok diagnoses, after) =>
          ⟨.ok ⟨rules, first :: rest, evaluatedRules diagnoses⟩, after,
            [.rules, .events, .diagnoses]⟩
  | _, _, _ => ⟨.error .incomplete, before, []⟩

/-- What all reads would give, each one after those before it. -/
def offered (before : σ) : Reads :=
  let rules := collaborators.rules.map (· before)
  let events := collaborators.events.map (· ((rules.map Prod.snd).getD before))
  let diagnoses := collaborators.diagnoses.map
    (· ((events.map Prod.snd).getD ((rules.map Prod.snd).getD before)))
  ⟨rules.map Prod.fst, events.map Prod.fst, diagnoses.map Prod.fst⟩

/-- Reads in turn give what is analyzed. -/
theorem gather_result (tenant session : String) (before : σ) :
    (collaborators.gather tenant session before).result =
      (collaborators.offered before).material tenant session := by
  unfold gather offered
  rcases collaborators.rules with _ | readRules
  · rfl
  rcases collaborators.events with _ | readEvents
  · rfl
  rcases collaborators.diagnoses with _ | readDiagnoses
  · rfl
  simp only [Option.map_some, Option.getD_some, Reads.material, SessionAnalysis.gather]
  rcases readRules before with ⟨failure | rules, after⟩
  · rfl
  dsimp only
  rcases readEvents after with ⟨failure | _ | ⟨first, rest⟩, later⟩
  · rfl
  · rfl
  dsimp only
  rcases readDiagnoses later with ⟨failure | diagnoses, last⟩
  · rfl
  · rfl

/-- Reads in turn that fail do so by what they give. Where something to read from is missing,
nothing is read, and the state stays as it is. -/
theorem failsWith_of_gather {tenant session : String} {before : σ} {e : SessionError}
    (failed : (collaborators.gather tenant session before).result = .error e) :
    (collaborators.offered before).FailsWith tenant session e
        (collaborators.gather tenant session before).made ∧
      (e = .incomplete → (collaborators.gather tenant session before).state = before) := by
  obtain ⟨rules?, events?, diagnoses?⟩ := collaborators
  rcases rules? with _ | readRules
  · cases failed
    exact ⟨.missing (.inl rfl), fun _ => rfl⟩
  rcases events? with _ | readEvents
  · cases failed
    exact ⟨.missing (.inr (.inl rfl)), fun _ => rfl⟩
  rcases diagnoses? with _ | readDiagnoses
  · cases failed
    exact ⟨.missing (.inr (.inr rfl)), fun _ => rfl⟩
  -- Everything is there, and the first failure among the reads decides.
  simp only [gather, offered, Option.map_some, Option.getD_some] at failed ⊢
  revert failed
  rcases readRules before with ⟨failure | rules, after⟩
  · intro failed
    cases failed
    exact ⟨.rules rfl rfl rfl, fun other => by cases other⟩
  dsimp only
  rcases readEvents after with ⟨failure | _ | ⟨first, rest⟩, later⟩
  · intro failed
    cases failed
    exact ⟨.events rfl rfl rfl, fun other => by cases other⟩
  · intro failed
    cases failed
  dsimp only
  rcases readDiagnoses later with ⟨failure | diagnoses, last⟩
  · intro failed
    cases failed
    exact ⟨.diagnoses rfl rfl rfl, fun other => by cases other⟩
  · intro failed
    cases failed

/-- Where only reading the rules changes anything, it decides the state after all reads. -/
theorem gather_state {readRules : ReadIn σ (List Rule)} {readEvents : ReadIn σ (List Event)}
    {readDiagnoses : ReadIn σ (List Diagnosis)} (events : ∀ s, (readEvents s).2 = s)
    (diagnoses : ∀ s, (readDiagnoses s).2 = s) (tenant session : String) (before : σ) :
    ((⟨some readRules, some readEvents, some readDiagnoses⟩ : Collaborators σ).gather tenant
      session before).state = (readRules before).2 := by
  unfold gather
  dsimp only
  rcases readRules before with ⟨failure | rules, after⟩
  · rfl
  dsimp only
  have afterEvents := events after
  generalize readEvents after = outcome at afterEvents ⊢
  rcases outcome with ⟨failure | _ | ⟨first, rest⟩, later⟩
  · exact afterEvents
  · exact afterEvents
  dsimp only at afterEvents ⊢
  have afterDiagnoses := diagnoses later
  generalize readDiagnoses later = outcome at afterDiagnoses ⊢
  rcases outcome with ⟨failure | _, last⟩
  · exact afterDiagnoses.trans afterEvents
  · exact afterDiagnoses.trans afterEvents

end Collaborators

/-- Collaborators from which the given is read, without any change. -/
def Reads.given (reads : Reads) : Collaborators Unit where
  rules := reads.rules.map fun read _ => (read, ())
  events := reads.events.map fun read _ => (read, ())
  diagnoses := reads.diagnoses.map fun read _ => (read, ())

theorem Reads.offered_given (reads : Reads) : reads.given.offered () = reads := by
  simp only [given, Collaborators.offered, Option.map_map, Function.comp_def, Option.map_id']

/-- What is read decides whether something is gathered, and how that fails. -/
theorem Reads.material_error_iff (reads : Reads) (tenant session : String) (e : SessionError) :
    reads.material tenant session = .error e ↔ ∃ made, reads.FailsWith tenant session e made := by
  constructor
  · intro failed
    have gathered := reads.given.gather_result tenant session ()
    rw [offered_given, failed] at gathered
    have fails := (reads.given.failsWith_of_gather gathered).1
    rw [offered_given] at fails
    exact ⟨_, fails⟩
  · rintro ⟨made, fails⟩
    unfold Reads.material
    cases fails with
    | missing absent =>
      split
      · rename_i rules events diagnoses
        simp only [rules, events, diagnoses, reduceCtorEq, or_self] at absent
      · rfl
    | rules failed events diagnoses =>
      obtain ⟨eventsRead, events⟩ := Option.isSome_iff_exists.mp events
      obtain ⟨diagnosesRead, diagnoses⟩ := Option.isSome_iff_exists.mp diagnoses
      rw [failed, events, diagnoses]
      rfl
    | events rulesRead failed diagnoses =>
      obtain ⟨diagnosesRead, diagnoses⟩ := Option.isSome_iff_exists.mp diagnoses
      rw [rulesRead, failed, diagnoses]
      rfl
    | diagnoses rulesRead eventsRead failed =>
      rw [rulesRead, eventsRead, failed]
      rfl

/-- Reads in turn fail exactly by what they give. -/
theorem Collaborators.gather_error_iff {σ : Type} (collaborators : Collaborators σ)
    (tenant session : String) (before : σ) (e : SessionError) :
    (collaborators.gather tenant session before).result = .error e ↔
      (collaborators.offered before).FailsWith tenant session e
        (collaborators.gather tenant session before).made := by
  refine ⟨fun failed => (collaborators.failsWith_of_gather failed).1, fun fails => ?_⟩
  rw [gather_result, Reads.material_error_iff]
  exact ⟨_, fails⟩

section Run

variable (engine : Analysis.Engine) (reads : Reads) (store : DiagnosisStore)
  (tenant session : String) (persist : Bool)

/-- An analysis fails exactly if nothing is gathered: the evaluation of rules never fails it. -/
theorem run_error_iff (e : SessionError) :
    (run engine reads store tenant session persist).1 = .error e ↔
      reads.material tenant session = .error e := by
  unfold run
  cases reads.material tenant session with
  | error reason => simp only [Except.error.injEq]
  | ok material =>
    cases persist with
    | true => simp only [↓reduceIte, reduceCtorEq]
    | false => simp only [Bool.false_eq_true, ↓reduceIte, reduceCtorEq]

theorem store_of_run_error {e : SessionError}
    (failed : (run engine reads store tenant session persist).1 = .error e) :
    (run engine reads store tenant session persist).2 = store := by
  rw [run_error_iff] at failed
  simp only [run, failed]

end Run

end SessionAnalysis

namespace Deployment

open RuleBook SessionAnalysis

variable (state : Deployment) (elapsed tenant session : String)

/-- What a deployment reads from. Only a catalogue may keep rules that are read. -/
def collaborators : Collaborators Deployment where
  rules :=
    match state.rules with
    | .absent => none
    | .memory store => some fun before => (.ok (store.activeRules tenant), before)
    | .catalogue catalogue => some fun before =>
      let loading := catalogue.activeRules elapsed before.files tenant
      (loading.result.mapError fun e => .other e.message,
        { before with rules := .catalogue loading.catalogue })
  events := some fun before => (before.readEvents tenant session, before)
  diagnoses := some fun before => (before.readDiagnoses tenant session, before)

theorem offered_collaborators :
    (state.collaborators elapsed tenant session).offered state = state.reads tenant session := by
  unfold collaborators reads Collaborators.offered RuleProvider.readNow
  cases provider : state.rules with
  | absent => rfl
  | memory store => rfl
  | catalogue catalogue =>
    simp only [Option.map_some, Option.getD_some,
      (catalogue.activeRules_spec elapsed state.files tenant).1]
    rfl

/-- An analysis fails as the reads in turn do. -/
theorem analyze_error_iff (persist : Bool) (error : OperationError) :
    (state.analyze elapsed tenant session persist).result = .error error ↔
      ∃ e, error = .session e ∧ (state.reads tenant session).FailsWith tenant session e
        ((state.collaborators elapsed tenant session).gather tenant session state).made := by
  obtain ⟨-, -, result, -⟩ := analyze_spec state elapsed tenant session persist
  have fails : ∀ e, (state.outcome tenant session persist).1 = .error e ↔
      (state.reads tenant session).FailsWith tenant session e
        ((state.collaborators elapsed tenant session).gather tenant session state).made := by
    intro e
    rw [outcome, run_error_iff, ← state.offered_collaborators elapsed tenant session,
      ← Collaborators.gather_error_iff, Collaborators.gather_result]
  simp only [← fails, result]
  cases (state.outcome tenant session persist).1 with
  | error e =>
    simp only [Except.map, Except.mapError, Except.error.injEq]
    exact ⟨fun same => ⟨e, same.symm, rfl⟩, fun ⟨_, same, again⟩ => again ▸ same.symm⟩
  | ok found =>
    simp only [Except.map, Except.mapError, reduceCtorEq, and_false, exists_false]

/-- An analysis that fails leaves what the reads in turn leave. -/
theorem state_of_analyze_error {persist : Bool} {error : OperationError}
    (failed : (state.analyze elapsed tenant session persist).result = .error error) :
    (state.analyze elapsed tenant session persist).state =
      ((state.collaborators elapsed tenant session).gather tenant session state).state := by
  obtain ⟨e, -, fails⟩ := (state.analyze_error_iff elapsed tenant session persist error).mp failed
  have gathered : (state.reads tenant session).material tenant session = .error e :=
    ((state.reads tenant session).material_error_iff tenant session e).mpr ⟨_, fails⟩
  unfold reads RuleProvider.readNow at gathered
  unfold analyze collaborators
  cases provider : state.rules with
  | absent => rfl
  | memory store =>
    rw [provider] at gathered
    rw [Collaborators.gather_state (fun _ => rfl) (fun _ => rfl)]
    simp only [analyzeWith, run, gathered]
  | catalogue catalogue =>
    rw [provider] at gathered
    rw [Collaborators.gather_state (fun _ => rfl) (fun _ => rfl)]
    simp only [← (catalogue.activeRules_spec elapsed state.files tenant).1] at gathered
    simp only [readEvents, readDiagnoses] at gathered
    simp only [analyzeWith, run, readEvents, readDiagnoses, gathered]

end Deployment

end EnrollmentDiagnosis
