import EnrollmentDiagnosis.Report
import EnrollmentDiagnosis.RuleBook.Catalogue
import EnrollmentDiagnosis.SessionAnalysis
import EnrollmentDiagnosis.Store.Events
import EnrollmentDiagnosis.Store.Rules

set_option autoImplicit false

namespace EnrollmentDiagnosis

open RuleBook

/-- Where a deployment gets its rules. -/
inductive RuleProvider where
  | absent
  | memory (store : RuleStore)
  | catalogue (catalogue : Catalogue)
  deriving Inhabited

/-- How reading the events of a tenant fails. -/
abbrev EventOutage := String → ReadFailure

/-- The state of a deployment. -/
structure Deployment where
  engine : Analysis.Engine
  maxEvents : Int
  rules : RuleProvider
  files : Files
  events : EventStore
  diagnoses : DiagnosisStore
  /-- How events cannot be read for the time being. -/
  eventOutage : Option EventOutage
  /-- Why diagnoses cannot be read for the time being. -/
  diagnosisOutage : Option String
  /-- True while the diagnoses of sessions are not seen although they are stored. -/
  isStale : Bool

/-- What can be done with a deployment. -/
inductive Operation where
  | addEvents (events : List Event)
  | readEvents (tenant session : String)
  | failEvents (outage : Option EventOutage)
  | failDiagnoses (outage : Option String)
  | setStale (isStale : Bool)
  | analyze (tenant session : String) (persist : Bool)
  | storeDiagnosis (d : Diagnosis)
  | readDiagnoses (tenant session : String)
  | allDiagnoses
  | report (tenant session : String)
  | addRule (tenant : String) (rule : Rule)
  | activeRules (tenant : String)
  | allRules (tenant : String)
  | sharedRules
  | loadFile (path : Path)
  | writeFile (path : Path) (text : String)
  | deleteFile (path : Path)
  | chooseRule (tenant ruleId : String) (enabled : Bool)
  | addCustomRule (tenant : String) (rule : Rule)
  | addCustomDocument (tenant text : String)
  | removeCustomRule (tenant ruleId : String)
  | clearCache

/-- What an operation answers. -/
inductive Answer where
  | done
  | flag (b : Bool)
  | count (n : Nat)
  | text (s : String)
  | events (events : List Event)
  | diagnoses (diagnoses : List Diagnosis)
  | rules (rules : List Rule)

/-- Why an operation fails. -/
inductive OperationError where
  | session (e : SessionError)
  | connection (reason : String)
  | catalogue (e : CatalogueError)
  /-- An operation on rules that the provider of rules does not have. -/
  | unsupported
  deriving DecidableEq

def OperationError.message : OperationError → String
  | session e => e.message
  | connection reason => reason
  | catalogue e => e.message
  | unsupported => "operation not supported"

/-- A read that fails on its own, outside an analysis. -/
def ReadFailure.toError : ReadFailure → OperationError
  | fetch e => .session (.fetch e)
  | other reason => .connection reason

/-- What comes of an operation. -/
structure Step where
  result : Except OperationError Answer
  state : Deployment
  notices : List String

namespace Deployment

def readEvents (state : Deployment) (tenant session : String) : Except ReadFailure (List Event) :=
  match state.eventOutage with
  | some outage => .error (outage tenant)
  | none => .ok (state.events.sessionEvents tenant session)

def readDiagnoses (state : Deployment) (tenant session : String) :
    Except ReadFailure (List Diagnosis) :=
  match state.diagnosisOutage with
  | some reason => .error (.other reason)
  | none => .ok (if state.isStale then [] else state.diagnoses.ofSession tenant session)

/-- A step that changes the state and gives no answer. -/
def changed (state : Deployment) : Step := ⟨.ok .done, state, []⟩

/-- A step that leaves the state as it is. -/
def answered (state : Deployment) (result : Except OperationError Answer) : Step :=
  ⟨result, state, []⟩

/-- A step on the catalogue of a deployment that has one. -/
def onCatalogue (state : Deployment) (act : Catalogue → Step) : Step :=
  match state.rules with
  | .catalogue catalogue => act catalogue
  | _ => state.answered (.error .unsupported)

/-- The step that an operation on the catalogue amounts to. -/
def loaded {α : Type} (state : Deployment) (answer : α → Answer) (loading : Loading α) : Step :=
  ⟨(loading.result.map answer).mapError .catalogue,
    { state with rules := .catalogue loading.catalogue }, loading.notices⟩

/-- A step that changes the catalogue. -/
def withCatalogue (state : Deployment) (answer : Answer) (catalogue : Catalogue) : Step :=
  ⟨.ok answer, { state with rules := .catalogue catalogue }, []⟩

/-- The analysis of a session with what reading the rules gave. -/
def analyzeWith (state : Deployment) (elapsed : String)
    (rules : Option (Except ReadFailure (List Rule))) (tenant session : String) (persist : Bool) :
    Step :=
  let reads : SessionAnalysis.Reads :=
    ⟨rules, some (state.readEvents tenant session), some (state.readDiagnoses tenant session)⟩
  let (result, diagnoses) :=
    SessionAnalysis.run state.engine reads state.diagnoses tenant session persist
  ⟨(result.map Answer.diagnoses).mapError .session, { state with diagnoses := diagnoses },
    SessionAnalysis.notices state.engine state.maxEvents elapsed reads tenant session⟩

/-- The analysis of a session. -/
def analyze (state : Deployment) (elapsed tenant session : String) (persist : Bool) : Step :=
  match state.rules with
  | .absent => state.analyzeWith elapsed none tenant session persist
  | .memory store =>
    state.analyzeWith elapsed (some (.ok (store.activeRules tenant))) tenant session persist
  | .catalogue catalogue =>
    let loading := catalogue.activeRules elapsed state.files tenant
    let rules := loading.result.mapError fun (e : CatalogueError) => ReadFailure.other e.message
    let loaded := { state with rules := .catalogue loading.catalogue }
    let step := loaded.analyzeWith elapsed (some rules) tenant session persist
    { step with notices := loading.notices ++ step.notices }

/-- Performs an operation. -/
def perform (state : Deployment) (elapsed : String) : Operation → Step
  | .addEvents events => { state with events := state.events.add events }.changed
  | .readEvents tenant session =>
    state.answered
      (((state.readEvents tenant session).map Answer.events).mapError ReadFailure.toError)
  | .failEvents outage => { state with eventOutage := outage }.changed
  | .failDiagnoses outage => { state with diagnosisOutage := outage }.changed
  | .setStale isStale => { state with isStale := isStale }.changed
  | .analyze tenant session persist => state.analyze elapsed tenant session persist
  | .storeDiagnosis d =>
    let (diagnoses, stored) := state.diagnoses.insert d
    ⟨.ok (.flag stored), { state with diagnoses := diagnoses }, []⟩
  | .readDiagnoses tenant session =>
    state.answered
      (((state.readDiagnoses tenant session).map Answer.diagnoses).mapError ReadFailure.toError)
  | .allDiagnoses => state.answered (.ok (.diagnoses state.diagnoses.diagnoses))
  | .report tenant session =>
    state.answered (((state.readDiagnoses tenant session).map fun diagnoses =>
      Answer.text (Report.markdown diagnoses)).mapError ReadFailure.toError)
  | .addRule tenant rule =>
    match state.rules with
    | .memory store => { state with rules := .memory (store.add tenant rule) }.changed
    | _ => state.answered (.error .unsupported)
  | .activeRules tenant =>
    match state.rules with
    | .memory store => state.answered (.ok (.rules (store.activeRules tenant)))
    | _ => state.onCatalogue fun catalogue =>
        state.loaded .rules (catalogue.activeRules elapsed state.files tenant)
  | .allRules tenant => state.onCatalogue fun catalogue =>
      state.loaded .rules (catalogue.allRules elapsed state.files tenant)
  | .sharedRules => state.onCatalogue fun catalogue =>
      state.loaded .rules (catalogue.sharedRules elapsed state.files)
  | .loadFile path => state.onCatalogue fun catalogue =>
      state.loaded .rules (catalogue.loadFile elapsed state.files path)
  | .writeFile path text => { state with files := Files.write state.files path text }.changed
  | .deleteFile path => { state with files := Files.delete state.files path }.changed
  | .chooseRule tenant ruleId enabled => state.onCatalogue fun catalogue =>
      state.withCatalogue .done (catalogue.choose tenant ruleId enabled)
  | .addCustomRule tenant rule => state.onCatalogue fun catalogue =>
      state.withCatalogue .done (catalogue.addRule tenant rule)
  | .addCustomDocument tenant text => state.onCatalogue fun catalogue =>
      state.loaded .count (catalogue.addDocument tenant text)
  | .removeCustomRule tenant ruleId => state.onCatalogue fun catalogue =>
      state.withCatalogue (.flag (catalogue.hasRule tenant ruleId))
        (catalogue.removeRule tenant ruleId)
  | .clearCache => state.onCatalogue fun catalogue => state.withCatalogue .done catalogue.clearCache

end Deployment

end EnrollmentDiagnosis
