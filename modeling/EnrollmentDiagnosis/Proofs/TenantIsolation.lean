import EnrollmentDiagnosis.Proofs.ArrivalOrder

set_option autoImplicit false

namespace EnrollmentDiagnosis

open RuleBook

namespace Operation

/-- False for the operations of other tenants, and for the analyses and the stored diagnoses of
other sessions of the tenant. -/
def remains (tenant session : String) : Operation → Bool
  | storeDiagnosis d => d.isOf tenant session
  | analyze owner place _ => owner == tenant && place == session
  | readEvents owner _ | readDiagnoses owner _ | report owner _ => owner == tenant
  | addRule owner _ | activeRules owner | allRules owner | chooseRule owner _ _
  | addCustomRule owner _ | addCustomDocument owner _ | removeCustomRule owner _ => owner == tenant
  | _ => true

/-- An operation with no events but those of a session. -/
def narrowed (tenant session : String) : Operation → Operation
  | addEvents events => addEvents (events.filter (·.isOf tenant session))
  | operation => operation

/-- What is left of operations when all else than a session of a tenant, and the tenant's rules, is
erased. -/
def remnant (tenant session : String) (operations : List Operation) : List Operation :=
  (operations.filter (·.remains tenant session)).map (·.narrowed tenant session)

/-- True for the operations on a session of a tenant, on the tenant's rules and on shared ones.
Events come in batches that may hold events of the session. -/
def concerns (tenant session : String) : Operation → Bool
  | addEvents _ | sharedRules => true
  | storeDiagnosis d => d.isOf tenant session
  | analyze owner place _ | readEvents owner place | readDiagnoses owner place =>
    owner == tenant && place == session
  | addRule owner _ | activeRules owner | allRules owner | chooseRule owner _ _
  | addCustomRule owner _ | addCustomDocument owner _ | removeCustomRule owner _ => owner == tenant
  | _ => false

/-- True unless an operation changes files, or loads or forgets one by itself. -/
def keepsShared : Operation → Bool
  | loadFile _ | writeFile _ _ | deleteFile _ | clearCache => false
  | _ => true

theorem remnant_cons_erased {tenant session : String} {operation : Operation}
    (erased : operation.remains tenant session = false) (later : List Operation) :
    remnant tenant session (operation :: later) = remnant tenant session later := by
  rw [remnant, List.filter_cons_of_neg (ne_true_of_eq_false erased), remnant]

theorem remnant_cons_left {tenant session : String} {operation : Operation}
    (left : operation.remains tenant session = true) (later : List Operation) :
    remnant tenant session (operation :: later) =
      operation.narrowed tenant session :: remnant tenant session later := by
  rw [remnant, List.filter_cons_of_pos left, List.map_cons, remnant]

/-- What concerns a session is not erased. -/
theorem remains_of_concerns {tenant session : String} {operation : Operation}
    (concerned : operation.concerns tenant session = true) :
    operation.remains tenant session = true := by
  cases operation with
  | readEvents owner place | readDiagnoses owner place =>
    simp only [concerns, Bool.and_eq_true] at concerned
    exact concerned.1
  | report => cases concerned
  | addEvents | storeDiagnosis | analyze | addRule | activeRules | allRules | chooseRule
  | addCustomRule | addCustomDocument | removeCustomRule => exact concerned
  | _ => rfl

theorem concerns_narrowed (tenant session : String) (operation : Operation) :
    (operation.narrowed tenant session).concerns tenant session =
      operation.concerns tenant session := by
  cases operation <;> rfl

end Operation

namespace Deployment

variable {tenant session : String}

section Erased

variable (state : Deployment) (elapsed : String)

/-- A deployment with other rules, of which a tenant has the same. -/
theorem withRules_alike {rules : RuleProvider}
    (agree : rules.AgreeFor state.files tenant state.rules) (session : String) :
    Alike tenant session { state with rules := rules } state :=
  { Alike.refl tenant session state with rules := agree }

theorem withCatalogue_alike {catalogue changed : Catalogue}
    (provider : state.rules = .catalogue catalogue)
    (agree : changed.AgreeFor state.files tenant catalogue) :
    Alike tenant session { state with rules := .catalogue changed } state := by
  refine withRules_alike state ?_ session
  rw [provider]
  exact .catalogue agree

/-- What is done with a catalogue is not seen if the tenant's rules stay. -/
theorem onCatalogue_erased {act : Catalogue → Step}
    (stays : ∀ catalogue, state.rules = .catalogue catalogue →
      (act catalogue).state.Alike tenant session state) :
    (state.onCatalogue act).state.Alike tenant session state := by
  unfold onCatalogue
  split
  · rename_i catalogue provider
    exact stays catalogue provider
  · exact .refl tenant session state

theorem ownChange_erased {owner : String} (other : owner ≠ tenant)
    {change : Catalogue → Catalogue} (changes : Catalogue.OwnChange owner change)
    (catalogue : Catalogue) (provider : state.rules = .catalogue catalogue) :
    Alike tenant session { state with rules := .catalogue (change catalogue) } state :=
  withCatalogue_alike state provider (changes.agreeFor_other state.files other.symm catalogue)

theorem addRule_erased {owner : String} (other : owner ≠ tenant) (rule : Rule) :
    (state.perform elapsed (.addRule owner rule)).state.Alike tenant session state := by
  simp only [perform]
  split
  · rename_i store provider
    refine withRules_alike state ?_ session
    rw [provider]
    refine .memory rfl ((ownedRules_append store.tenantRules _ tenant).trans ?_)
    rw [ownedRules_cons_other other]
    exact List.append_nil _
  · exact .refl tenant session state

/-- The analysis of another session stores nothing that the session sees. -/
theorem analyze_erased {owner place : String} (other : ¬(owner = tenant ∧ place = session))
    (persist : Bool) :
    (state.analyze elapsed owner place persist).state.Alike tenant session state := by
  obtain ⟨rules, same, -, after⟩ := analyze_spec state elapsed owner place persist
  have stored : (state.outcome owner place persist).2.SameOf tenant session state.diagnoses := by
    unfold outcome SessionAnalysis.run
    split
    · rfl
    · split
      · refine congrArg (List.map Diagnosis.unstamped)
          (DiagnosisStore.ofSession_insertAll_other _ (fun d member => ?_) _)
        obtain ⟨ownTenant, ownSession⟩ := SessionAnalysis.mem_diagnose member
        rw [Diagnosis.isOf_iff, ownTenant, ownSession]
        exact other
      · rfl
  rw [after]
  exact { Alike.refl tenant session state with
    rules := same.agreeFor tenant
    diagnoses := stored }

/-- An operation that is erased is not seen. -/
theorem perform_erased {operation : Operation} (erased : operation.remains tenant session = false) :
    (state.perform elapsed operation).state.Alike tenant session state := by
  cases operation with
  | storeDiagnosis d =>
    have other : ¬d.isOf tenant session = true := ne_true_of_eq_false erased
    have stays := DiagnosisStore.ofSession_insert_other other state.diagnoses
    exact { Alike.refl tenant session state with
      diagnoses := congrArg (List.map Diagnosis.unstamped) stays }
  | analyze owner place persist =>
    have other : ¬(owner = tenant ∧ place = session) := by
      rintro ⟨rfl, rfl⟩
      simp only [Operation.remains, BEq.rfl, Bool.and_self, reduceCtorEq] at erased
    exact analyze_erased state elapsed other persist
  | readEvents | readDiagnoses | report => exact .refl tenant session state
  | addRule owner rule => exact addRule_erased state elapsed (ne_of_beq_false erased) rule
  | activeRules owner =>
    simp only [perform]
    split
    · exact .refl tenant session state
    · refine onCatalogue_erased state fun catalogue provider => ?_
      exact withCatalogue_alike state provider
        ((catalogue.activeRules_spec elapsed state.files owner).2.agreeFor tenant)
  | allRules owner =>
    refine onCatalogue_erased state fun catalogue provider => ?_
    exact withCatalogue_alike state provider
      ((catalogue.allRules_spec elapsed state.files owner).2.agreeFor tenant)
  | chooseRule owner ruleId enabled =>
    exact onCatalogue_erased state (ownChange_erased state (ne_of_beq_false erased)
      (Catalogue.choose_ownChange owner ruleId enabled))
  | addCustomRule owner rule =>
    exact onCatalogue_erased state (ownChange_erased state (ne_of_beq_false erased)
      (Catalogue.addRule_ownChange owner rule))
  | addCustomDocument owner text =>
    refine onCatalogue_erased state fun catalogue provider => ?_
    obtain ⟨change, changes, after⟩ :=
      Catalogue.addDocument_ownChange catalogue.settings owner text
    have stays : Alike tenant session { state with rules := .catalogue (change catalogue) } state :=
      ownChange_erased state (ne_of_beq_false erased) changes catalogue provider
    rwa [← after catalogue rfl] at stays
  | removeCustomRule owner ruleId =>
    exact onCatalogue_erased state (ownChange_erased state (ne_of_beq_false erased)
      (Catalogue.removeRule_ownChange owner ruleId))
  | _ => cases erased

end Erased

section Kept

variable {first second : Deployment}

/-- Steps that leave alike deployments as they are. -/
theorem Alike.answered (alike : first.Alike tenant session second)
    (result : Except OperationError Answer) :
    (first.answered result).Alike tenant session (second.answered result) :=
  ⟨rfl, alike⟩

theorem Alike.withRules (alike : first.Alike tenant session second) {rules others : RuleProvider}
    (agree : rules.AgreeFor first.files tenant others) :
    Alike tenant session { first with rules := rules } { second with rules := others } :=
  { alike with rules := agree }

/-- Both have a catalogue with the same rules of the tenant, or none of them has one. -/
theorem Alike.onCatalogue (alike : first.Alike tenant session second) {act : Catalogue → Step}
    {other : Catalogue → Step}
    (steps : ∀ c d, Catalogue.AgreeFor first.files tenant c d →
      (act c).Alike tenant session (other d)) :
    (first.onCatalogue act).Alike tenant session (second.onCatalogue other) := by
  have agree := alike.rules
  unfold Deployment.onCatalogue
  -- Providers that agree are of one kind.
  cases provider : first.rules <;> cases providerSecond : second.rules <;>
    rw [provider, providerSecond] at agree <;> cases agree
  · exact alike.answered _
  · exact alike.answered _
  · rename_i agree
    exact steps _ _ agree

/-- The same is loaded, and leaves catalogues with the same rules of the tenant. -/
theorem Alike.loaded (alike : first.Alike tenant session second) {α : Type} (answer : α → Answer)
    {loading other : Loading α} (result : loading.result = other.result)
    (agree : loading.catalogue.AgreeFor first.files tenant other.catalogue) :
    (first.loaded answer loading).Alike tenant session (second.loaded answer other) := by
  refine ⟨?_, alike.withRules (.catalogue agree)⟩
  simp only [Step.answer, Deployment.loaded, result]

/-- The tenant makes the same change in both catalogues. -/
theorem Alike.ownChange (alike : first.Alike tenant session second)
    {change : Catalogue → Catalogue} (changes : Catalogue.OwnChange tenant change)
    {c d : Catalogue} (agree : c.AgreeFor first.files tenant d) (answer : Answer) :
    (first.withCatalogue answer (change c)).Alike tenant session
      (second.withCatalogue answer (change d)) :=
  ⟨rfl, alike.withRules (.catalogue (changes.agreeFor_own agree))⟩

theorem Alike.addEvents (alike : first.Alike tenant session second) (events : List Event) :
    Alike tenant session { first with events := first.events.add events }
      { second with
        events := second.events.add (events.filter (·.isOf tenant session)) } := by
  have sorted : Event.sort (events.filter (·.isOf tenant session)) =
      Event.sort ((events.filter (·.isOf tenant session)).filter (·.isOf tenant session)) := by
    rw [List.filter_filter]
    simp only [Bool.and_self]
  exact { alike with events := EventStore.sessionEvents_add_congr alike.events sorted }

theorem Alike.storeDiagnosis (alike : first.Alike tenant session second) (elapsed other : String)
    {d : Diagnosis} (own : d.isOf tenant session = true) :
    (first.perform elapsed (.storeDiagnosis d)).Alike tenant session
      (second.perform other (.storeDiagnosis d)) := by
  obtain ⟨stored, same⟩ := DiagnosisStore.insert_sameOf alike.diagnoses rfl own
  refine ⟨?_, { alike with diagnoses := same }⟩
  exact congrArg (fun stored => Except.ok (Answer.flag stored)) stored

theorem Alike.addRule (alike : first.Alike tenant session second) (elapsed other : String)
    (rule : Rule) :
    (first.perform elapsed (.addRule tenant rule)).Alike tenant session
      (second.perform other (.addRule tenant rule)) := by
  have agree := alike.rules
  simp only [Deployment.perform]
  cases provider : first.rules <;> cases providerSecond : second.rules <;>
    rw [provider, providerSecond] at agree <;> cases agree
  · exact alike.answered _
  · rename_i store storeSecond shared own
    refine ⟨rfl, alike.withRules (.memory shared ?_)⟩
    refine (ownedRules_append store.tenantRules _ tenant).trans
      (Eq.trans ?_ (ownedRules_append storeSecond.tenantRules _ tenant).symm)
    exact congrArg (· ++ _) own
  · exact alike.answered _

/-- Both read the same of their catalogues, and change no later reading. -/
theorem Alike.reading (alike : first.Alike tenant session second) {α : Type} (answer : α → Answer)
    {read other : Catalogue → Loading α}
    (reads : ∀ c, Catalogue.SameRules first.files (read c).catalogue c)
    (readsOther : ∀ d, Catalogue.SameRules second.files (other d).catalogue d)
    (results : ∀ c d, Catalogue.AgreeFor first.files tenant c d →
      (read c).result = (other d).result) :
    (first.onCatalogue fun c => first.loaded answer (read c)).Alike tenant session
      (second.onCatalogue fun d => second.loaded answer (other d)) := by
  refine alike.onCatalogue fun c d agree => ?_
  have after := readsOther d
  rw [← alike.files] at after
  exact alike.loaded answer (results c d agree)
    (((reads c).agreeFor tenant).trans (agree.trans (after.agreeFor tenant).symm))

theorem Alike.activeRules (alike : first.Alike tenant session second) (elapsed other : String) :
    (first.perform elapsed (.activeRules tenant)).Alike tenant session
      (second.perform other (.activeRules tenant)) := by
  have agree := alike.rules
  have catalogues := alike.reading .rules
    (fun c => (c.activeRules_spec elapsed first.files tenant).2)
    (fun d => (d.activeRules_spec other second.files tenant).2) fun c d agree => by
      rw [(c.activeRules_spec elapsed first.files tenant).1,
        (d.activeRules_spec other second.files tenant).1, ← alike.files, agree.activeNow]
  simp only [Deployment.perform]
  cases provider : first.rules <;> cases providerSecond : second.rules <;>
    rw [provider, providerSecond] at agree <;> cases agree
  · exact catalogues
  · rename_i shared own
    refine ⟨?_, alike⟩
    exact congrArg (fun rules => Except.ok (Answer.rules rules))
      (RuleStore.activeRules_congr shared own)
  · exact catalogues

theorem Alike.allRules (alike : first.Alike tenant session second) (elapsed other : String) :
    (first.perform elapsed (.allRules tenant)).Alike tenant session
      (second.perform other (.allRules tenant)) :=
  alike.reading .rules (fun c => (c.allRules_spec elapsed first.files tenant).2)
    (fun d => (d.allRules_spec other second.files tenant).2) fun c d agree => by
      rw [(c.allRules_spec elapsed first.files tenant).1,
        (d.allRules_spec other second.files tenant).1, ← alike.files, agree.sharedNow,
        funext agree.effective]

theorem Alike.sharedRules (alike : first.Alike tenant session second) (elapsed other : String) :
    (first.perform elapsed .sharedRules).Alike tenant session
      (second.perform other .sharedRules) :=
  alike.reading .rules (fun c => (c.sharedRules_spec elapsed first.files).2)
    (fun d => (d.sharedRules_spec other second.files).2) fun c d agree => by
      rw [(c.sharedRules_spec elapsed first.files).1, (d.sharedRules_spec other second.files).1,
        ← alike.files, agree.sharedNow]

theorem Alike.addDocument (alike : first.Alike tenant session second)
    (elapsed other text : String) :
    (first.perform elapsed (.addCustomDocument tenant text)).Alike tenant session
      (second.perform other (.addCustomDocument tenant text)) := by
  refine alike.onCatalogue fun c d agree => ?_
  obtain ⟨change, changes, after⟩ := Catalogue.addDocument_ownChange c.settings tenant text
  refine alike.loaded .count ?_ ?_
  · rw [(Catalogue.addDocument_spec c tenant text).1, (Catalogue.addDocument_spec d tenant text).1,
      agree.settings]
  · rw [after c rfl, after d agree.settings.symm]
    exact changes.agreeFor_own agree

/-- An operation that is not erased keeps deployments alike, and its answer too if it concerns the
session. -/
theorem Alike.perform (alike : first.Alike tenant session second) {operation : Operation}
    (shared : operation.keepsShared = true) (left : operation.remains tenant session = true)
    (elapsed other : String) :
    (first.perform elapsed operation).state.Alike tenant session
        (second.perform other (operation.narrowed tenant session)).state ∧
      (operation.concerns tenant session = true →
        (first.perform elapsed operation).answer =
          (second.perform other (operation.narrowed tenant session)).answer) := by
  cases operation with
  | addEvents events => exact ⟨alike.addEvents events, fun _ => rfl⟩
  | storeDiagnosis d => exact (alike.storeDiagnosis elapsed other left).compared _
  | analyze owner place persist =>
    obtain ⟨rfl, rfl⟩ : owner = tenant ∧ place = session := by
      simpa only [Operation.remains, Bool.and_eq_true, beq_iff_eq] using left
    exact (alike.analyze elapsed other persist).compared _
  -- Other sessions of the tenant are still read, but what they read differs.
  | readEvents owner place =>
    refine ⟨alike, fun concerned => ?_⟩
    obtain ⟨rfl, rfl⟩ : owner = tenant ∧ place = session := by
      simpa only [Operation.concerns, Bool.and_eq_true, beq_iff_eq] using concerned
    simp only [Operation.narrowed, Deployment.perform, Deployment.answered, Step.answer,
      alike.readEvents]
  | readDiagnoses owner place =>
    refine ⟨alike, fun concerned => ?_⟩
    obtain ⟨rfl, rfl⟩ : owner = tenant ∧ place = session := by
      simpa only [Operation.concerns, Bool.and_eq_true, beq_iff_eq] using concerned
    simp only [Operation.narrowed, Deployment.perform, Deployment.answered, Step.answer,
      Answer.unstamped_diagnoses, alike.readDiagnoses]
  | report | allDiagnoses => exact ⟨alike, fun concerned => by cases concerned⟩
  | failEvents =>
    exact ⟨{ alike with eventOutage := rfl }, fun concerned => by cases concerned⟩
  | failDiagnoses =>
    exact ⟨{ alike with diagnosisOutage := rfl }, fun concerned => by cases concerned⟩
  | setStale => exact ⟨{ alike with isStale := rfl }, fun concerned => by cases concerned⟩
  | addRule owner rule =>
    obtain rfl := eq_of_beq left
    exact (alike.addRule elapsed other rule).compared _
  | activeRules owner =>
    obtain rfl := eq_of_beq left
    exact (alike.activeRules elapsed other).compared _
  | allRules owner =>
    obtain rfl := eq_of_beq left
    exact (alike.allRules elapsed other).compared _
  | sharedRules => exact (alike.sharedRules elapsed other).compared _
  | chooseRule owner ruleId enabled =>
    obtain rfl := eq_of_beq left
    exact (alike.onCatalogue fun c d agree =>
      alike.ownChange (Catalogue.choose_ownChange owner ruleId enabled) agree .done).compared _
  | addCustomRule owner rule =>
    obtain rfl := eq_of_beq left
    exact (alike.onCatalogue fun c d agree =>
      alike.ownChange (Catalogue.addRule_ownChange owner rule) agree .done).compared _
  | addCustomDocument owner text =>
    obtain rfl := eq_of_beq left
    exact (alike.addDocument elapsed other text).compared _
  | removeCustomRule owner ruleId =>
    obtain rfl := eq_of_beq left
    refine Step.Alike.compared (alike.onCatalogue fun c d agree => ?_) _
    rw [agree.hasRule]
    exact alike.ownChange (Catalogue.removeRule_ownChange owner ruleId) agree _
  | loadFile | writeFile | deleteFile | clearCache => cases shared

end Kept

/-- The answers of a run that concern a session of a tenant, without stamps. -/
def observed (tenant session : String) : Deployment → List Request →
    List (Except OperationError Answer)
  | _, [] => []
  | state, request :: later =>
    let step := state.serve request
    if request.operation.concerns tenant session then
      step.answer :: observed tenant session step.state later
    else observed tenant session step.state later

variable {first second : Deployment}

/-- A request that is erased is not seen. -/
theorem serve_erased (state : Deployment) {request : Request}
    (erased : request.operation.remains tenant session = false) :
    (state.serve request).state.Alike tenant session state :=
  (perform_erased _ request.elapsed erased).trans
    (withStamps_alike state request.stampFor tenant session)

/-- What is left of a request keeps deployments alike, whatever its stamps are. -/
theorem Alike.serve (alike : first.Alike tenant session second) {request left : Request}
    (shared : request.operation.keepsShared = true)
    (remains : request.operation.remains tenant session = true)
    (same : left.operation = request.operation.narrowed tenant session) :
    (first.serve request).state.Alike tenant session (second.serve left).state ∧
      (request.operation.concerns tenant session = true →
        (first.serve request).answer = (second.serve left).answer) := by
  have stamped : (first.withStamps request.stampFor).Alike tenant session
      (second.withStamps left.stampFor) :=
    (withStamps_alike first request.stampFor tenant session).trans
      (alike.trans (withStamps_alike second left.stampFor tenant session).symm)
  rw [Deployment.serve, Deployment.serve, same]
  exact stamped.perform shared remains request.elapsed left.elapsed

/-- Runs that differ in what is erased are observed alike: by induction on the longer one, whose
requests are either not seen or answered as they are in the other. -/
theorem Alike.observed (alike : first.Alike tenant session second) {run rest : List Request}
    (shared : ∀ request ∈ run, request.operation.keepsShared = true)
    (erased : rest.map (·.operation) = Operation.remnant tenant session (run.map (·.operation))) :
    first.observed tenant session run = second.observed tenant session rest := by
  induction run generalizing first second rest with
  | nil =>
    rw [List.map_eq_nil_iff.mp erased]
    rfl
  | cons request later ih =>
    have sharedLater := fun other member => shared other (List.mem_cons_of_mem request member)
    rw [List.map_cons] at erased
    cases remains : request.operation.remains tenant session with
    | false =>
      have unconcerned : ¬request.operation.concerns tenant session = true := fun concerned =>
        Bool.false_ne_true (remains.symm.trans (Operation.remains_of_concerns concerned))
      rw [Operation.remnant_cons_erased remains] at erased
      rw [Deployment.observed, if_neg unconcerned]
      exact ih ((serve_erased first remains).trans alike) sharedLater erased
    | true =>
      rw [Operation.remnant_cons_left remains] at erased
      cases rest with
      | nil => cases erased
      | cons left others =>
        obtain ⟨head, erasedLater⟩ := List.cons.inj erased
        have same : left.operation = request.operation.narrowed tenant session := head
        obtain ⟨after, answers⟩ :=
          alike.serve (shared request List.mem_cons_self) remains same
        have observedLater := ih after sharedLater erasedLater
        rw [Deployment.observed, Deployment.observed, same, Operation.concerns_narrowed,
          observedLater]
        split
        · rename_i concerned
          rw [answers concerned]
        · rfl

/-- From any deployment on, a run and what is left of it when all else than a session of a tenant is
erased give the session, and the rules of the tenant, the same answers, apart from the stamps of
diagnoses. -/
theorem session_isolated (state : Deployment) (tenant session : String) (run rest : List Request)
    (shared : ∀ request ∈ run, request.operation.keepsShared = true)
    (erased : rest.map (·.operation) = Operation.remnant tenant session (run.map (·.operation))) :
    state.observed tenant session run = state.observed tenant session rest :=
  (Alike.refl tenant session state).observed shared erased

/-- A stall of a tenant's session. -/
def stallOf (tenant session : String) : Event :=
  { Analysis.stall 1 with tenant := tenant, session := session }

/-- Two tenants at work on one deployment. -/
def mixedRun : List Operation :=
  [.addRule "b" Analysis.stallRule, .addEvents [stallOf "b" "s", stallOf "a" "s", stallOf "a" "r"],
    .analyze "b" "s" true, .analyze "a" "r" true, .analyze "a" "s" true, .activeRules "b",
    .readDiagnoses "a" "s", .activeRules "a"]

/-- What is left of it for one session. -/
def sessionRun : List Operation :=
  [.addEvents [stallOf "a" "s"], .analyze "a" "s" true, .readDiagnoses "a" "s", .activeRules "a"]

/-- Requests whose diagnoses are identified by the place of the request. -/
def requestsOf (operations : List Operation) : List Request :=
  operations.zipIdx.map fun (operation, place) =>
    ⟨"", fun _ => { id := integerText place, time := default }, operation⟩

theorem mixed_run_isolated :
    (requestsOf sessionRun).map (·.operation) =
        Operation.remnant "a" "s" ((requestsOf mixedRun).map (·.operation)) ∧
      stalled.observed "a" "s" (requestsOf mixedRun) =
        stalled.observed "a" "s" (requestsOf sessionRun) :=
  ⟨rfl, session_isolated stalled "a" "s" (requestsOf mixedRun) (requestsOf sessionRun) (by decide)
    rfl⟩

end Deployment

end EnrollmentDiagnosis
