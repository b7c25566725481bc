import EnrollmentDiagnosis.Proofs.DeploymentRuns
import EnrollmentDiagnosis.Proofs.DocumentEntries
import EnrollmentDiagnosis.Proofs.RuleHistory

set_option autoImplicit false

namespace EnrollmentDiagnosis

namespace RuleBook

namespace Catalogue

/-- One text gives the same rules, in whichever files and under whichever path it stands. -/
theorem readFile_rules_of_text (catalogue : Catalogue) {files others : Files} {path other : Path}
    (sameText : others.read? path = files.read? other) {document : Document}
    (read : (catalogue.readFile files other).result = .ok document) :
    (catalogue.readFile others path).result.map Document.rules = .ok document.rules := by
  unfold readFile at read ⊢
  rw [sameText]
  cases found : files.read? other with
  | none =>
    rw [found] at read
    cases read
  | some text =>
    rw [found] at read
    simp only [readDocument] at read ⊢
    cases parsed : Origin.parse ⟨other.text, false, some catalogue.settings.defaultThreshold⟩
        text with
    | error e =>
      rw [parsed] at read
      cases read
    | ok _ =>
      rw [parsed] at read
      cases read
      have again : ∃ again, Origin.parse ⟨path.text, false,
          some catalogue.settings.defaultThreshold⟩ text = .ok again ∧
            again.rules = document.rules := by
        refine Origin.parse_congr ?_ ?_ parsed <;> rfl
      obtain ⟨again, parsedToo, sameRules⟩ := again
      rw [parsedToo]
      exact congrArg Except.ok sameRules

/-- A file gives the same rules under all its paths. -/
theorem readFile_rules_congr (catalogue : Catalogue) (files : Files) {path other : Path}
    (same : path.resolved = other.resolved) {document : Document}
    (read : (catalogue.readFile files other).result = .ok document) :
    (catalogue.readFile files path).result.map Document.rules = .ok document.rules := by
  have sameText : files.read? path = files.read? other := by
    rw [Files.read?, same, ← Files.read?]
  exact readFile_rules_of_text catalogue sameText read

variable {files : Files} {catalogue later : Catalogue}

theorem SameRules.symm (same : SameRules files later catalogue) :
    SameRules files catalogue later :=
  ⟨⟨same.settings.symm, same.choices.symm, same.tenantRules.symm⟩, same.library.symm,
    same.sharedFile.symm⟩

/-- What is loaded from a file, under any of its paths, is kept as it would be for the shared
file. -/
theorem loadFile_sameRules (catalogue : Catalogue) (elapsed : String) (files : Files)
    (path : Path) :
    SameRules files (catalogue.loadFile elapsed files path).catalogue catalogue := by
  have after : (catalogue.loadFile elapsed files path).catalogue =
      (catalogue.fileRules files path).catalogue := Loading.logged_catalogue _ _ _
  have reads := readsOnly_file files path
  rw [after]
  unfold fileRules
  cases kept : catalogue.cache.lookup (.file path.resolved) with
  | some rules =>
    rw [loadOnce_of_kept kept]
    exact .refl files catalogue
  | none =>
    rw [(loadOnce_of_absent reads kept).2]
    cases read : (catalogue.readFile files path).result with
    | error e => exact .refl files catalogue
    | ok document =>
      simp only
      have contents := keep_contents catalogue (.file path.resolved) document.rules
      refine ⟨contents, ?_, ?_⟩
      · unfold library
        rw [contents.settings]
        split
        · exact loadOnce_keep_other readsOnly_builtin catalogue (by simp) document.rules
        · rfl
      · unfold Catalogue.sharedFile
        rw [contents.settings]
        split
        · rfl
        · rename_i shared _
          by_cases same : shared.resolved = path.resolved
          · unfold fileRules
            rw [same, (loadOnce_of_absent (readsOnly_file files shared) kept).1,
              readFile_rules_congr catalogue files same read]
            cases keeps : catalogue.settings.keepsLoaded with
            | true => rw [loadOnce_of_kept (keep_of_keeps keeps _ _)]
            | false =>
              rw [keep_of_not_keeps keeps,
                (loadOnce_of_absent (readsOnly_file files shared) kept).1,
                readFile_rules_congr catalogue files same read]
          · refine loadOnce_keep_other (readsOnly_file files shared) catalogue ?_ document.rules
            simpa using same

/-- What an operation may make of a catalogue, and the changes of each tenant that it tells: a
reading, the catalogue without what is kept, or what a tenant changes. -/
inductive Moves (files : Files) (told : String → List Change) (before : Catalogue) :
    Catalogue → Prop where
  | read {after : Catalogue} (same : SameRules files after before)
      (untold : ∀ tenant, told tenant = []) : Moves files told before after
  | cleared (untold : ∀ tenant, told tenant = []) : Moves files told before before.clearCache
  | changed {owner : String} {change : Catalogue → Catalogue} (changes : OwnChange owner change)
      (own : ∀ history, before.Tells owner history →
        (change before).Tells owner (history ++ told owner))
      (others : ∀ tenant, tenant ≠ owner → told tenant = []) :
      Moves files told before (change before)

section Moving

variable {told : String → List Change} {before after : Catalogue} {tenant : String}
  {history : List Change}

theorem Moves.settings (moves : before.Moves files told after) :
    after.settings = before.settings := by
  cases moves with
  | read same _ => exact same.settings
  | cleared _ => rfl
  | changed changes _ _ => exact changes.settings before

theorem Moves.tells (moves : before.Moves files told after) (tells : before.Tells tenant history) :
    after.Tells tenant (history ++ told tenant) := by
  cases moves with
  | read same untold =>
    rw [untold, List.append_nil]
    exact tells.withContents same.toSameContents
  | cleared untold =>
    rw [untold, List.append_nil]
    exact tells.withContents ⟨rfl, rfl, rfl⟩
  | @changed owner change changes own others =>
    by_cases same : tenant = owner
    · subst same
      exact own history tells
    · rw [others tenant same, List.append_nil]
      exact tells.ofOther changes same

/-- Without what is kept, the same shared rules are loaded whatever tenants have changed. -/
theorem clearCache_shared_congr (files : Files) (settings : after.settings = before.settings) :
    after.clearCache.library.result = before.clearCache.library.result ∧
      (after.clearCache.sharedFile files).result = (before.clearCache.sharedFile files).result :=
  ⟨library_result_congr settings rfl, sharedFile_result_congr files settings rfl⟩

/-- If what is kept is what would be loaded, it stays so. -/
theorem Moves.fresh (moves : before.Moves files told after)
    (fresh : SameRules files before before.clearCache) :
    SameRules files after after.clearCache := by
  obtain ⟨library, sharedFile⟩ := clearCache_shared_congr files moves.settings
  cases moves with
  | read same _ =>
    have cleared : SameRules files after.clearCache before.clearCache :=
      ⟨⟨same.settings, same.choices, same.tenantRules⟩, library, sharedFile⟩
    exact same.trans (fresh.trans cleared.symm)
  | cleared _ => exact .refl files _
  | changed changes _ _ =>
    have sameSettings := changes.settings before
    have sameCache := changes.cache before
    refine ⟨⟨rfl, rfl, rfl⟩, ?_, ?_⟩
    · rw [library_result_congr sameSettings sameCache, library, fresh.library]
    · rw [sharedFile_result_congr files sameSettings sameCache, sharedFile, fresh.sharedFile]

/-- If what is kept is what would be loaded, the shared rules are those of the settings. -/
theorem sharedNow_of_fresh (fresh : SameRules files catalogue catalogue.clearCache) :
    catalogue.sharedNow files = (ofSettings catalogue.settings).sharedNow files := by
  have sameSettings : catalogue.settings = (ofSettings catalogue.settings).settings := rfl
  obtain ⟨library, sharedFile⟩ := clearCache_shared_congr files sameSettings
  have ownLibrary := fresh.library.trans library
  have ownFile := fresh.sharedFile.trans sharedFile
  unfold Catalogue.sharedNow
  rw [ownLibrary, ownFile]
  rfl

end Moving

end Catalogue

end RuleBook

namespace Operation

open RuleBook

/-- False for the operations that change files. -/
def keepsFiles : Operation → Bool
  | writeFile _ _ | deleteFile _ => false
  | _ => true

/-- The changes that an operation makes to a tenant's own rules and choices. -/
def changesOf (settings : CatalogueSettings) (tenant : String) : Operation → List Change
  | addCustomRule owner rule => if owner = tenant then [.add rule] else []
  | addCustomDocument owner text =>
    if owner = tenant then
      match Catalogue.documentOf settings owner text with
      | .ok document => document.rules.map .add
      | .error _ => []
    else []
  | removeCustomRule owner ruleId => if owner = tenant then [.remove ruleId] else []
  | chooseRule owner ruleId enabled => if owner = tenant then [.choose ruleId enabled] else []
  | _ => []

/-- The history of a tenant's changes in a run. -/
def historyOf (settings : CatalogueSettings) (tenant : String) (run : List Request) :
    List Change :=
  run.flatMap fun request => request.operation.changesOf settings tenant

end Operation

namespace Deployment

open RuleBook

section Steps

variable {state : Deployment} {catalogue : Catalogue}

/-- The catalogue after a step on it. -/
theorem onCatalogue_moves {told : String → List Change} {act : Catalogue → Step}
    {after : Catalogue} (provider : state.rules = .catalogue catalogue)
    (later : (act catalogue).state.rules = .catalogue after)
    (moves : catalogue.Moves state.files told after) :
    ∃ after, (state.onCatalogue act).state.rules = .catalogue after ∧
      catalogue.Moves state.files told after := by
  refine ⟨after, ?_, moves⟩
  simp only [onCatalogue, provider, later]

/-- What every operation makes of the catalogue of a deployment. -/
theorem perform_moves (elapsed : String) (provider : state.rules = .catalogue catalogue)
    (operation : Operation) :
    ∃ after, (state.perform elapsed operation).state.rules = .catalogue after ∧
      catalogue.Moves state.files (fun tenant => operation.changesOf catalogue.settings tenant)
        after := by
  have stays : ∀ told : String → List Change, (∀ tenant, told tenant = []) →
      catalogue.Moves state.files told catalogue :=
    fun _ untold => .read (.refl state.files catalogue) untold
  cases operation with
  | addCustomRule owner rule =>
    refine onCatalogue_moves provider rfl (.changed (Catalogue.addRule_ownChange owner rule) ?_ ?_)
    · intro history tells
      rw [Operation.changesOf, if_pos rfl]
      exact tells.addRule rule
    · exact fun tenant other => if_neg (Ne.symm other)
  | addCustomDocument owner text =>
    have spec := (Catalogue.addDocument_spec catalogue owner text).2
    refine ⟨(catalogue.addDocument owner text).catalogue, ?_, ?_⟩
    · simp only [perform, onCatalogue, provider, loaded]
    · rw [spec]
      cases outcome : Catalogue.documentOf catalogue.settings owner text with
      | error e =>
        refine stays _ fun tenant => ?_
        simp only [Operation.changesOf, outcome, ite_self]
      | ok document =>
        refine .changed (Catalogue.addRules_ownChange owner document.rules) ?_ ?_
        · intro history tells
          simp only [Operation.changesOf, ↓reduceIte, outcome]
          exact tells.addRules document.rules
        · exact fun tenant other => if_neg (Ne.symm other)
  | removeCustomRule owner ruleId =>
    refine onCatalogue_moves provider rfl
      (.changed (Catalogue.removeRule_ownChange owner ruleId) ?_ ?_)
    · intro history tells
      rw [Operation.changesOf, if_pos rfl]
      exact tells.removeRule ruleId
    · exact fun tenant other => if_neg (Ne.symm other)
  | chooseRule owner ruleId enabled =>
    refine onCatalogue_moves provider rfl
      (.changed (Catalogue.choose_ownChange owner ruleId enabled) ?_ ?_)
    · intro history tells
      rw [Operation.changesOf, if_pos rfl]
      exact tells.choose ruleId enabled
    · exact fun tenant other => if_neg (Ne.symm other)
  | analyze owner session persist =>
    obtain ⟨rules, same, -, after⟩ := analyze_spec state elapsed owner session persist
    rw [provider] at same
    simp only [perform, after]
    cases rules with
    | absent => cases same
    | memory store => cases same
    | catalogue read => exact ⟨read, rfl, .read same fun _ => rfl⟩
  | addRule owner rule =>
    refine ⟨catalogue, ?_, stays _ fun _ => rfl⟩
    simp only [perform, provider, answered]
  | activeRules owner =>
    simp only [perform, provider]
    exact onCatalogue_moves provider rfl
      (.read (catalogue.activeRules_spec elapsed state.files owner).2 fun _ => rfl)
  | allRules owner =>
    exact onCatalogue_moves provider rfl
      (.read (catalogue.allRules_spec elapsed state.files owner).2 fun _ => rfl)
  | sharedRules =>
    exact onCatalogue_moves provider rfl
      (.read (catalogue.sharedRules_spec elapsed state.files).2 fun _ => rfl)
  | loadFile path =>
    exact onCatalogue_moves provider rfl
      (.read (catalogue.loadFile_sameRules elapsed state.files path) fun _ => rfl)
  | clearCache => exact onCatalogue_moves provider rfl (.cleared fun _ => rfl)
  | _ => exact ⟨catalogue, provider, stays _ fun _ => rfl⟩

theorem onCatalogue_files {act : Catalogue → Step}
    (keeps : ∀ catalogue, (act catalogue).state.files = state.files) :
    (state.onCatalogue act).state.files = state.files := by
  unfold onCatalogue
  split
  · exact keeps _
  · rfl

theorem perform_files (elapsed : String) {operation : Operation}
    (keeps : operation.keepsFiles = true) :
    (state.perform elapsed operation).state.files = state.files := by
  cases operation with
  | analyze owner session persist =>
    obtain ⟨rules, -, -, after⟩ := analyze_spec state elapsed owner session persist
    simp only [perform, after]
  | addRule owner rule =>
    simp only [perform]
    split <;> rfl
  | activeRules owner =>
    simp only [perform]
    split
    · rfl
    · exact onCatalogue_files fun _ => rfl
  | allRules | sharedRules | loadFile | chooseRule | addCustomRule | addCustomDocument
  | removeCustomRule | clearCache => exact onCatalogue_files fun _ => rfl
  | writeFile | deleteFile => cases keeps
  | _ => rfl

end Steps

/-- A deployment with a catalogue of given settings, which stands as a tenant's history tells. -/
def Stands (settings : CatalogueSettings) (tenant : String) (history : List Change)
    (state : Deployment) : Prop :=
  ∃ catalogue, state.rules = .catalogue catalogue ∧ catalogue.settings = settings ∧
    catalogue.Tells tenant history

/-- A deployment with given files, in whose catalogue what is kept is what would be loaded. -/
def UpToDate (files : Files) (state : Deployment) : Prop :=
  state.files = files ∧ ∃ catalogue, state.rules = .catalogue catalogue ∧
    Catalogue.SameRules files catalogue catalogue.clearCache

section Runs

variable {settings : CatalogueSettings} {files : Files} {tenant : String} {history : List Change}
  {state : Deployment}

theorem stands_of_initial (initial : state.rules = .catalogue (Catalogue.ofSettings settings))
    (tenant : String) : state.Stands settings tenant [] :=
  ⟨_, initial, rfl, Catalogue.ofSettings_tells settings tenant⟩

theorem upToDate_of_initial
    (initial : state.rules = .catalogue (Catalogue.ofSettings settings)) :
    state.UpToDate state.files :=
  ⟨rfl, _, initial, .refl _ _⟩

/-- An operation leaves a deployment standing as the history tells with the changes of the
operation. -/
theorem Stands.perform (stands : state.Stands settings tenant history) (elapsed : String)
    (operation : Operation) :
    (state.perform elapsed operation).state.Stands settings tenant
      (history ++ operation.changesOf settings tenant) := by
  obtain ⟨catalogue, provider, rfl, tells⟩ := stands
  obtain ⟨after, later, moves⟩ := perform_moves elapsed provider operation
  exact ⟨after, later, moves.settings, moves.tells tells⟩

theorem UpToDate.perform (upToDate : state.UpToDate files) (elapsed : String)
    {operation : Operation} (keeps : operation.keepsFiles = true) :
    (state.perform elapsed operation).state.UpToDate files := by
  obtain ⟨rfl, catalogue, provider, fresh⟩ := upToDate
  obtain ⟨after, later, moves⟩ := perform_moves elapsed provider operation
  exact ⟨perform_files elapsed keeps, after, later, moves.fresh fresh⟩

/-- Any run leaves a deployment standing as the history tells with the changes of the run. -/
theorem Stands.serveAll (stands : state.Stands settings tenant history) (run : List Request) :
    (state.serveAll run).Stands settings tenant
      (history ++ Operation.historyOf settings tenant run) := by
  induction run generalizing state history with
  | nil =>
    rw [Operation.historyOf, List.flatMap_nil, List.append_nil]
    exact stands
  | cons request rest ih =>
    have stamped : (state.withStamps request.stampFor).Stands settings tenant history := stands
    have later := ih (stamped.perform request.elapsed request.operation)
    rwa [Operation.historyOf, List.flatMap_cons, ← Operation.historyOf, ← List.append_assoc]

theorem UpToDate.serveAll (upToDate : state.UpToDate files) {run : List Request}
    (keeps : ∀ request ∈ run, request.operation.keepsFiles = true) :
    (state.serveAll run).UpToDate files := by
  induction run generalizing state with
  | nil => exact upToDate
  | cons request rest ih =>
    have stamped : (state.withStamps request.stampFor).UpToDate files := upToDate
    have step := stamped.perform request.elapsed (keeps request List.mem_cons_self)
    exact ih step fun other member => keeps other (List.mem_cons_of_mem request member)

end Runs

section Answers

variable {settings : CatalogueSettings} {files : Files} {tenant : String} {history : List Change}
  {state : Deployment} {catalogue : Catalogue}

theorem sharedRules_result (provider : state.rules = .catalogue catalogue) (elapsed : String) :
    (state.perform elapsed .sharedRules).result =
      ((catalogue.sharedNow state.files).map Answer.rules).mapError .catalogue := by
  simp only [perform, onCatalogue, provider, loaded,
    (catalogue.sharedRules_spec elapsed state.files).1]

/-- All rules of a tenant, as its history tells, with the shared rules as they are read. -/
theorem allRules_result (provider : state.rules = .catalogue catalogue)
    (tells : catalogue.Tells tenant history) (elapsed : String) :
    (state.perform elapsed (.allRules tenant)).result =
      (((catalogue.sharedNow state.files).map (Change.rulesAfter history)).map
        Answer.rules).mapError .catalogue := by
  have effective : catalogue.effective tenant = Change.rulesAfter history :=
    funext tells.effective
  simp only [perform, onCatalogue, provider, loaded,
    (catalogue.allRules_spec elapsed state.files tenant).1, effective]

theorem activeRules_result (provider : state.rules = .catalogue catalogue)
    (tells : catalogue.Tells tenant history) (elapsed : String) :
    (state.perform elapsed (.activeRules tenant)).result =
      (((catalogue.sharedNow state.files).map fun shared =>
        (Change.rulesAfter history shared).filter (·.enabled)).map
          Answer.rules).mapError .catalogue := by
  have effective : catalogue.effective tenant = Change.rulesAfter history :=
    funext tells.effective
  simp only [perform, onCatalogue, provider, loaded,
    (catalogue.activeRules_spec elapsed state.files tenant).1, Catalogue.activeNow, effective]

/-- The rules that a deployment with given files reads for the tenant. -/
theorem Stands.rules (stands : state.Stands settings tenant history)
    (upToDate : state.UpToDate files) (elapsed : String) :
    let shared := (Catalogue.ofSettings settings).sharedNow files
    (state.perform elapsed (.allRules tenant)).result =
        ((shared.map (Change.rulesAfter history)).map Answer.rules).mapError .catalogue ∧
      (state.perform elapsed (.activeRules tenant)).result =
        ((shared.map fun rules => (Change.rulesAfter history rules).filter (·.enabled)).map
          Answer.rules).mapError .catalogue := by
  intro shared
  obtain ⟨catalogue, provider, rfl, tells⟩ := stands
  obtain ⟨rfl, other, sameProvider, fresh⟩ := upToDate
  obtain rfl : catalogue = other := RuleProvider.catalogue.inj (provider.symm.trans sameProvider)
  have sharedNow : catalogue.sharedNow state.files = shared :=
    Catalogue.sharedNow_of_fresh fresh
  rw [← sharedNow]
  exact ⟨allRules_result provider tells elapsed, activeRules_result provider tells elapsed⟩

theorem Stands.removeCustomRule (stands : state.Stands settings tenant history)
    (elapsed ruleId : String) :
    (state.perform elapsed (.removeCustomRule tenant ruleId)).result =
      .ok (.flag (Change.current? history ruleId).isSome) := by
  obtain ⟨catalogue, provider, -, tells⟩ := stands
  rw [← tells.hasRule]
  simp only [Deployment.perform, onCatalogue, provider, withCatalogue]

end Answers

/-- In a deployment that starts with the rules that its catalogue's settings give, a run of any
operations that leave the files as they are makes of the rules of a tenant what the history of the
tenant's changes tells. The tenant's own rules have different identities, one is there to be removed
if and only if the history tells so, and when it is removed the shared rules of its identity count
again. -/
theorem rules_of_history (state : Deployment) (settings : CatalogueSettings)
    (initial : state.rules = .catalogue (Catalogue.ofSettings settings)) (run : List Request)
    (keeps : ∀ request ∈ run, request.operation.keepsFiles = true) (tenant elapsed : String) :
    let shared := ((Catalogue.ofSettings settings).sharedRules elapsed state.files).result
    let history := Operation.historyOf settings tenant run
    let later := state.serveAll run
    (later.perform elapsed (.allRules tenant)).result =
        ((shared.map (Change.rulesAfter history)).map Answer.rules).mapError .catalogue ∧
      (later.perform elapsed (.activeRules tenant)).result =
        ((shared.map fun rules => (Change.rulesAfter history rules).filter (·.enabled)).map
          Answer.rules).mapError .catalogue ∧
      ((Change.ownRules history).map (·.id)).Nodup ∧
      ∀ ruleId,
        let removal := later.perform elapsed (.removeCustomRule tenant ruleId)
        removal.result = .ok (.flag (Change.current? history ruleId).isSome) ∧
          (removal.state.perform elapsed (.allRules tenant)).result =
            ((shared.map (Change.rulesAfter (history ++ [.remove ruleId]))).map
              Answer.rules).mapError .catalogue ∧
          ∀ rules, shared = .ok rules →
            (Change.rulesAfter (history ++ [.remove ruleId]) rules).filter (·.id == ruleId) =
              (rules.filter (·.id == ruleId)).map (Change.chosen history) := by
  intro shared history later
  have sharedNow : shared = (Catalogue.ofSettings settings).sharedNow state.files :=
    (Catalogue.sharedRules_spec _ elapsed state.files).1
  have stands : later.Stands settings tenant history :=
    (stands_of_initial initial tenant).serveAll run
  have upToDate : later.UpToDate state.files := (upToDate_of_initial initial).serveAll keeps
  rw [sharedNow]
  refine ⟨(stands.rules upToDate elapsed).1, (stands.rules upToDate elapsed).2,
    Change.ownRules_ids_nodup history, fun ruleId => ?_⟩
  have keepsFiles : (Operation.removeCustomRule tenant ruleId).keepsFiles = true := rfl
  have standsWithout := stands.perform elapsed (.removeCustomRule tenant ruleId)
  have upToDateWithout := upToDate.perform elapsed keepsFiles
  rw [Operation.changesOf, if_pos rfl] at standsWithout
  exact ⟨stands.removeCustomRule elapsed ruleId, (standsWithout.rules upToDateWithout elapsed).1,
    fun rules _ => Change.rulesAfter_remove_own history ruleId rules⟩

def sharedSettings : CatalogueSettings := ⟨false, some ⟨"", ["rules.yaml"]⟩, true, 50⟩

/-- A deployment with a file of two shared rules. -/
def withSharedFile : Deployment where
  engine := ⟨Condition.evaluator default, fun _ => default⟩
  maxEvents := 0
  rules := .catalogue (Catalogue.ofSettings sharedSettings)
  files := [(⟨"", ["rules.yaml"]⟩,
    "rules:\n- rule_id: a\n  title: A\n- rule_id: b\n  title: B\n")]
  events := .empty
  diagnoses := .empty
  eventOutage := none
  diagnosisOutage := none
  isStale := false

/-- A tenant that replaces a shared rule, and removes a rule and adds it again. -/
def replacingRun : List Request :=
  let own (id : String) : Rule := { (default : Rule) with id := id, enabled := true }
  [.chooseRule "t" "c" false, .addCustomRule "t" (own "c"), .addCustomRule "t" (own "a"),
    .loadFile ⟨"", ["x", "..", "rules.yaml"]⟩, .removeCustomRule "t" "c",
    .chooseRule "u" "b" false, .clearCache, .addCustomRule "t" (own "c"), .allRules "u"].map
      fun operation => ⟨"", fun _ => default, operation⟩

theorem replacing_run_told :
    (∀ request ∈ replacingRun, request.operation.keepsFiles = true) ∧
      ∃ rules, ((withSharedFile.serveAll replacingRun).perform "" (.allRules "t")).result =
          .ok (.rules rules) ∧
        rules.map (fun rule => (rule.id, rule.enabled)) =
          [("b", true), ("a", true), ("c", false)] := by
  have keeps : ∀ request ∈ replacingRun, request.operation.keepsFiles = true := by decide
  obtain ⟨all, -⟩ := rules_of_history withSharedFile sharedSettings rfl replacingRun keeps "t" ""
  have evaluated : ((Catalogue.ofSettings sharedSettings).sharedRules ""
      withSharedFile.files).result.toOption.map (fun shared =>
        (Change.rulesAfter (Operation.historyOf sharedSettings "t" replacingRun) shared).map
          fun rule => (rule.id, rule.enabled)) =
            some [("b", true), ("a", true), ("c", false)] := by
    decide +kernel
  obtain ⟨shared, loaded, told⟩ := Except.ok_of_toOption_map evaluated
  rw [loaded] at all
  exact ⟨keeps, _, all, told⟩

end Deployment

end EnrollmentDiagnosis
