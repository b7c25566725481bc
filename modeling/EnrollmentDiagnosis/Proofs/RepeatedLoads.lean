import EnrollmentDiagnosis.Proofs.FailedAnalyses

set_option autoImplicit false

namespace EnrollmentDiagnosis

namespace RuleBook

namespace Catalogue

/-- The rules that a file gives, if it can be read. -/
def fileNow (settings : CatalogueSettings) (files : Files) (path : Path) :
    Except CatalogueError (List Rule) :=
  ((ofSettings settings).readFile files path).result.map Document.rules

section Lookups

variable {c : Catalogue} {load : Catalogue → Loading Document} {key : CacheKey}

theorem lookup_loadOnce_self (reads : ReadsOnly load) (keeps : c.settings.keepsLoaded = true) :
    (c.loadOnce key load).catalogue.cache.lookup key =
      (c.cache.lookup key).or ((load c).result.map Document.rules).toOption := by
  cases kept : c.cache.lookup key with
  | some rules =>
    rw [loadOnce_of_kept kept, kept, Option.some_or]
  | none =>
    rw [(loadOnce_of_absent reads kept).2, Option.none_or]
    cases (load c).result with
    | ok document => exact keep_of_keeps keeps key document.rules
    | error e => exact kept

theorem lookup_loadOnce_other (reads : ReadsOnly load) {other : CacheKey}
    (different : other ≠ key) :
    (c.loadOnce key load).catalogue.cache.lookup other = c.cache.lookup other := by
  cases kept : c.cache.lookup key with
  | some rules => rw [loadOnce_of_kept kept]
  | none =>
    rw [(loadOnce_of_absent reads kept).2]
    split
    · exact keep_lookup_other c different _
    · rfl

theorem readFile_eq_fileNow (c : Catalogue) (files : Files) (path : Path) :
    (c.readFile files path).result.map Document.rules = fileNow c.settings files path := by
  unfold fileNow
  rw [(readsOnly_file files path).bySettings c (ofSettings c.settings) rfl]

theorem fileNow_of_other {settings : CatalogueSettings} {files : Files} {path other : Path}
    (same : path.resolved = other.resolved) {rules : List Rule}
    (read : fileNow settings files other = .ok rules) :
    fileNow settings files path = .ok rules := by
  unfold fileNow at read ⊢
  cases found : ((ofSettings settings).readFile files other).result with
  | error e =>
    rw [found] at read
    cases read
  | ok document =>
    rw [found] at read
    cases read
    exact readFile_rules_congr _ files same found

/-- A file gives the same rules under all its paths, or none; its errors tell the path. -/
theorem fileNow_congr (settings : CatalogueSettings) (files : Files) {path other : Path}
    (same : path.resolved = other.resolved) :
    (fileNow settings files path).toOption = (fileNow settings files other).toOption := by
  cases read : fileNow settings files other with
  | ok rules => rw [fileNow_of_other same read]
  | error e =>
    cases readToo : fileNow settings files path with
    | error e => rfl
    | ok rules => cases (fileNow_of_other same.symm readToo).symm.trans read

theorem fileRules_result (c : Catalogue) (files : Files) (path : Path) :
    (c.fileRules files path).result =
      match c.cache.lookup (.file path.resolved) with
      | some rules => .ok rules
      | none => fileNow c.settings files path := by
  unfold fileRules
  cases kept : c.cache.lookup (.file path.resolved) with
  | some rules => rw [loadOnce_of_kept kept]
  | none => rw [(loadOnce_of_absent (readsOnly_file files path) kept).1, readFile_eq_fileNow]

/-- Loading a file keeps its rules, unless rules of it are kept already. -/
theorem lookup_fileRules (keeps : c.settings.keepsLoaded = true) (files : Files)
    (path other : Path) :
    (c.fileRules files other).catalogue.cache.lookup (.file path.resolved) =
      (c.cache.lookup (.file path.resolved)).or
        (if other.resolved = path.resolved then (fileNow c.settings files path).toOption
          else none) := by
  have reads := readsOnly_file files other
  unfold fileRules
  split
  · rename_i same
    rw [← same, lookup_loadOnce_self reads keeps, readFile_eq_fileNow,
      fileNow_congr c.settings files same]
  · rename_i different
    rw [lookup_loadOnce_other reads (by simpa using Ne.symm different), Option.or_none]

theorem lookup_library (c : Catalogue) (path : Path) :
    c.library.catalogue.cache.lookup (.file path) = c.cache.lookup (.file path) := by
  unfold library
  split
  · exact lookup_loadOnce_other readsOnly_builtin (by simp)
  · rfl

/-- True if the shared rules are read from the file of a path. -/
def sharesFile (settings : CatalogueSettings) (path : Path) : Bool :=
  (ofSettings settings).library.result.toOption.isSome &&
    settings.sharedPath.any fun shared => shared.resolved == path.resolved

/-- Loading the shared rules keeps those of the file that they are read from in the same way. -/
theorem lookup_sharedRules (keeps : c.settings.keepsLoaded = true)
    (library : c.library.result = (ofSettings c.settings).library.result) (elapsed : String)
    (files : Files) (path : Path) :
    (c.sharedRules elapsed files).catalogue.cache.lookup (.file path.resolved) =
      (c.cache.lookup (.file path.resolved)).or
        (if sharesFile c.settings path then (fileNow c.settings files path).toOption
          else none) := by
  have settings : c.library.catalogue.settings = c.settings := (library_sameRules files c).settings
  have before := c.lookup_library path.resolved
  rw [sharedRules_eq, sharesFile, ← library]
  cases outcome : c.library.result with
  | error e =>
    rw [(Loading.andThen_of_error outcome _).2, before]
    simp [Except.toOption]
  | ok rules =>
    rw [(Loading.andThen_of_ok outcome _).2, settings]
    cases shared : c.settings.sharedPath with
    | none => simp [before]
    | some other =>
      dsimp only
      rw [(Loading.andThen_map _ (rules ++ ·)).2, Loading.logged_catalogue,
        lookup_fileRules (by rw [settings, keeps]), before, settings]
      simp [Except.toOption]

end Lookups

end Catalogue

end RuleBook

namespace Operation

open RuleBook

/-- True for the operation that forgets what is kept. -/
def clears : Operation → Bool
  | clearCache => true
  | _ => false

theorem eq_clearCache_of_clears {operation : Operation} (clears : operation.clears = true) :
    operation = .clearCache := by
  cases operation <;> first | rfl | cases clears

/-- True for the operations that read the shared rules. -/
def readsShared : Operation → Bool
  | sharedRules | allRules _ | activeRules _ | analyze .. => true
  | _ => false

/-- True for the operations that load the file of a path, for its own sake or for the shared
rules. -/
def loads (settings : CatalogueSettings) (path : Path) : Operation → Bool
  | loadFile other => other.resolved == path.resolved
  | operation => operation.readsShared && Catalogue.sharesFile settings path

end Operation

namespace RuleBook.Catalogue

/-- What an operation makes of what a catalogue keeps: it loads a file or the shared rules, it
forgets everything, or it leaves everything as it is. -/
inductive Turns (files : Files) (before : Catalogue) : Operation → Catalogue → Prop
  | file (path : Path) : Turns files before (.loadFile path) (before.fileRules files path).catalogue
  | shared {operation : Operation} (elapsed : String) (reads : operation.readsShared = true) :
    Turns files before operation (before.sharedRules elapsed files).catalogue
  | forgotten : Turns files before .clearCache before.clearCache
  | left {operation : Operation} {after : Catalogue} (clears : operation.clears = false)
    (loads : ∀ settings path, operation.loads settings path = false)
    (settings : after.settings = before.settings) (cache : after.cache = before.cache) :
    Turns files before operation after

section Turning

variable {files : Files} {before after : Catalogue} {operation : Operation}

theorem Turns.settings (turns : before.Turns files operation after) :
    after.settings = before.settings := by
  cases turns with
  | file path => exact (loadOnce_contents (readsOnly_file files path) before _).settings
  | shared elapsed _ => exact (before.sharedRules_spec elapsed files).2.settings
  | forgotten => rfl
  | left _ _ settings _ => exact settings

/-- The built-in library always gives what it gives at first. -/
theorem Turns.library (turns : before.Turns files operation after)
    (library : before.library.result = (ofSettings before.settings).library.result) :
    after.library.result = (ofSettings before.settings).library.result := by
  cases turns with
  | file path =>
    rw [← library, ← (before.loadFile_sameRules "" files path).library, loadFile,
      Loading.logged_catalogue]
    rfl
  | shared elapsed _ => exact (before.sharedRules_spec elapsed files).2.library.trans library
  | forgotten => exact library_result_congr rfl rfl
  | left _ _ settings cache => exact (library_result_congr settings cache).trans library

/-- What is kept of a file after an operation: nothing if that forgets it, and else what was kept or
has been loaded now. -/
theorem Turns.lookup (turns : before.Turns files operation after)
    (keeps : before.settings.keepsLoaded = true)
    (library : before.library.result = (ofSettings before.settings).library.result) (path : Path) :
    after.cache.lookup (.file path.resolved) =
      if operation.clears then none
      else (before.cache.lookup (.file path.resolved)).or
        (if operation.loads before.settings path then (fileNow before.settings files path).toOption
          else none) := by
  cases turns with
  | file other => simp only [lookup_fileRules keeps, Operation.clears, Operation.loads, beq_iff_eq,
      Bool.false_eq_true, ↓reduceIte]
  | shared elapsed reads =>
    rw [lookup_sharedRules keeps library]
    cases operation with
    | sharedRules | allRules | activeRules | analyze => rfl
    | _ => cases reads
  | forgotten => rfl
  | left clears loads _ cache =>
    rw [clears, loads, cache]
    simp

variable {allowed : Files → Prop}

/-- If it makes no difference what is kept, it makes none after an operation, as long as the files
that the operation loads stay as they are. -/
theorem Turns.fresh (turns : before.Turns files operation after)
    (library : before.library.result = (ofSettings before.settings).library.result)
    (stays : ∀ path, operation.loads before.settings path = true →
      ∀ later, allowed later → later.read? path = files.read? path)
    (fresh : before.clearCache.LoadsAlike allowed before) :
    after.clearCache.LoadsAlike allowed after := by
  have ofRead : after.LoadsAlike allowed before → after.clearCache.LoadsAlike allowed after :=
    fun alike => (alike.clearCache.trans fresh).trans alike.symm
  cases turns with
  | file path =>
    refine ofRead (fileRules_loadsAlike before files path (.inr fun later permitted => ?_))
    exact stays path (beq_self_eq_true _) later permitted
  | shared elapsed reads =>
    refine ofRead (sharedRules_loadsAlike before elapsed files ?_)
    cases outcome : before.library.result with
    | error e =>
      left
      rw [(before.sharedRules_spec elapsed files).1, sharedNow, outcome]
      exact ⟨e, rfl⟩
    | ok rules =>
      right
      intro later permitted path shared
      refine stays path ?_ later permitted
      have sharesFile : sharesFile before.settings path = true := by
        simp [Catalogue.sharesFile, ← library, outcome, shared, Except.toOption]
      cases operation with
      | sharedRules | allRules | activeRules | analyze => exact sharesFile
      | _ => cases reads
  | forgotten => exact .refl allowed _
  | left _ _ settings cache =>
    exact fresh.changed ⟨rfl, rfl, rfl⟩ settings rfl settings cache

end Turning

end RuleBook.Catalogue

namespace Deployment

open RuleBook

theorem onCatalogue_turns {state : Deployment} {catalogue after : Catalogue}
    {operation : Operation} {act : Catalogue → Step}
    (provider : state.rules = .catalogue catalogue)
    (later : (act catalogue).state.rules = .catalogue after)
    (turns : catalogue.Turns state.files operation after) :
    ∃ after, (state.onCatalogue act).state.rules = .catalogue after ∧
      catalogue.Turns state.files operation after := by
  refine ⟨after, ?_, turns⟩
  simp only [onCatalogue, provider, later]

/-- Every operation on a deployment with a catalogue does one of these. -/
theorem perform_turns {state : Deployment} {catalogue : Catalogue}
    (provider : state.rules = .catalogue catalogue) (elapsed : String) (operation : Operation) :
    ∃ after, (state.perform elapsed operation).state.rules = .catalogue after ∧
      catalogue.Turns state.files operation after := by
  cases operation with
  | loadFile path =>
    refine onCatalogue_turns provider rfl ?_
    rw [Catalogue.loadFile, Loading.logged_catalogue]
    exact .file path
  | sharedRules => exact onCatalogue_turns provider rfl (.shared elapsed rfl)
  | allRules tenant =>
    refine onCatalogue_turns provider rfl ?_
    rw [Catalogue.allRules_catalogue]
    exact .shared elapsed rfl
  | activeRules tenant =>
    simp only [perform, provider]
    refine onCatalogue_turns provider rfl ?_
    rw [Catalogue.activeRules_catalogue]
    exact .shared elapsed rfl
  | analyze tenant session persist =>
    refine ⟨(catalogue.activeRules elapsed state.files tenant).catalogue, ?_, ?_⟩
    · simp only [perform, analyze, provider, analyzeWith]
    · rw [Catalogue.activeRules_catalogue]
      exact .shared elapsed rfl
  | clearCache => exact onCatalogue_turns provider rfl .forgotten
  | chooseRule | addCustomRule | removeCustomRule =>
    exact onCatalogue_turns provider rfl (.left rfl (fun _ _ => rfl) rfl rfl)
  | addCustomDocument owner text =>
    obtain ⟨change, changes, changed⟩ :=
      Catalogue.addDocument_ownChange catalogue.settings owner text
    refine onCatalogue_turns provider rfl (.left rfl (fun _ _ => rfl) ?_ ?_)
    · rw [changed catalogue rfl, changes.settings]
    · rw [changed catalogue rfl, changes.cache]
  | addRule owner rule =>
    refine ⟨catalogue, ?_, .left rfl (fun _ _ => rfl) rfl rfl⟩
    simp only [perform, provider, answered]
  | _ => exact ⟨catalogue, provider, .left rfl (fun _ _ => rfl) rfl rfl⟩

/-- The operations of a run, each with the files that it finds. -/
def moments (state : Deployment) : List Request → List (Files × Operation)
  | [] => []
  | request :: rest => (state.files, request.operation) :: moments (state.serve request).state rest

/-- What a file first gave since what is kept was last forgotten, in a run of operations that each
find certain files. -/
def firstGiven (settings : CatalogueSettings) (path : Path) (moments : List (Files × Operation)) :
    Option (List Rule) :=
  (moments.reverse.takeWhile fun moment => !moment.2.clears).reverse.findSome? fun moment =>
    if moment.2.loads settings path then (Catalogue.fileNow settings moment.1 path).toOption
    else none

theorem firstGiven_concat (settings : CatalogueSettings) (path : Path)
    (earlier : List (Files × Operation)) (files : Files) (operation : Operation) :
    firstGiven settings path (earlier ++ [(files, operation)]) =
      if operation.clears then none
      else (firstGiven settings path earlier).or
        (if operation.loads settings path then (Catalogue.fileNow settings files path).toOption
          else none) := by
  unfold firstGiven
  rw [List.reverse_append, List.reverse_singleton, List.singleton_append, List.takeWhile_cons]
  cases operation.clears with
  | true => rfl
  | false => simp [List.findSome?_append]

/-- A deployment with a catalogue of given settings, whose built-in library gives what it gives at
first. -/
structure Provides (settings : CatalogueSettings) (state : Deployment) (catalogue : Catalogue) :
    Prop where
  provider : state.rules = .catalogue catalogue
  sameSettings : catalogue.settings = settings
  library : catalogue.library.result = (Catalogue.ofSettings settings).library.result

section Runs

variable {settings : CatalogueSettings} {path : Path} {state : Deployment} {catalogue : Catalogue}

theorem provides_of_initial (initial : state.rules = .catalogue (Catalogue.ofSettings settings)) :
    state.Provides settings (Catalogue.ofSettings settings) := ⟨initial, rfl, rfl⟩

theorem Provides.withStamps (provides : state.Provides settings catalogue)
    (stampFor : String → Stamp) : (state.withStamps stampFor).Provides settings catalogue :=
  ⟨provides.provider, provides.sameSettings, provides.library⟩

theorem Provides.perform (provides : state.Provides settings catalogue) (elapsed : String)
    (operation : Operation) :
    ∃ after, (state.perform elapsed operation).state.Provides settings after ∧
      catalogue.Turns state.files operation after := by
  obtain ⟨provider, rfl, library⟩ := provides
  obtain ⟨after, later, turns⟩ := perform_turns provider elapsed operation
  exact ⟨after, ⟨later, turns.settings, turns.library library⟩, turns⟩

/-- Through any run what is kept of a file is what it first gave. -/
theorem Provides.serveAll (keeps : settings.keepsLoaded = true)
    (provides : state.Provides settings catalogue) {earlier : List (Files × Operation)}
    (kept : catalogue.cache.lookup (.file path.resolved) = firstGiven settings path earlier)
    (run : List Request) :
    ∃ after, (state.serveAll run).Provides settings after ∧
      after.cache.lookup (.file path.resolved) =
        firstGiven settings path (earlier ++ state.moments run) := by
  induction run generalizing state catalogue earlier with
  | nil =>
    rw [moments, List.append_nil]
    exact ⟨catalogue, provides, kept⟩
  | cons request rest ih =>
    obtain ⟨after, later, turns⟩ :=
      (provides.withStamps request.stampFor).perform request.elapsed request.operation
    have step : after.cache.lookup (.file path.resolved) =
        firstGiven settings path (earlier ++ [(state.files, request.operation)]) := by
      obtain ⟨-, rfl, library⟩ := provides
      rw [turns.lookup keeps library, kept, firstGiven_concat]
      rfl
    have rest := ih later step
    rwa [List.append_assoc, List.singleton_append] at rest

end Runs

/-- A file is loaded as it is kept, or else as it is now. -/
theorem Provides.loadFile {settings : CatalogueSettings} {state : Deployment}
    {catalogue : Catalogue} (provides : state.Provides settings catalogue) (elapsed : String)
    (path : Path) :
    (state.perform elapsed (.loadFile path)).result =
      ((match catalogue.cache.lookup (CacheKey.file path.resolved) with
        | some rules => Except.ok rules
        | none => Catalogue.fileNow settings state.files path).map
          Answer.rules).mapError .catalogue := by
  have result := catalogue.fileRules_result state.files path
  rw [provides.sameSettings] at result
  rw [← result]
  simp only [Deployment.perform, onCatalogue, provides.provider, loaded, Catalogue.loadFile,
    Loading.logged_result]
  rfl

/-- A load that fails leaves the deployment as it is. -/
theorem perform_loadFile_of_error {state : Deployment} {elapsed : String} {path : Path}
    {e : OperationError}
    (failed : (state.perform elapsed (.loadFile path)).result = .error e) :
    (state.perform elapsed (.loadFile path)).state = state := by
  unfold perform onCatalogue at failed ⊢
  cases provider : state.rules with
  | absent | memory => rfl
  | catalogue catalogue =>
    simp only [provider, loaded, Catalogue.loadFile, Loading.logged_result,
      Loading.logged_catalogue] at failed ⊢
    cases outcome : (catalogue.fileRules state.files path).result with
    | ok rules =>
      unfold Catalogue.fileRules at outcome
      rw [outcome] at failed
      cases failed
    | error reason =>
      have unchanged := Catalogue.loadOnce_of_error (Catalogue.readsOnly_file state.files path)
        outcome
      rw [unchanged, ← provider]

section Clears

variable {allowed : Files → Prop} {settings : CatalogueSettings} {first second : Deployment}
  {catalogue : Catalogue}

theorem LoadsAlike.files (alike : first.LoadsAlike allowed second) :
    first.files = second.files := by
  cases alike <;> rfl

/-- Where it makes no difference what is kept, it makes none to forget it. -/
theorem LoadsAlike.forget (provider : first.rules = .catalogue catalogue)
    (fresh : catalogue.clearCache.LoadsAlike allowed catalogue)
    (alike : first.LoadsAlike allowed second) :
    LoadsAlike allowed { first with rules := .catalogue catalogue.clearCache } second := by
  cases alike with
  | same =>
    have alike : LoadsAlike allowed { first with rules := .catalogue catalogue.clearCache }
        { first with rules := .catalogue catalogue } := .catalogue first fresh
    rwa [← provider] at alike
  | catalogue state alike =>
    obtain rfl := RuleProvider.catalogue.inj provider
    exact .catalogue state (fresh.trans alike)

/-- The results of the requests of a run that do not forget what is kept. -/
def resultsBesidesClears (state : Deployment) (run : List Request) :
    List (Except OperationError Answer) :=
  ((run.zip (state.results run)).filter fun served => !served.1.operation.clears).map Prod.snd

theorem resultsBesidesClears_cons (state : Deployment) (request : Request) (rest : List Request) :
    state.resultsBesidesClears (request :: rest) =
      if request.operation.clears then (state.serve request).state.resultsBesidesClears rest
      else (state.serve request).result ::
        (state.serve request).state.resultsBesidesClears rest := by
  unfold resultsBesidesClears
  rw [results, List.zip_cons_cons, List.filter_cons]
  cases request.operation.clears <;> rfl

/-- As long as the files that a run loads stay as they are, its results do not depend on what is
forgotten meanwhile. -/
theorem resultsBesidesClears_eq {run : List Request}
    (provides : first.Provides settings catalogue)
    (fresh : catalogue.clearCache.LoadsAlike allowed catalogue)
    (alike : ∀ stampFor,
      (first.withStamps stampFor).LoadsAlike allowed (second.withStamps stampFor))
    (permitted : ∀ part, part <+: run → allowed (first.serveAll part).files)
    (stays : ∀ request ∈ run, ∀ path, request.operation.loads settings path = true →
      ∀ files others, allowed files → allowed others → files.read? path = others.read? path) :
    first.resultsBesidesClears run =
      second.results (run.filter fun request => !request.operation.clears) := by
  -- The two deployments agree for all stamps: a request that only the first one serves leaves its
  -- stamps there, and the next request sets its own.
  induction run generalizing first second catalogue with
  | nil => rfl
  | cons request rest ih =>
    obtain ⟨here, later⟩ := List.forall_mem_cons.mp stays
    have now : allowed first.files := permitted [] List.nil_prefix
    have stamped := provides.withStamps request.stampFor
    obtain ⟨after, providesAfter, turns⟩ := stamped.perform request.elapsed request.operation
    have freshAfter : after.clearCache.LoadsAlike allowed after := by
      obtain ⟨-, rfl, library⟩ := provides
      exact turns.fresh library
        (fun path loads files others => here path loads files first.files others now) fresh
    have permittedAfter : ∀ part, part <+: rest →
        allowed ((first.serve request).state.serveAll part).files :=
      fun part initial => permitted (request :: part) (List.cons_prefix_cons.mpr ⟨rfl, initial⟩)
    rw [resultsBesidesClears_cons]
    cases clears : request.operation.clears with
    | true =>
      have forgets : request.operation = .clearCache := Operation.eq_clearCache_of_clears clears
      rw [List.filter_cons_of_neg (by simp [clears])]
      refine ih providesAfter freshAfter (fun stampFor => ?_) permittedAfter later
      have forgotten : (first.serve request).state =
          { first.withStamps request.stampFor with rules := .catalogue catalogue.clearCache } := by
        simp only [serve, forgets, perform, onCatalogue, stamped.provider, withCatalogue]
      rw [forgotten]
      exact (alike stampFor).forget (provides.withStamps stampFor).provider fresh
    | false =>
      have alikeNow := alike request.stampFor
      have step : (first.serve request).LoadsAlike allowed (second.serve request) :=
        alikeNow.perform (alikeNow.files ▸ now) request.elapsed request.operation
      rw [List.filter_cons_of_pos (by simp [clears]), results]
      simp only [Bool.false_eq_true, ↓reduceIte]
      rw [step.result]
      exact congrArg _ (ih providesAfter freshAfter (fun stampFor => step.state.withStamps stampFor)
        permittedAfter later)

end Clears

/-- True if the files that a run loads have the texts at all times that they have at first. -/
def KeepsLoadedFiles (settings : CatalogueSettings) (state : Deployment) (run : List Request) :
    Prop :=
  ∀ part, part <+: run → ∀ request ∈ run, ∀ path, request.operation.loads settings path = true →
    (state.serveAll part).files.read? path = state.files.read? path

/-- In a deployment that starts with a catalogue that keeps what it loads, a file is loaded after
any run as it was first given since what is kept was last forgotten, or else as it is now. If it
cannot be loaded, it has not been given, and the deployment stays as it is. As long as the files
that a run loads stay as they are, its results do not depend on what is forgotten in it. -/
theorem files_loaded_as_first_given (state : Deployment) (settings : CatalogueSettings)
    (initial : state.rules = .catalogue (Catalogue.ofSettings settings))
    (keeps : settings.keepsLoaded = true) (run : List Request) (path : Path) (elapsed : String) :
    let later := state.serveAll run
    let load := later.perform elapsed (.loadFile path)
    let given := firstGiven settings path (state.moments run)
    load.result = ((match given with
        | some rules => Except.ok rules
        | none => Catalogue.fileNow settings later.files path).map
          Answer.rules).mapError .catalogue ∧
      (∀ e, load.result = .error e → given = none ∧ load.state = later) ∧
      (state.KeepsLoadedFiles settings run →
        state.resultsBesidesClears run =
          state.results (run.filter fun request => !request.operation.clears)) := by
  intro later load given
  have provides := provides_of_initial initial
  have nothing : (Catalogue.ofSettings settings).cache.lookup (.file path.resolved) =
      firstGiven settings path [] := rfl
  obtain ⟨after, providesAfter, kept⟩ := provides.serveAll keeps nothing run
  have result := providesAfter.loadFile elapsed path
  rw [kept, List.nil_append] at result
  refine ⟨result, fun e failed => ⟨?_, perform_loadFile_of_error failed⟩, fun stays => ?_⟩
  · show firstGiven settings path (state.moments run) = none
    cases first : firstGiven settings path (state.moments run) with
    | none => rfl
    | some rules =>
      rw [first] at result
      cases result.symm.trans failed
  · let allowed (files : Files) : Prop := ∀ request ∈ run, ∀ path,
      request.operation.loads settings path = true → files.read? path = state.files.read? path
    have fresh : (Catalogue.ofSettings settings).clearCache.LoadsAlike allowed
        (Catalogue.ofSettings settings) := .refl allowed _
    refine resultsBesidesClears_eq provides fresh (fun _ => .same _) stays ?_
    intro request member path loads files others permitted permittedToo
    exact (permitted request member path loads).trans
      (permittedToo request member path loads).symm

/-- Another path of the shared file. -/
def sharedAlias : Path := ⟨"", ["x", "..", "rules.yaml"]⟩

/-- Operations as requests. -/
def plainRequests (operations : List Operation) : List Request :=
  operations.map fun operation => ⟨"", fun _ => default, operation⟩

/-- The shared file is read, and then it is replaced by one without rules. -/
def replacedFile : List Request :=
  plainRequests [.activeRules "t", .writeFile ⟨"", ["rules.yaml"]⟩ "rules: []\n"]

/-- Then the file without rules is read, and it is deleted. -/
def deletedFile : List Request :=
  replacedFile ++ plainRequests [.clearCache, .sharedRules, .deleteFile ⟨"", ["rules.yaml"]⟩]

def forgottenFile : List Request := deletedFile ++ plainRequests [.clearCache]

/-- The shared file is read under two paths, and what is kept is forgotten between the readings. -/
def clearedRun : List Request :=
  plainRequests [.activeRules "t", .clearCache, .loadFile sharedAlias, .clearCache, .allRules "t"]

theorem clearedRun_keepsLoadedFiles :
    withSharedFile.KeepsLoadedFiles sharedSettings clearedRun := by
  intro part initial _ _ path _
  have keeps : ∀ request ∈ clearedRun, request.operation.keepsFiles = true := by decide
  have upToDate := (upToDate_of_initial (rfl : withSharedFile.rules =
    .catalogue (Catalogue.ofSettings sharedSettings))).serveAll fun request member =>
      keeps request (initial.subset member)
  rw [upToDate.1]

/-- The rules that were read are loaded after the file was replaced; no rules are loaded after they
were read and the file was deleted; and when that is forgotten as well nothing is loaded. -/
theorem replaced_file_loaded_as_first_given :
    let loaded (run : List Request) : Step :=
      (withSharedFile.serveAll run).perform "" (.loadFile sharedAlias)
    (∃ rules, (loaded replacedFile).result = .ok (.rules rules) ∧
        rules.map (·.id) = ["a", "b"]) ∧
      (loaded deletedFile).result = .ok (.rules []) ∧
      (loaded forgottenFile).result = .error (.catalogue (.fileNotFound sharedAlias)) ∧
      (loaded forgottenFile).state = withSharedFile.serveAll forgottenFile ∧
      withSharedFile.resultsBesidesClears clearedRun =
        withSharedFile.results (clearedRun.filter fun request => !request.operation.clears) := by
  intro loaded
  have loads (run : List Request) := files_loaded_as_first_given withSharedFile sharedSettings rfl
    rfl run sharedAlias ""
  have failed : (loaded forgottenFile).result =
      .error (.catalogue (.fileNotFound sharedAlias)) := by
    have given : firstGiven sharedSettings sharedAlias (withSharedFile.moments forgottenFile) =
        none := Option.isNone_iff_eq_none.mp (by decide +kernel)
    rw [(loads forgottenFile).1, given]
    rfl
  refine ⟨?_, ?_, failed, ((loads forgottenFile).2.1 _ failed).2,
    (loads clearedRun).2.2 clearedRun_keepsLoadedFiles⟩
  · have evaluated : (firstGiven sharedSettings sharedAlias
        (withSharedFile.moments replacedFile)).map (List.map (·.id)) = some ["a", "b"] := by
      decide +kernel
    obtain ⟨rules, given, ids⟩ := Option.map_eq_some_iff.mp evaluated
    refine ⟨rules, ?_, ids⟩
    rw [(loads replacedFile).1, given]
    rfl
  · have evaluated : (firstGiven sharedSettings sharedAlias
        (withSharedFile.moments deletedFile)).map List.length = some 0 := by decide +kernel
    obtain ⟨rules, given, length⟩ := Option.map_eq_some_iff.mp evaluated
    rw [(loads deletedFile).1, given, List.eq_nil_of_length_eq_zero length]
    rfl

end Deployment

end EnrollmentDiagnosis
