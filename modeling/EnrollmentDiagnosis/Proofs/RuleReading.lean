import EnrollmentDiagnosis.Proofs.RuleLoading

set_option autoImplicit false

namespace EnrollmentDiagnosis.RuleBook.Catalogue

/-- The rules of a file, without the notice of a failure. -/
def fileRules (catalogue : Catalogue) (files : Files) (path : Path) : Loading (List Rule) :=
  catalogue.loadOnce (.file path.resolved) fun catalogue => catalogue.readFile files path

/-- The part of the built-in library. -/
def library (catalogue : Catalogue) : Loading (List Rule) :=
  if catalogue.settings.includesBuiltin then catalogue.loadBuiltin else ⟨.ok [], catalogue, []⟩

/-- The part of the shared file. -/
def sharedFile (catalogue : Catalogue) (files : Files) : Loading (List Rule) :=
  match catalogue.settings.sharedPath with
  | none => ⟨.ok [], catalogue, []⟩
  | some path => catalogue.fileRules files path

/-- What the rules that all tenants share are read as. -/
def sharedNow (catalogue : Catalogue) (files : Files) : Except CatalogueError (List Rule) :=
  match catalogue.library.result with
  | .error e => .error e
  | .ok library => (catalogue.sharedFile files).result.map (library ++ ·)

/-- What the enabled rules that count for a tenant are read as. -/
def activeNow (catalogue : Catalogue) (files : Files) (tenant : String) :
    Except CatalogueError (List Rule) :=
  (catalogue.sharedNow files).map fun shared =>
    (catalogue.effective tenant shared).filter (·.enabled)

/-- The same rules are read from one catalogue as from another. -/
structure SameRules (files : Files) (later earlier : Catalogue) : Prop
    extends SameContents later earlier where
  library : later.library.result = earlier.library.result
  sharedFile : (later.sharedFile files).result = (earlier.sharedFile files).result

variable {files : Files} {catalogue later : Catalogue}

theorem SameRules.refl (files : Files) (catalogue : Catalogue) :
    SameRules files catalogue catalogue := ⟨SameContents.refl catalogue, rfl, rfl⟩

theorem SameRules.trans {last middle first : Catalogue} (later : SameRules files last middle)
    (earlier : SameRules files middle first) : SameRules files last first :=
  ⟨later.toSameContents.trans earlier.toSameContents, later.library.trans earlier.library,
    later.sharedFile.trans earlier.sharedFile⟩

/-- Two catalogues that have the same rules for a tenant, however they read them. -/
structure AgreeFor (files : Files) (tenant : String) (first second : Catalogue) : Prop where
  settings : first.settings = second.settings
  rules : first.rulesOf tenant = second.rulesOf tenant
  choices : ∀ ruleId,
    first.choices.lookup (tenant, ruleId) = second.choices.lookup (tenant, ruleId)
  library : first.library.result = second.library.result
  sharedFile : (first.sharedFile files).result = (second.sharedFile files).result

section Agreement

variable {tenant : String} {first second third : Catalogue}

theorem AgreeFor.refl (files : Files) (tenant : String) (catalogue : Catalogue) :
    AgreeFor files tenant catalogue catalogue := ⟨rfl, rfl, fun _ => rfl, rfl, rfl⟩

theorem AgreeFor.symm (agree : AgreeFor files tenant first second) :
    AgreeFor files tenant second first :=
  ⟨agree.settings.symm, agree.rules.symm, fun ruleId => (agree.choices ruleId).symm,
    agree.library.symm, agree.sharedFile.symm⟩

theorem AgreeFor.trans (agree : AgreeFor files tenant first second)
    (next : AgreeFor files tenant second third) : AgreeFor files tenant first third :=
  ⟨agree.settings.trans next.settings, agree.rules.trans next.rules,
    fun ruleId => (agree.choices ruleId).trans (next.choices ruleId),
    agree.library.trans next.library, agree.sharedFile.trans next.sharedFile⟩

theorem SameRules.agreeFor (same : SameRules files first second) (tenant : String) :
    AgreeFor files tenant first second where
  settings := same.settings
  rules := by simp only [rulesOf, same.tenantRules]
  choices _ := by rw [same.choices]
  library := same.library
  sharedFile := same.sharedFile

theorem AgreeFor.sharedNow (agree : AgreeFor files tenant first second) :
    first.sharedNow files = second.sharedNow files := by
  simp only [Catalogue.sharedNow, agree.library, agree.sharedFile]

theorem AgreeFor.effective (agree : AgreeFor files tenant first second) (shared : List Rule) :
    first.effective tenant shared = second.effective tenant shared := by
  have withChoice : first.withChoice tenant = second.withChoice tenant := by
    funext rule
    simp only [Catalogue.withChoice, agree.choices]
  simp only [Catalogue.effective, agree.rules, withChoice]

theorem AgreeFor.activeNow (agree : AgreeFor files tenant first second) :
    first.activeNow files tenant = second.activeNow files tenant := by
  simp only [Catalogue.activeNow, agree.sharedNow, agree.effective]

end Agreement

theorem SameRules.activeNow (same : SameRules files later catalogue) (tenant : String) :
    later.activeNow files tenant = catalogue.activeNow files tenant :=
  (same.agreeFor tenant).activeNow

/-- A load with the key and the document of one of the parts leaves both parts as they are. -/
theorem loadOnce_sameRules {load : Catalogue → Loading Document} (reads : ReadsOnly load)
    (files : Files) (catalogue : Catalogue) (key : CacheKey)
    (ofLibrary : key = .builtin → load = fun catalogue => catalogue.readDocument
      (builtinOrigin (some catalogue.settings.defaultThreshold)) builtinText)
    (ofFile : ∀ path, catalogue.settings.sharedPath = some path → key = .file path.resolved →
      load = fun catalogue => catalogue.readFile files path) :
    SameRules files (catalogue.loadOnce key load).catalogue catalogue := by
  have contents := loadOnce_contents reads catalogue key
  refine ⟨contents, ?_, ?_⟩
  · unfold Catalogue.library
    rw [contents.settings]
    split
    · exact loadOnce_after reads readsOnly_builtin catalogue key .builtin
        fun same => (ofLibrary same.symm).symm
    · rfl
  · unfold Catalogue.sharedFile
    rw [contents.settings]
    split
    · rfl
    · rename_i path shared
      exact loadOnce_after reads (readsOnly_file files path) catalogue key (.file path.resolved)
        fun same => (ofFile path shared same.symm).symm

theorem library_sameRules (files : Files) (catalogue : Catalogue) :
    SameRules files catalogue.library.catalogue catalogue := by
  unfold Catalogue.library
  split
  · exact loadOnce_sameRules readsOnly_builtin files catalogue .builtin (fun _ => rfl)
      fun path _ wrong => by cases wrong
  · exact SameRules.refl files catalogue

theorem sharedFile_sameRules (files : Files) (catalogue : Catalogue) :
    SameRules files (catalogue.sharedFile files).catalogue catalogue := by
  unfold Catalogue.sharedFile
  split
  · exact SameRules.refl files catalogue
  · rename_i path shared
    refine loadOnce_sameRules (readsOnly_file files path) files catalogue (.file path.resolved)
      (fun wrong => by cases wrong) fun other same _ => ?_
    rw [shared] at same
    cases same
    rfl

/-- What a tenant shares with others is the library and then the shared file. -/
theorem sharedRules_eq (catalogue : Catalogue) (elapsed : String) (files : Files) :
    catalogue.sharedRules elapsed files = catalogue.library.andThen fun library catalogue =>
      match catalogue.settings.sharedPath with
      | none => ⟨.ok library, catalogue, []⟩
      | some path => ((catalogue.fileRules files path).logged elapsed "load_rules_file").andThen
          fun rules catalogue => ⟨.ok (library ++ rules), catalogue, []⟩ := rfl

theorem sharedRules_spec (catalogue : Catalogue) (elapsed : String) (files : Files) :
    (catalogue.sharedRules elapsed files).result = catalogue.sharedNow files ∧
      SameRules files (catalogue.sharedRules elapsed files).catalogue catalogue := by
  have same := library_sameRules files catalogue
  rw [sharedRules_eq]
  unfold sharedNow
  cases outcome : catalogue.library.result with
  | error e =>
    obtain ⟨result, after⟩ := Loading.andThen_of_error outcome _
    rw [result, after]
    exact ⟨rfl, same⟩
  | ok library =>
    obtain ⟨result, after⟩ := Loading.andThen_of_ok outcome _
    rw [result, after]
    have sameFile := same.sharedFile
    have kept := sharedFile_sameRules files catalogue.library.catalogue
    unfold Catalogue.sharedFile at sameFile kept ⊢
    split <;> rename_i shared
    · simp only [shared] at sameFile kept ⊢
      refine ⟨?_, same⟩
      simp only [← sameFile, Except.map, List.append_nil]
    · simp only [shared] at sameFile kept ⊢
      obtain ⟨mapped, unchanged⟩ := Loading.andThen_map
        ((catalogue.library.catalogue.fileRules files _).logged elapsed "load_rules_file")
        (library ++ ·)
      rw [mapped, unchanged, Loading.logged_result, Loading.logged_catalogue, sameFile]
      exact ⟨rfl, kept.trans same⟩

theorem allRules_spec (catalogue : Catalogue) (elapsed : String) (files : Files)
    (tenant : String) :
    (catalogue.allRules elapsed files tenant).result =
        (catalogue.sharedNow files).map (catalogue.effective tenant) ∧
      SameRules files (catalogue.allRules elapsed files tenant).catalogue catalogue := by
  obtain ⟨shared, same⟩ := sharedRules_spec catalogue elapsed files
  unfold allRules
  cases outcome : (catalogue.sharedRules elapsed files).result with
  | error e =>
    obtain ⟨result, after⟩ := Loading.andThen_of_error outcome
      fun shared catalogue => ⟨.ok (catalogue.effective tenant shared), catalogue, []⟩
    rw [result, after, ← shared, outcome]
    exact ⟨rfl, same⟩
  | ok rules =>
    obtain ⟨result, after⟩ := Loading.andThen_of_ok outcome
      fun shared catalogue => ⟨.ok (catalogue.effective tenant shared), catalogue, []⟩
    rw [result, after, ← shared, outcome]
    exact ⟨congrArg Except.ok ((same.agreeFor tenant).effective rules), same⟩

/-- The rules of a tenant are read as they are now, and reading them changes no later reading. -/
theorem activeRules_spec (catalogue : Catalogue) (elapsed : String) (files : Files)
    (tenant : String) :
    (catalogue.activeRules elapsed files tenant).result = catalogue.activeNow files tenant ∧
      SameRules files (catalogue.activeRules elapsed files tenant).catalogue catalogue := by
  obtain ⟨all, same⟩ := allRules_spec catalogue elapsed files tenant
  obtain ⟨mapped, unchanged⟩ := Loading.andThen_map (catalogue.allRules elapsed files tenant)
    (List.filter (·.enabled))
  unfold activeRules
  rw [Loading.logged_result, Loading.logged_catalogue, mapped, unchanged, all]
  refine ⟨?_, same⟩
  unfold activeNow
  cases catalogue.sharedNow files <;> rfl

end EnrollmentDiagnosis.RuleBook.Catalogue
