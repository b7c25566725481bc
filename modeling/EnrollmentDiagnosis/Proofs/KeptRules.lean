import EnrollmentDiagnosis.Proofs.CatalogueRuns

set_option autoImplicit false

namespace EnrollmentDiagnosis.RuleBook

namespace Catalogue

section Keeping

variable {load next : Catalogue → Loading Document} {c d : Catalogue} {key nextKey : CacheKey}

/-- A load that fails leaves the catalogue as it is. -/
theorem loadOnce_of_error (reads : ReadsOnly load) {e : CatalogueError}
    (failed : (c.loadOnce key load).result = .error e) :
    (c.loadOnce key load).catalogue = c := by
  cases kept : c.cache.lookup key with
  | some rules => rw [loadOnce_of_kept kept]
  | none =>
    rw [(loadOnce_of_absent reads kept).1] at failed
    rw [(loadOnce_of_absent reads kept).2]
    cases outcome : (load c).result with
    | ok document =>
      rw [outcome] at failed
      cases failed
    | error reason => rfl

theorem loadOnce_of_not_keeps (reads : ReadsOnly load)
    (keeps : ¬c.settings.keepsLoaded = true) : (c.loadOnce key load).catalogue = c := by
  cases kept : c.cache.lookup key with
  | some rules => rw [loadOnce_of_kept kept]
  | none =>
    rw [(loadOnce_of_absent reads kept).2]
    split
    · exact keep_of_not_keeps (by simpa using keeps) key _
    · rfl

/-- A load that succeeds is kept, if the settings ask for it. -/
theorem lookup_loadOnce (reads : ReadsOnly load) (keeps : c.settings.keepsLoaded = true)
    {rules : List Rule} (success : (c.loadOnce key load).result = .ok rules) :
    (c.loadOnce key load).catalogue.cache.lookup key = some rules := by
  cases kept : c.cache.lookup key with
  | some found =>
    rw [loadOnce_of_kept kept] at success ⊢
    cases success
    exact kept
  | none =>
    rw [(loadOnce_of_absent reads kept).1] at success
    rw [(loadOnce_of_absent reads kept).2]
    cases outcome : (load c).result with
    | ok document =>
      rw [outcome] at success
      cases success
      exact keep_of_keeps keeps key document.rules
    | error reason =>
      rw [outcome] at success
      cases success

/-- Two catalogues that give the same on two loads give the same on the second after the first. -/
theorem loadOnce_agree (reads : ReadsOnly load) (readsNext : ReadsOnly next)
    (settings : c.settings = d.settings)
    (same : (c.loadOnce key load).result = (d.loadOnce key load).result)
    (sameNext : (c.loadOnce nextKey next).result = (d.loadOnce nextKey next).result) :
    ((c.loadOnce key load).catalogue.loadOnce nextKey next).result =
      ((d.loadOnce key load).catalogue.loadOnce nextKey next).result := by
  by_cases keeps : d.settings.keepsLoaded = true
  · have keepsFirst : c.settings.keepsLoaded = true := by rw [settings, keeps]
    cases outcome : (d.loadOnce key load).result with
    | error e =>
      rw [loadOnce_of_error reads outcome, loadOnce_of_error reads (same.trans outcome), sameNext]
    | ok rules =>
      by_cases self : nextKey = key
      · subst self
        rw [loadOnce_of_kept (lookup_loadOnce reads keeps outcome),
          loadOnce_of_kept (lookup_loadOnce reads keepsFirst (same.trans outcome))]
      · rw [loadOnce_after reads readsNext c key nextKey (fun other => absurd other self),
          loadOnce_after reads readsNext d key nextKey (fun other => absurd other self), sameNext]
  · have keepsFirst : ¬c.settings.keepsLoaded = true := by rwa [settings]
    rw [loadOnce_of_not_keeps reads keeps, loadOnce_of_not_keeps reads keepsFirst, sameNext]

/-- A load under the key of a load before gives what it gives without that one, if it reads what the
one before has read. -/
theorem loadOnce_again (reads : ReadsOnly load) (readsNext : ReadsOnly next)
    (same : ∀ document, (load c).result = .ok document →
      (next c).result.map Document.rules = .ok document.rules) :
    ((c.loadOnce key load).catalogue.loadOnce key next).result = (c.loadOnce key next).result := by
  cases kept : c.cache.lookup key with
  | some rules => rw [loadOnce_of_kept kept]
  | none =>
    cases outcome : (c.loadOnce key load).result with
    | error e => rw [loadOnce_of_error reads outcome]
    | ok rules =>
      by_cases keeps : c.settings.keepsLoaded = true
      · rw [loadOnce_of_kept (lookup_loadOnce reads keeps outcome),
          (loadOnce_of_absent readsNext kept).1]
        rw [(loadOnce_of_absent reads kept).1] at outcome
        cases loaded : (load c).result with
        | error e =>
          rw [loaded] at outcome
          cases outcome
        | ok document =>
          rw [loaded] at outcome
          cases outcome
          exact (same document loaded).symm
      · rw [loadOnce_of_not_keeps reads keeps]

end Keeping

/-- Two catalogues with the same contents, from which the same is loaded under all allowed files,
whatever each of them keeps. -/
structure LoadsAlike (allowed : Files → Prop) (later earlier : Catalogue) : Prop
    extends SameContents later earlier where
  builtin : later.loadBuiltin.result = earlier.loadBuiltin.result
  file : ∀ files, allowed files → ∀ path,
    (later.fileRules files path).result = (earlier.fileRules files path).result

end Catalogue

/-- Two loads with the same result, which lead to catalogues from which the same is loaded. -/
structure Loading.Alike {α : Type} (allowed : Files → Prop) (later earlier : Loading α) : Prop where
  result : later.result = earlier.result
  catalogue : later.catalogue.LoadsAlike allowed earlier.catalogue

variable {allowed : Files → Prop}

namespace Loading

variable {α β : Type} {later earlier : Loading α}

theorem Alike.andThen (alike : later.Alike allowed earlier)
    {next other : α → Catalogue → Loading β}
    (goesOn : ∀ a c d, Catalogue.LoadsAlike allowed c d → (next a c).Alike allowed (other a d)) :
    (later.andThen next).Alike allowed (earlier.andThen other) := by
  obtain ⟨result, catalogue⟩ := alike
  cases outcome : earlier.result with
  | error e =>
    obtain ⟨failed, stays⟩ := andThen_of_error outcome other
    obtain ⟨failedLater, staysLater⟩ := andThen_of_error (result.trans outcome) next
    refine ⟨failedLater.trans failed.symm, ?_⟩
    rwa [stays, staysLater]
  | ok a =>
    obtain ⟨success, after⟩ := andThen_of_ok outcome other
    obtain ⟨successLater, afterLater⟩ := andThen_of_ok (result.trans outcome) next
    have step := goesOn a _ _ catalogue
    refine ⟨successLater.trans (step.result.trans success.symm), ?_⟩
    rw [after, afterLater]
    exact step.catalogue

theorem Alike.logged (alike : later.Alike allowed earlier) (elapsed other name : String) :
    (later.logged elapsed name).Alike allowed (earlier.logged other name) := by
  refine ⟨?_, ?_⟩
  · rw [logged_result, logged_result, alike.result]
  · rw [logged_catalogue, logged_catalogue]
    exact alike.catalogue

end Loading

namespace Catalogue

variable {c d : Catalogue}

theorem LoadsAlike.refl (allowed : Files → Prop) (c : Catalogue) : c.LoadsAlike allowed c :=
  ⟨.refl c, rfl, fun _ _ _ => rfl⟩

theorem LoadsAlike.trans {last middle first : Catalogue} (later : last.LoadsAlike allowed middle)
    (earlier : middle.LoadsAlike allowed first) : last.LoadsAlike allowed first :=
  ⟨later.toSameContents.trans earlier.toSameContents, later.builtin.trans earlier.builtin,
    fun files permitted path =>
      (later.file files permitted path).trans (earlier.file files permitted path)⟩

theorem LoadsAlike.symm (alike : c.LoadsAlike allowed d) : d.LoadsAlike allowed c :=
  ⟨⟨alike.settings.symm, alike.choices.symm, alike.tenantRules.symm⟩, alike.builtin.symm,
    fun files permitted path => (alike.file files permitted path).symm⟩

theorem LoadsAlike.mono {fewer : Files → Prop} (alike : c.LoadsAlike allowed d)
    (part : ∀ files, fewer files → allowed files) : c.LoadsAlike fewer d :=
  ⟨alike.toSameContents, alike.builtin, fun files permitted =>
    alike.file files (part files permitted)⟩

/-- Something is given without a load. -/
theorem LoadsAlike.given {α : Type} (alike : c.LoadsAlike allowed d) (a : α)
    (notices others : List String) :
    (⟨.ok a, c, notices⟩ : Loading α).Alike allowed ⟨.ok a, d, others⟩ := ⟨rfl, alike⟩

theorem LoadsAlike.loadOnce (alike : c.LoadsAlike allowed d) {load : Catalogue → Loading Document}
    (reads : ReadsOnly load) {key : CacheKey}
    (same : (c.loadOnce key load).result = (d.loadOnce key load).result) :
    (c.loadOnce key load).Alike allowed (d.loadOnce key load) := by
  refine ⟨same, ?_, ?_, ?_⟩
  · have contents := loadOnce_contents reads c key
    have contentsOther := loadOnce_contents reads d key
    exact ⟨contents.settings.trans (alike.settings.trans contentsOther.settings.symm),
      contents.choices.trans (alike.choices.trans contentsOther.choices.symm),
      contents.tenantRules.trans (alike.tenantRules.trans contentsOther.tenantRules.symm)⟩
  · exact loadOnce_agree reads readsOnly_builtin alike.settings same alike.builtin
  · intro files permitted path
    exact loadOnce_agree reads (readsOnly_file files path) alike.settings same
      (alike.file files permitted path)

section Reading

variable (alike : c.LoadsAlike allowed d) {files : Files} (permitted : allowed files)
include alike permitted

theorem LoadsAlike.loadFile (elapsed other : String) (path : Path) :
    (c.loadFile elapsed files path).Alike allowed (d.loadFile other files path) :=
  (alike.loadOnce (readsOnly_file files path) (alike.file files permitted path)).logged elapsed
    other "load_rules_file"

theorem LoadsAlike.sharedRules (elapsed other : String) :
    (c.sharedRules elapsed files).Alike allowed (d.sharedRules other files) := by
  have library : c.library.Alike allowed d.library := by
    unfold Catalogue.library
    rw [alike.settings]
    split
    · exact alike.loadOnce readsOnly_builtin alike.builtin
    · exact alike.given [] [] []
  rw [sharedRules_eq, sharedRules_eq]
  refine library.andThen fun rules c d alike => ?_
  rw [alike.settings]
  split
  · exact alike.given rules [] []
  · exact (alike.loadFile permitted elapsed other _).andThen fun file c d alike =>
      alike.given (rules ++ file) [] []

theorem LoadsAlike.allRules (elapsed other tenant : String) :
    (c.allRules elapsed files tenant).Alike allowed (d.allRules other files tenant) := by
  refine (alike.sharedRules permitted elapsed other).andThen fun shared c d alike => ?_
  have effective : c.effective tenant shared = d.effective tenant shared := by
    have withChoice : c.withChoice tenant = d.withChoice tenant := by
      funext rule
      simp only [Catalogue.withChoice, alike.choices]
    simp only [Catalogue.effective, rulesOf, withChoice, alike.tenantRules]
  rw [effective]
  exact alike.given _ [] []

theorem LoadsAlike.activeRules (elapsed other tenant : String) :
    (c.activeRules elapsed files tenant).Alike allowed (d.activeRules other files tenant) :=
  ((alike.allRules permitted elapsed other tenant).andThen fun rules _ _ alike =>
    alike.given (rules.filter (·.enabled)) [] []).logged elapsed other "load_active_rules"

end Reading

/-- The same change to the contents of both leaves them alike. -/
theorem LoadsAlike.changed (alike : c.LoadsAlike allowed d) {after other : Catalogue}
    (contents : after.SameContents other) (settings : after.settings = c.settings)
    (cache : after.cache = c.cache) (settingsOther : other.settings = d.settings)
    (cacheOther : other.cache = d.cache) : after.LoadsAlike allowed other := by
  refine ⟨contents, ?_, ?_⟩
  · rw [loadBuiltin, loadOnce_result_congr readsOnly_builtin settings cache]
    refine alike.builtin.trans ?_
    exact (loadOnce_result_congr readsOnly_builtin settingsOther cacheOther .builtin).symm
  · intro files permitted path
    have reads := readsOnly_file files path
    rw [fileRules, loadOnce_result_congr reads settings cache]
    refine (alike.file files permitted path).trans ?_
    exact (loadOnce_result_congr reads settingsOther cacheOther _).symm

/-- A load leaves a catalogue from which the same is loaded, if under all allowed files another load
would give what is kept now. -/
theorem loadOnce_loadsAlike {load : Catalogue → Loading Document} (reads : ReadsOnly load)
    (c : Catalogue) (key : CacheKey)
    (library : key = .builtin → load = fun catalogue => catalogue.readDocument
      (builtinOrigin (some catalogue.settings.defaultThreshold)) builtinText)
    (file : ∀ files, allowed files → ∀ path : Path, key = .file path.resolved →
      ∀ document, (load c).result = .ok document →
        (c.readFile files path).result.map Document.rules = .ok document.rules) :
    (c.loadOnce key load).catalogue.LoadsAlike allowed c := by
  refine ⟨loadOnce_contents reads c key, ?_, ?_⟩
  · exact loadOnce_after reads readsOnly_builtin c key .builtin
      fun same => (library same.symm).symm
  · intro files permitted path
    have readsFile := readsOnly_file files path
    unfold fileRules
    by_cases other : CacheKey.file path.resolved = key
    · rw [other]
      exact loadOnce_again reads readsFile (file files permitted path other.symm)
    · exact loadOnce_after reads readsFile c key (.file path.resolved)
        fun same => absurd same other

/-- Reading a file leaves a catalogue from which the same is loaded, as long as the file has the
text that it had, or in any case if it could not be read. -/
theorem fileRules_loadsAlike (c : Catalogue) (files : Files) (path : Path)
    (unread : (∃ e, (c.fileRules files path).result = .error e) ∨
      ∀ later, allowed later → later.read? path = files.read? path) :
    (c.fileRules files path).catalogue.LoadsAlike allowed c := by
  have reads := readsOnly_file files path
  rcases unread with ⟨e, failed⟩ | stays
  · rw [fileRules, loadOnce_of_error reads failed]
    exact .refl allowed c
  · refine loadOnce_loadsAlike reads c _ (fun wrong => by cases wrong) ?_
    intro later permitted other same document loaded
    have resolved : path.resolved = other.resolved := CacheKey.file.inj same
    have text : later.read? other = files.read? path := by
      rw [← stays later permitted, Files.read?, Files.read?, resolved]
    exact readFile_rules_of_text _ text loaded

/-- Reading the shared rules leaves a catalogue from which the same is loaded, as long as the shared
file has the text that it had, or in any case if the rules could not be read. -/
theorem sharedRules_loadsAlike (c : Catalogue) (elapsed : String) (files : Files)
    (unread : (∃ e, (c.sharedRules elapsed files).result = .error e) ∨
      ∀ later, allowed later → ∀ path, c.settings.sharedPath = some path →
        later.read? path = files.read? path) :
    (c.sharedRules elapsed files).catalogue.LoadsAlike allowed c := by
  have library : c.library.catalogue.LoadsAlike allowed c := by
    unfold Catalogue.library
    split
    · exact loadOnce_loadsAlike readsOnly_builtin c .builtin (fun _ => rfl)
        fun _ _ _ wrong => by cases wrong
    · exact .refl allowed c
  rw [sharedRules_eq] at unread ⊢
  cases outcome : c.library.result with
  | error e =>
    rw [(Loading.andThen_of_error outcome _).2]
    exact library
  | ok rules =>
    rw [(Loading.andThen_of_ok outcome _).1] at unread
    rw [(Loading.andThen_of_ok outcome _).2]
    split
    · exact library
    · rename_i path shared
      have sharedBefore : c.settings.sharedPath = some path := by rw [← library.settings, shared]
      obtain ⟨mapped, after⟩ := Loading.andThen_map
        ((c.library.catalogue.fileRules files path).logged elapsed "load_rules_file") (rules ++ ·)
      rw [after, Loading.logged_catalogue]
      refine LoadsAlike.trans (fileRules_loadsAlike _ files path ?_) library
      refine unread.imp ?_ fun stays later permitted => stays later permitted path sharedBefore
      rintro ⟨e, failed⟩
      rw [shared] at failed
      rw [mapped, Loading.logged_result] at failed
      cases read : (c.library.catalogue.fileRules files path).result with
      | error e => exact ⟨e, rfl⟩
      | ok found =>
        rw [read] at failed
        cases failed

/-- Reading all rules of a tenant leaves what reading the shared rules leaves. -/
theorem allRules_catalogue (c : Catalogue) (elapsed : String) (files : Files) (tenant : String) :
    (c.allRules elapsed files tenant).catalogue = (c.sharedRules elapsed files).catalogue := by
  unfold allRules Loading.andThen
  split <;> rfl

/-- So does reading the enabled ones. -/
theorem activeRules_catalogue (c : Catalogue) (elapsed : String) (files : Files)
    (tenant : String) :
    (c.activeRules elapsed files tenant).catalogue = (c.sharedRules elapsed files).catalogue := by
  obtain ⟨-, unchanged⟩ := Loading.andThen_map (c.allRules elapsed files tenant)
    (List.filter (·.enabled))
  unfold activeRules
  rw [Loading.logged_catalogue, unchanged, allRules_catalogue]

theorem activeRules_loadsAlike (c : Catalogue) (elapsed : String) (files : Files) (tenant : String)
    (unread : (∃ e, (c.activeRules elapsed files tenant).result = .error e) ∨
      ∀ later, allowed later → ∀ path, c.settings.sharedPath = some path →
        later.read? path = files.read? path) :
    (c.activeRules elapsed files tenant).catalogue.LoadsAlike allowed c := by
  rw [activeRules_catalogue]
  refine sharedRules_loadsAlike c elapsed files (unread.imp_left ?_)
  rintro ⟨e, failed⟩
  rw [(c.activeRules_spec elapsed files tenant).1, activeNow] at failed
  rw [(c.sharedRules_spec elapsed files).1]
  cases shared : c.sharedNow files with
  | error reason => exact ⟨reason, rfl⟩
  | ok rules =>
    rw [shared] at failed
    cases failed

section Changes

variable (alike : c.LoadsAlike allowed d) (owner : String)
include alike

theorem LoadsAlike.choose (ruleId : String) (enabled : Bool) :
    (c.choose owner ruleId enabled).LoadsAlike allowed (d.choose owner ruleId enabled) :=
  alike.changed ⟨alike.settings, congrArg (((owner, ruleId), enabled) :: ·) alike.choices,
    alike.tenantRules⟩ rfl rfl rfl rfl

theorem LoadsAlike.addRule (rule : Rule) :
    (c.addRule owner rule).LoadsAlike allowed (d.addRule owner rule) :=
  alike.changed ⟨alike.settings, alike.choices,
    congrArg (putRule · owner { rule with isBuiltin := false }) alike.tenantRules⟩ rfl rfl rfl rfl

theorem LoadsAlike.addRules (rules : List Rule) :
    (rules.foldl (fun c rule => c.addRule owner rule) c).LoadsAlike allowed
      (rules.foldl (fun d rule => d.addRule owner rule) d) := by
  induction rules generalizing c d with
  | nil => exact alike
  | cons rule rest ih => exact ih (alike.addRule owner rule)

theorem LoadsAlike.addDocument (text : String) :
    (c.addDocument owner text).Alike allowed (d.addDocument owner text) := by
  obtain ⟨result, after⟩ := addDocument_spec c owner text
  obtain ⟨resultOther, afterOther⟩ := addDocument_spec d owner text
  refine ⟨by rw [result, resultOther, alike.settings], ?_⟩
  rw [after, afterOther, alike.settings]
  split
  · exact alike.addRules owner _
  · exact alike

theorem LoadsAlike.removeRule (ruleId : String) :
    (c.removeRule owner ruleId).LoadsAlike allowed (d.removeRule owner ruleId) :=
  alike.changed ⟨alike.settings, alike.choices, congrArg (List.filter _) alike.tenantRules⟩
    rfl rfl rfl rfl

theorem LoadsAlike.hasRule (ruleId : String) : c.hasRule owner ruleId = d.hasRule owner ruleId := by
  simp only [Catalogue.hasRule, rulesOf, alike.tenantRules]

omit owner in
/-- Without what they keep both load the same in any case. -/
theorem LoadsAlike.clearCache : c.clearCache.LoadsAlike allowed d.clearCache := by
  have settings : c.clearCache.settings = d.clearCache.settings := alike.settings
  have cache : c.clearCache.cache = d.clearCache.cache := rfl
  refine ⟨⟨alike.settings, alike.choices, alike.tenantRules⟩, ?_, ?_⟩
  · unfold loadBuiltin
    exact loadOnce_result_congr readsOnly_builtin settings cache .builtin
  · intro files _ path
    exact loadOnce_result_congr (readsOnly_file files path) settings cache (.file path.resolved)

end Changes
end Catalogue

end EnrollmentDiagnosis.RuleBook
