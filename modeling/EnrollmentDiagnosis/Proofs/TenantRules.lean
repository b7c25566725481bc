import EnrollmentDiagnosis.Proofs.RuleReading
import EnrollmentDiagnosis.Store.Rules

set_option autoImplicit false

namespace EnrollmentDiagnosis

/-- The rules of a tenant among those of all tenants, in their order. -/
def ownedRules (entries : List (String × Rule)) (tenant : String) : List Rule :=
  (entries.filter fun entry => entry.1 == tenant).map Prod.snd

theorem ownedRules_append (first second : List (String × Rule)) (tenant : String) :
    ownedRules (first ++ second) tenant = ownedRules first tenant ++ ownedRules second tenant := by
  simp only [ownedRules, List.filter_append, List.map_append]

theorem ownedRules_cons_own (tenant : String) (rule : Rule) (rest : List (String × Rule)) :
    ownedRules ((tenant, rule) :: rest) tenant = rule :: ownedRules rest tenant := by
  simp only [ownedRules, List.filter_cons, beq_self_eq_true, ↓reduceIte, List.map_cons]

theorem ownedRules_cons_other {owner tenant : String} (other : owner ≠ tenant) (rule : Rule)
    (rest : List (String × Rule)) :
    ownedRules ((owner, rule) :: rest) tenant = ownedRules rest tenant := by
  simp only [ownedRules, List.filter_cons, beq_eq_false_iff_ne.mpr other, Bool.false_eq_true,
    ↓reduceIte]

/-- Only the global rules and the tenant's own count. -/
theorem RuleStore.activeRules_congr {first second : RuleStore} {tenant : String}
    (shared : first.globalRules = second.globalRules)
    (own : first.ofTenant tenant = second.ofTenant tenant) :
    first.activeRules tenant = second.activeRules tenant := by
  simp only [activeRules, shared, own]

namespace RuleBook.Catalogue

/-- Puts a rule in the place of the one with its identity, or behind all others. -/
def putOwn : List Rule → Rule → List Rule
  | [], rule => [rule]
  | old :: rest, rule => if old.id = rule.id then rule :: rest else old :: putOwn rest rule

theorem rulesOf_eq (catalogue : Catalogue) (tenant : String) :
    catalogue.rulesOf tenant = ownedRules catalogue.tenantRules tenant := rfl

theorem ownedRules_putRule_own (entries : List (String × Rule)) (tenant : String) (rule : Rule) :
    ownedRules (putRule entries tenant rule) tenant = putOwn (ownedRules entries tenant) rule := by
  induction entries with
  | nil => exact ownedRules_cons_own tenant rule []
  | cons entry rest ih =>
    obtain ⟨owner, old⟩ := entry
    by_cases own : owner = tenant
    · subst own
      rw [ownedRules_cons_own]
      by_cases same : old.id = rule.id
      · simp only [putRule, putOwn, same, and_self, ↓reduceIte, ownedRules_cons_own]
      · simp only [putRule, putOwn, same, and_false, ↓reduceIte, ownedRules_cons_own, ih]
    · simp only [putRule, own, false_and, ↓reduceIte, ownedRules_cons_other own, ih]

theorem ownedRules_putRule_other {owner tenant : String} (other : tenant ≠ owner)
    (entries : List (String × Rule)) (rule : Rule) :
    ownedRules (putRule entries owner rule) tenant = ownedRules entries tenant := by
  induction entries with
  | nil => exact ownedRules_cons_other other.symm rule []
  | cons entry rest ih =>
    obtain ⟨holder, old⟩ := entry
    unfold putRule
    split
    · rename_i replaced
      rw [replaced.1, ownedRules_cons_other other.symm, ownedRules_cons_other other.symm]
    · by_cases own : holder = tenant
      · subst own
        rw [ownedRules_cons_own, ownedRules_cons_own, ih]
      · rw [ownedRules_cons_other own, ownedRules_cons_other own, ih]

/-- A change that a tenant makes. What all tenants share and what other tenants have stays, and what
the tenant had decides what it has then. -/
structure OwnChange (owner : String) (change : Catalogue → Catalogue) : Prop where
  settings : ∀ c, (change c).settings = c.settings
  cache : ∀ c, (change c).cache = c.cache
  otherRules : ∀ c tenant, tenant ≠ owner → (change c).rulesOf tenant = c.rulesOf tenant
  otherChoices : ∀ c tenant ruleId, tenant ≠ owner →
    (change c).choices.lookup (tenant, ruleId) = c.choices.lookup (tenant, ruleId)
  ownRules : ∀ c d, c.rulesOf owner = d.rulesOf owner →
    (change c).rulesOf owner = (change d).rulesOf owner
  ownChoices : ∀ c d ruleId,
    c.choices.lookup (owner, ruleId) = d.choices.lookup (owner, ruleId) →
      (change c).choices.lookup (owner, ruleId) = (change d).choices.lookup (owner, ruleId)

theorem OwnChange.id (owner : String) : OwnChange owner fun c => c :=
  ⟨fun _ => rfl, fun _ => rfl, fun _ _ _ => rfl, fun _ _ _ _ => rfl, fun _ _ same => same,
    fun _ _ _ same => same⟩

theorem OwnChange.comp {owner : String} {first next : Catalogue → Catalogue}
    (changes : OwnChange owner first) (goesOn : OwnChange owner next) :
    OwnChange owner fun c => next (first c) where
  settings c := (goesOn.settings _).trans (changes.settings c)
  cache c := (goesOn.cache _).trans (changes.cache c)
  otherRules c tenant other :=
    (goesOn.otherRules _ tenant other).trans (changes.otherRules c tenant other)
  otherChoices c tenant ruleId other :=
    (goesOn.otherChoices _ tenant ruleId other).trans (changes.otherChoices c tenant ruleId other)
  ownRules c d same := goesOn.ownRules _ _ (changes.ownRules c d same)
  ownChoices c d ruleId same := goesOn.ownChoices _ _ ruleId (changes.ownChoices c d ruleId same)

theorem choose_ownChange (owner ruleId : String) (enabled : Bool) :
    OwnChange owner fun c => c.choose owner ruleId enabled where
  settings _ := rfl
  cache _ := rfl
  otherRules _ _ _ := rfl
  otherChoices c tenant other apart := by
    have different : ((tenant, other) == (owner, ruleId)) = false := by
      simp only [beq_eq_false_iff_ne, ne_eq, Prod.mk.injEq, not_and]
      exact fun same => absurd same apart
    simp only [choose, List.lookup_cons, different]
  ownRules _ _ same := same
  ownChoices c d other same := by
    simp only [choose, List.lookup_cons, same]

theorem addRule_ownChange (owner : String) (rule : Rule) :
    OwnChange owner fun c => c.addRule owner rule where
  settings _ := rfl
  cache _ := rfl
  otherRules c tenant other := ownedRules_putRule_other other c.tenantRules _
  otherChoices _ _ _ _ := rfl
  ownRules c d same := by
    rw [rulesOf_eq, rulesOf_eq] at same ⊢
    simp only [addRule, ownedRules_putRule_own, same]
  ownChoices _ _ _ same := same

theorem addRules_ownChange (owner : String) (rules : List Rule) :
    OwnChange owner fun c => rules.foldl (fun c rule => c.addRule owner rule) c := by
  induction rules with
  | nil => exact .id owner
  | cons rule rest ih => exact (addRule_ownChange owner rule).comp ih

/-- The rules that stay when those with an identity are removed. -/
theorem rulesOf_removeRule_own (catalogue : Catalogue) (owner ruleId : String) :
    (catalogue.removeRule owner ruleId).rulesOf owner =
      (catalogue.rulesOf owner).filter fun rule => !rule.id == ruleId := by
  simp only [rulesOf, removeRule, List.filter_filter, List.filter_map]
  refine congrArg (List.map Prod.snd) (List.filter_congr fun entry _ => ?_)
  cases own : entry.1 == owner <;> simp

theorem rulesOf_removeRule_other {owner tenant : String} (other : tenant ≠ owner)
    (catalogue : Catalogue) (ruleId : String) :
    (catalogue.removeRule owner ruleId).rulesOf tenant = catalogue.rulesOf tenant := by
  simp only [rulesOf, removeRule, List.filter_filter]
  refine congrArg (List.map Prod.snd) (List.filter_congr fun entry _ => ?_)
  by_cases own : entry.1 = tenant
  · simp [own, other]
  · simp [own]

theorem removeRule_ownChange (owner ruleId : String) :
    OwnChange owner fun c => c.removeRule owner ruleId where
  settings _ := rfl
  cache _ := rfl
  otherRules c _ other := rulesOf_removeRule_other other c ruleId
  otherChoices _ _ _ _ := rfl
  ownRules c d same := by
    rw [rulesOf_removeRule_own, rulesOf_removeRule_own, same]
  ownChoices _ _ _ same := same

variable {files : Files} {tenant : String} {first second : Catalogue}

theorem AgreeFor.hasRule (agree : AgreeFor files tenant first second) (ruleId : String) :
    first.hasRule tenant ruleId = second.hasRule tenant ruleId := by
  simp only [Catalogue.hasRule, agree.rules]

/-- What a load gives is decided by the settings and by what is kept. -/
theorem loadOnce_result_congr {load : Catalogue → Loading Document} (reads : ReadsOnly load)
    (settings : first.settings = second.settings) (cache : first.cache = second.cache)
    (key : CacheKey) :
    (first.loadOnce key load).result = (second.loadOnce key load).result := by
  cases kept : second.cache.lookup key with
  | some rules =>
    have keptFirst : first.cache.lookup key = some rules := by rw [cache, kept]
    rw [loadOnce_of_kept kept, loadOnce_of_kept keptFirst]
  | none =>
    have absentFirst : first.cache.lookup key = none := by rw [cache, kept]
    rw [(loadOnce_of_absent reads kept).1, (loadOnce_of_absent reads absentFirst).1,
      reads.bySettings second first settings]

theorem library_result_congr (settings : first.settings = second.settings)
    (cache : first.cache = second.cache) : first.library.result = second.library.result := by
  unfold library
  rw [settings]
  split
  · exact loadOnce_result_congr readsOnly_builtin settings cache .builtin
  · rfl

theorem sharedFile_result_congr (files : Files) (settings : first.settings = second.settings)
    (cache : first.cache = second.cache) :
    (first.sharedFile files).result = (second.sharedFile files).result := by
  unfold Catalogue.sharedFile
  rw [settings]
  split
  · rfl
  · rename_i path _
    exact loadOnce_result_congr (readsOnly_file files path) settings cache (.file path.resolved)

section Changes

variable {owner : String} {change : Catalogue → Catalogue}

/-- A change by another tenant is not seen. -/
theorem OwnChange.agreeFor_other (changes : OwnChange owner change) (files : Files)
    (other : tenant ≠ owner) (catalogue : Catalogue) :
    AgreeFor files tenant (change catalogue) catalogue where
  settings := changes.settings catalogue
  rules := changes.otherRules catalogue tenant other
  choices ruleId := changes.otherChoices catalogue tenant ruleId other
  library := library_result_congr (changes.settings catalogue) (changes.cache catalogue)
  sharedFile :=
    sharedFile_result_congr files (changes.settings catalogue) (changes.cache catalogue)

/-- The same change by the tenant keeps two catalogues in agreement. -/
theorem OwnChange.agreeFor_own (changes : OwnChange owner change)
    (agree : AgreeFor files owner first second) :
    AgreeFor files owner (change first) (change second) where
  settings := by rw [changes.settings, changes.settings, agree.settings]
  rules := changes.ownRules first second agree.rules
  choices ruleId := changes.ownChoices first second ruleId (agree.choices ruleId)
  library := by
    rw [library_result_congr (changes.settings first) (changes.cache first),
      library_result_congr (changes.settings second) (changes.cache second), agree.library]
  sharedFile := by
    rw [sharedFile_result_congr files (changes.settings first) (changes.cache first),
      sharedFile_result_congr files (changes.settings second) (changes.cache second),
      agree.sharedFile]

end Changes

/-- What a tenant's document is read as under some settings. -/
def documentOf (settings : CatalogueSettings) (tenant text : String) :
    Except CatalogueError Document :=
  ((⟨"custom rules for tenant " ++ tenant, false, some settings.defaultThreshold⟩ : Origin).parse
    text).mapError .document

/-- A document that can be read adds its rules, and one that cannot adds none. -/
theorem addDocument_spec (catalogue : Catalogue) (tenant text : String) :
    (catalogue.addDocument tenant text).result =
        (documentOf catalogue.settings tenant text).map (·.rules.length) ∧
      (catalogue.addDocument tenant text).catalogue =
        match documentOf catalogue.settings tenant text with
        | .ok document => document.rules.foldl (fun c rule => c.addRule tenant rule) catalogue
        | .error _ => catalogue := by
  have read : (catalogue.readDocument ⟨"custom rules for tenant " ++ tenant, false,
      some catalogue.settings.defaultThreshold⟩ text).result =
        documentOf catalogue.settings tenant text := rfl
  cases outcome : documentOf catalogue.settings tenant text with
  | ok document => exact Loading.andThen_of_ok (read.trans outcome) _
  | error e => exact Loading.andThen_of_error (read.trans outcome) _

/-- Reading a document changes a catalogue as its rules do, by the settings alone. -/
theorem addDocument_ownChange (settings : CatalogueSettings) (owner text : String) :
    ∃ change, OwnChange owner change ∧ ∀ c : Catalogue, c.settings = settings →
      (c.addDocument owner text).catalogue = change c := by
  cases outcome : documentOf settings owner text with
  | ok document =>
    refine ⟨_, addRules_ownChange owner document.rules, fun c same => ?_⟩
    rw [(addDocument_spec c owner text).2, same, outcome]
  | error e =>
    refine ⟨_, .id owner, fun c same => ?_⟩
    rw [(addDocument_spec c owner text).2, same, outcome]

end RuleBook.Catalogue

end EnrollmentDiagnosis
