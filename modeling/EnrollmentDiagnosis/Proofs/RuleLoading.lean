import EnrollmentDiagnosis.RuleBook.Catalogue

set_option autoImplicit false

namespace EnrollmentDiagnosis

/-- A result whose image is known is a success. -/
theorem Except.ok_of_toOption_map {ε α β : Type} {result : Except ε α} {f : α → β} {b : β}
    (mapped : result.toOption.map f = some b) : ∃ a, result = .ok a ∧ f a = b := by
  cases result with
  | error e => cases mapped
  | ok a => exact ⟨a, rfl, Option.some.inj mapped⟩

namespace RuleBook

namespace Loading

variable {α β : Type}

@[simp] theorem logged_result (loading : Loading α) (elapsed name : String) :
    (loading.logged elapsed name).result = loading.result := by
  unfold logged
  split <;> rename_i outcome <;> simp only [outcome]

@[simp] theorem logged_catalogue (loading : Loading α) (elapsed name : String) :
    (loading.logged elapsed name).catalogue = loading.catalogue := by
  unfold logged
  split <;> rfl

theorem andThen_of_ok {first : Loading α} {a : α} (success : first.result = .ok a)
    (next : α → Catalogue → Loading β) :
    (first.andThen next).result = (next a first.catalogue).result ∧
      (first.andThen next).catalogue = (next a first.catalogue).catalogue := by
  simp only [andThen, success, and_self]

theorem andThen_of_error {first : Loading α} {e : CatalogueError}
    (failure : first.result = .error e) (next : α → Catalogue → Loading β) :
    (first.andThen next).result = .error e ∧
      (first.andThen next).catalogue = first.catalogue := by
  simp only [andThen, failure, and_self]

/-- Going on by a function of what was loaded. -/
theorem andThen_map (first : Loading α) (f : α → β) :
    (first.andThen fun a catalogue => ⟨.ok (f a), catalogue, []⟩).result = first.result.map f ∧
      (first.andThen fun a catalogue => ⟨.ok (f a), catalogue, []⟩).catalogue =
        first.catalogue := by
  unfold andThen
  split <;> rename_i outcome <;> simp only [outcome, Except.map, and_self]

end Loading

namespace Catalogue

/-- A load that changes no catalogue, and gives the same document under the same settings. -/
structure ReadsOnly (load : Catalogue → Loading Document) : Prop where
  unchanged : ∀ c, (load c).catalogue = c
  bySettings : ∀ c other, other.settings = c.settings → (load other).result = (load c).result

theorem readsOnly_builtin : ReadsOnly fun catalogue => catalogue.readDocument
    (builtinOrigin (some catalogue.settings.defaultThreshold)) builtinText := by
  refine ⟨fun c => rfl, fun c other same => ?_⟩
  simp only [readDocument, same]

theorem readsOnly_file (files : Files) (path : Path) :
    ReadsOnly fun catalogue => catalogue.readFile files path := by
  refine ⟨fun c => ?_, fun c other same => ?_⟩
  · simp only [readFile]
    split <;> rfl
  · simp only [readFile]
    split
    · simp only [readDocument, same]
    · rfl

/-- One catalogue has what another has, but for what is kept. -/
structure SameContents (later earlier : Catalogue) : Prop where
  settings : later.settings = earlier.settings
  choices : later.choices = earlier.choices
  tenantRules : later.tenantRules = earlier.tenantRules

theorem SameContents.refl (catalogue : Catalogue) : catalogue.SameContents catalogue :=
  ⟨rfl, rfl, rfl⟩

theorem SameContents.trans {last middle first : Catalogue} (later : last.SameContents middle)
    (earlier : middle.SameContents first) : last.SameContents first :=
  ⟨later.settings.trans earlier.settings, later.choices.trans earlier.choices,
    later.tenantRules.trans earlier.tenantRules⟩

theorem loadOnce_of_kept {catalogue : Catalogue} {key : CacheKey} {rules : List Rule}
    (kept : catalogue.cache.lookup key = some rules) (load : Catalogue → Loading Document) :
    catalogue.loadOnce key load = ⟨.ok rules, catalogue, []⟩ := by
  simp only [loadOnce, kept]

/-- What a load gives if nothing is kept under its key. -/
theorem loadOnce_of_absent {load : Catalogue → Loading Document} (reads : ReadsOnly load)
    {catalogue : Catalogue} {key : CacheKey} (absent : catalogue.cache.lookup key = none) :
    (catalogue.loadOnce key load).result = (load catalogue).result.map Document.rules ∧
      (catalogue.loadOnce key load).catalogue =
        match (load catalogue).result with
        | .ok document => catalogue.keep key document.rules
        | .error _ => catalogue := by
  simp only [loadOnce, absent]
  cases outcome : (load catalogue).result with
  | ok document =>
    obtain ⟨result, after⟩ := Loading.andThen_of_ok outcome
      fun document catalogue => (⟨.ok document.rules, catalogue.keep key document.rules,
        document.notices⟩ : Loading (List Rule))
    rw [result, after, reads.unchanged]
    exact ⟨rfl, rfl⟩
  | error e =>
    obtain ⟨result, after⟩ := Loading.andThen_of_error outcome
      fun document catalogue => (⟨.ok document.rules, catalogue.keep key document.rules,
        document.notices⟩ : Loading (List Rule))
    rw [result, after, reads.unchanged]
    exact ⟨rfl, rfl⟩

theorem keep_contents (catalogue : Catalogue) (key : CacheKey) (rules : List Rule) :
    (catalogue.keep key rules).SameContents catalogue := by
  unfold keep
  split
  · exact ⟨rfl, rfl, rfl⟩
  · exact SameContents.refl catalogue

theorem loadOnce_contents {load : Catalogue → Loading Document} (reads : ReadsOnly load)
    (catalogue : Catalogue) (key : CacheKey) :
    (catalogue.loadOnce key load).catalogue.SameContents catalogue := by
  cases kept : catalogue.cache.lookup key with
  | some rules =>
    rw [loadOnce_of_kept kept]
    exact SameContents.refl catalogue
  | none =>
    rw [(loadOnce_of_absent reads kept).2]
    split
    · exact keep_contents _ _ _
    · exact SameContents.refl catalogue

theorem keep_of_keeps {catalogue : Catalogue} (keeps : catalogue.settings.keepsLoaded = true)
    (key : CacheKey) (rules : List Rule) :
    (catalogue.keep key rules).cache.lookup key = some rules := by
  simp only [keep, keeps, ↓reduceIte, List.lookup_cons_self]

theorem keep_of_not_keeps {catalogue : Catalogue} (keeps : catalogue.settings.keepsLoaded = false)
    (key : CacheKey) (rules : List Rule) : catalogue.keep key rules = catalogue := by
  simp only [keep, keeps, Bool.false_eq_true, ↓reduceIte]

theorem keep_lookup_other (catalogue : Catalogue) {key other : CacheKey} (different : other ≠ key)
    (rules : List Rule) :
    (catalogue.keep key rules).cache.lookup other = catalogue.cache.lookup other := by
  unfold keep
  split
  · have apart : (other == key) = false := by simpa using different
    simp only [List.lookup_cons, apart]
  · rfl

theorem loadOnce_keep_other {load : Catalogue → Loading Document} (reads : ReadsOnly load)
    (catalogue : Catalogue) {key other : CacheKey} (different : other ≠ key) (rules : List Rule) :
    ((catalogue.keep key rules).loadOnce other load).result =
      (catalogue.loadOnce other load).result := by
  have sameKept := keep_lookup_other catalogue different rules
  cases kept : catalogue.cache.lookup other with
  | some found => rw [loadOnce_of_kept (sameKept.trans kept), loadOnce_of_kept kept]
  | none =>
    rw [(loadOnce_of_absent reads (sameKept.trans kept)).1, (loadOnce_of_absent reads kept).1,
      reads.bySettings _ _ (keep_contents catalogue key rules).settings]

theorem loadOnce_keep_self {load : Catalogue → Loading Document} (reads : ReadsOnly load)
    {catalogue : Catalogue} {key : CacheKey} (absent : catalogue.cache.lookup key = none)
    {document : Document} (success : (load catalogue).result = .ok document) :
    ((catalogue.keep key document.rules).loadOnce key load).result =
      (catalogue.loadOnce key load).result := by
  cases keeps : catalogue.settings.keepsLoaded with
  | true =>
    rw [loadOnce_of_kept (keep_of_keeps keeps key document.rules),
      (loadOnce_of_absent reads absent).1, success]
    rfl
  | false => rw [keep_of_not_keeps keeps]

/-- After a load every load gives what it gave before, from what is kept or not. -/
theorem loadOnce_after {load next : Catalogue → Loading Document} (reads : ReadsOnly load)
    (readsNext : ReadsOnly next) (catalogue : Catalogue) (key nextKey : CacheKey)
    (sameLoad : nextKey = key → next = load) :
    ((catalogue.loadOnce key load).catalogue.loadOnce nextKey next).result =
      (catalogue.loadOnce nextKey next).result := by
  cases kept : catalogue.cache.lookup key with
  | some rules => rw [loadOnce_of_kept kept]
  | none =>
    rw [(loadOnce_of_absent reads kept).2]
    cases success : (load catalogue).result with
    | error e => rfl
    | ok document =>
      by_cases same : nextKey = key
      · subst same
        rw [sameLoad rfl]
        exact loadOnce_keep_self reads kept success
      · exact loadOnce_keep_other readsNext catalogue same document.rules

end Catalogue

end RuleBook

end EnrollmentDiagnosis
