import EnrollmentDiagnosis.OperationLog
import EnrollmentDiagnosis.RuleBook.Builtin
import EnrollmentDiagnosis.RuleBook.Path

set_option autoImplicit false

namespace EnrollmentDiagnosis.RuleBook

/-- What stays the same during the life of a catalogue. -/
structure CatalogueSettings where
  includesBuiltin : Bool
  /-- The rules file that is shared by all tenants. -/
  sharedPath : Option Path
  /-- True when rules that were loaded once are kept. -/
  keepsLoaded : Bool
  defaultThreshold : Int
  deriving DecidableEq, Inhabited

/-- Where kept rules were loaded from. -/
inductive CacheKey where
  | builtin
  | file (path : Path)
  deriving DecidableEq, Inhabited

/-- Why rules cannot be loaded. -/
inductive CatalogueError where
  | fileNotFound (path : Path)
  | document (e : DocumentError)
  deriving DecidableEq

def CatalogueError.message : CatalogueError → String
  | fileNotFound path => "Rules file not found: " ++ path.text
  | document e => e.message

/-- The settings, what has been loaded, and what tenants have changed. -/
structure Catalogue where
  settings : CatalogueSettings
  cache : List (CacheKey × List Rule)
  /-- Whether a tenant wants a rule, by tenant and rule; the latest choice is first. -/
  choices : List ((String × String) × Bool)
  /-- The rules of tenants, at most one for each tenant and identity. -/
  tenantRules : List (String × Rule)
  deriving Inhabited

/-- What comes of an operation that loads rules, and the notices that it gives. -/
structure Loading (α : Type) where
  result : Except CatalogueError α
  catalogue : Catalogue
  notices : List String

namespace Loading

/-- Goes on with what was loaded, unless the loading failed. -/
def andThen {α β : Type} (first : Loading α) (next : α → Catalogue → Loading β) : Loading β :=
  match first.result with
  | .error e => ⟨.error e, first.catalogue, first.notices⟩
  | .ok a =>
    let second := next a first.catalogue
    { second with notices := first.notices ++ second.notices }

/-- Notes the failure of a named operation after its other notices. -/
def logged {α : Type} (loading : Loading α) (elapsed name : String) : Loading α :=
  match loading.result with
  | .ok _ => loading
  | .error e =>
    { loading with
      notices := loading.notices ++ [(OperationLog.callFailure elapsed name e.message).message] }

end Loading

namespace Catalogue

def ofSettings (settings : CatalogueSettings) : Catalogue := ⟨settings, [], [], []⟩

/-- Keeps loaded rules, if the settings ask for it. -/
def keep (catalogue : Catalogue) (key : CacheKey) (rules : List Rule) : Catalogue :=
  if catalogue.settings.keepsLoaded then { catalogue with cache := (key, rules) :: catalogue.cache }
  else catalogue

/-- Rules from the cache, or else from a document, which is then kept. A failure keeps nothing. -/
def loadOnce (catalogue : Catalogue) (key : CacheKey)
    (load : Catalogue → Loading Document) : Loading (List Rule) :=
  match catalogue.cache.lookup key with
  | some rules => ⟨.ok rules, catalogue, []⟩
  | none =>
    (load catalogue).andThen fun document catalogue =>
      ⟨.ok document.rules, catalogue.keep key document.rules, document.notices⟩

/-- Reads a rules document; the catalogue stays as it is. -/
def readDocument (catalogue : Catalogue) (origin : Origin) (text : String) : Loading Document :=
  let reading := origin.parse text
  ⟨reading.mapError .document, catalogue, match reading with
    | .ok _ => []
    | .error e => e.notices⟩

def loadBuiltin (catalogue : Catalogue) : Loading (List Rule) :=
  catalogue.loadOnce .builtin fun catalogue =>
    catalogue.readDocument (builtinOrigin (some catalogue.settings.defaultThreshold)) builtinText

/-- The rules document in a file. -/
def readFile (catalogue : Catalogue) (files : Files) (path : Path) : Loading Document :=
  match files.read? path with
  | some text =>
    catalogue.readDocument ⟨path.text, false, some catalogue.settings.defaultThreshold⟩ text
  | none => ⟨.error (.fileNotFound path), catalogue, ["No rules file found at " ++ path.text]⟩

/-- The rules of a file. -/
def loadFile (catalogue : Catalogue) (elapsed : String) (files : Files) (path : Path) :
    Loading (List Rule) :=
  (catalogue.loadOnce (.file path.resolved) fun catalogue => catalogue.readFile files path).logged
    elapsed "load_rules_file"

/-- The rules that all tenants share: the built-in library, then the shared file. -/
def sharedRules (catalogue : Catalogue) (elapsed : String) (files : Files) : Loading (List Rule) :=
  let builtin : Loading (List Rule) :=
    if catalogue.settings.includesBuiltin then catalogue.loadBuiltin else ⟨.ok [], catalogue, []⟩
  builtin.andThen fun library catalogue =>
    match catalogue.settings.sharedPath with
    | none => ⟨.ok library, catalogue, []⟩
    | some path =>
      (catalogue.loadFile elapsed files path).andThen fun rules catalogue =>
        ⟨.ok (library ++ rules), catalogue, []⟩

/-- The rules of a tenant's own, in the order in which they were added. -/
def rulesOf (catalogue : Catalogue) (tenant : String) : List Rule :=
  (catalogue.tenantRules.filter fun entry => entry.1 == tenant).map Prod.snd

/-- A rule, enabled or not as the tenant has chosen. -/
def withChoice (catalogue : Catalogue) (tenant : String) (rule : Rule) : Rule :=
  { rule with enabled := (catalogue.choices.lookup (tenant, rule.id)).getD rule.enabled }

/-- The rules that count for a tenant: shared rules that none of its own replaces, then its own. -/
def effective (catalogue : Catalogue) (tenant : String) (shared : List Rule) : List Rule :=
  let own := catalogue.rulesOf tenant
  let unreplaced := shared.filter fun rule => !own.any fun replacement => replacement.id == rule.id
  (unreplaced ++ own).map (catalogue.withChoice tenant)

/-- The rules that count for a tenant, with those that are not enabled. -/
def allRules (catalogue : Catalogue) (elapsed : String) (files : Files) (tenant : String) :
    Loading (List Rule) :=
  (catalogue.sharedRules elapsed files).andThen fun shared catalogue =>
    ⟨.ok (catalogue.effective tenant shared), catalogue, []⟩

/-- The enabled rules that count for a tenant. -/
def activeRules (catalogue : Catalogue) (elapsed : String) (files : Files) (tenant : String) :
    Loading (List Rule) :=
  ((catalogue.allRules elapsed files tenant).andThen fun rules catalogue =>
    ⟨.ok (rules.filter (·.enabled)), catalogue, []⟩).logged elapsed "load_active_rules"

/-- Records a tenant's choice about a rule. -/
def choose (catalogue : Catalogue) (tenant ruleId : String) (enabled : Bool) : Catalogue :=
  { catalogue with choices := ((tenant, ruleId), enabled) :: catalogue.choices }

/-- Puts a tenant's rule in the place of its rule with the same identity, or behind all others. -/
def putRule : List (String × Rule) → String → Rule → List (String × Rule)
  | [], tenant, rule => [(tenant, rule)]
  | (owner, old) :: rest, tenant, rule =>
    if owner = tenant ∧ old.id = rule.id then (tenant, rule) :: rest
    else (owner, old) :: putRule rest tenant rule

/-- Adds a rule of a tenant's own, which is no rule of the built-in library. -/
def addRule (catalogue : Catalogue) (tenant : String) (rule : Rule) : Catalogue :=
  { catalogue with
    tenantRules := putRule catalogue.tenantRules tenant { rule with isBuiltin := false } }

/-- Adds every rule of a document as the tenant's own, and tells how many there are. -/
def addDocument (catalogue : Catalogue) (tenant text : String) : Loading Nat :=
  let origin : Origin :=
    ⟨"custom rules for tenant " ++ tenant, false, some catalogue.settings.defaultThreshold⟩
  (catalogue.readDocument origin text).andThen fun document catalogue =>
    ⟨.ok document.rules.length,
      document.rules.foldl (fun catalogue rule => catalogue.addRule tenant rule) catalogue,
      document.notices⟩

/-- True when a tenant has a rule of its own with the identity. -/
def hasRule (catalogue : Catalogue) (tenant ruleId : String) : Bool :=
  (catalogue.rulesOf tenant).any fun rule => rule.id == ruleId

/-- Removes a rule of the tenant's own. -/
def removeRule (catalogue : Catalogue) (tenant ruleId : String) : Catalogue :=
  { catalogue with
    tenantRules := catalogue.tenantRules.filter fun entry =>
      !(entry.1 == tenant && entry.2.id == ruleId) }

/-- Forgets what was loaded. -/
def clearCache (catalogue : Catalogue) : Catalogue := { catalogue with cache := [] }

end Catalogue

end EnrollmentDiagnosis.RuleBook
