import EnrollmentDiagnosis.Rule.Basic

set_option autoImplicit false

namespace EnrollmentDiagnosis

/-- Global rules, and rules with the tenants that they belong to. -/
structure RuleStore where
  globalRules : List Rule
  tenantRules : List (String × Rule)
  deriving Inhabited

namespace RuleStore

def ofGlobal (rules : List Rule) : RuleStore := ⟨rules, []⟩

def add (store : RuleStore) (tenant : String) (rule : Rule) : RuleStore :=
  { store with tenantRules := store.tenantRules ++ [(tenant, rule)] }

def ofTenant (store : RuleStore) (tenant : String) : List Rule :=
  (store.tenantRules.filter fun entry => entry.1 == tenant).map Prod.snd

/-- The enabled rules for a tenant: the global ones, then its own. -/
def activeRules (store : RuleStore) (tenant : String) : List Rule :=
  (store.globalRules ++ store.ofTenant tenant).filter (·.enabled)

end RuleStore

end EnrollmentDiagnosis
