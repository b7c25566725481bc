import EnrollmentDiagnosis.Proofs.AcceptedDocuments
import EnrollmentDiagnosis.Proofs.CatalogueRuns
import EnrollmentDiagnosis.Proofs.CompletedRules

set_option autoImplicit false

namespace EnrollmentDiagnosis

namespace RuleBook

namespace Document

theorem ofEntries_map_ok (rules : List Rule) :
    ofEntries (rules.map Except.ok) = .ok ⟨rules, []⟩ := by
  induction rules with
  | nil => rfl
  | cons rule rest ih =>
    rw [List.map_cons, ofEntries, ih]
    rfl

end Document

namespace Origin

variable {origin : Origin} {threshold : Int}

/-- The rules of entries that can be read, each of them completed. -/
def completedRules (origin : Origin) (threshold : Int) (written : List Written) : List Rule :=
  written.map fun w => origin.completed threshold w.entry w.rule

theorem ids_completedRules (origin : Origin) (threshold : Int) (written : List Written) :
    (origin.completedRules threshold written).map (·.id) = written.map (·.rule.id) := by
  rw [completedRules, List.map_map]
  rfl

theorem readEntries_written (default : origin.defaultThreshold = some threshold)
    (low : minConfidence ≤ threshold) (high : threshold ≤ maxConfidence) (position : Nat)
    (written : List Written) :
    origin.readEntries position (written.map (·.entry)) =
      (origin.completedRules threshold written).map Except.ok := by
  induction written generalizing position with
  | nil => rfl
  | cons first rest ih =>
    have entry := readEntry_of_ofValue default low high position first.reads
    simp only [List.map_cons, readEntries, entry, ih, completedRules]

/-- A document of entries that can be read gives all their rules, and there is nothing to note. -/
theorem parse_written (default : origin.defaultThreshold = some threshold)
    (low : minConfidence ≤ threshold) (high : threshold ≤ maxConfidence) {text : String}
    {fields : List (Value × Value)} {written : List Written}
    (loaded : Yaml.load text = .ok (.map fields))
    (found : Value.find? fields "rules" = some (.list (written.map (·.entry)))) :
    origin.parse text = .ok ⟨origin.completedRules threshold written, []⟩ := by
  simp only [parse, loaded, readLoaded, readDocument, found, readEntries_written default low high,
    Document.ofEntries_map_ok]

end Origin

namespace Catalogue

theorem readDocument_notices_of_ok {catalogue : Catalogue} {origin : Origin} {text : String}
    {document : Document} (read : (catalogue.readDocument origin text).result = .ok document) :
    (catalogue.readDocument origin text).notices = [] := by
  unfold readDocument at read ⊢
  cases parsed : origin.parse text with
  | ok _ => rfl
  | error e =>
    rw [parsed] at read
    cases read

theorem addDocument_notices {catalogue : Catalogue} {tenant text : String} {document : Document}
    (read : documentOf catalogue.settings tenant text = .ok document) :
    (catalogue.addDocument tenant text).notices = document.notices := by
  have result : (catalogue.readDocument ⟨"custom rules for tenant " ++ tenant, false,
      some catalogue.settings.defaultThreshold⟩ text).result = .ok document := read
  have quiet := readDocument_notices_of_ok result
  simp only [addDocument, Loading.andThen, result, quiet]
  exact List.nil_append _

/-- Adding a document changes no shared rules. -/
theorem addDocument_sharedNow (catalogue : Catalogue) (files : Files) (tenant text : String) :
    (catalogue.addDocument tenant text).catalogue.sharedNow files = catalogue.sharedNow files := by
  obtain ⟨change, changes, after⟩ := addDocument_ownChange catalogue.settings tenant text
  rw [after catalogue rfl]
  unfold Catalogue.sharedNow
  rw [library_result_congr (changes.settings catalogue) (changes.cache catalogue),
    sharedFile_result_congr files (changes.settings catalogue) (changes.cache catalogue)]

end Catalogue

end RuleBook

namespace Deployment

open RuleBook

variable {settings : CatalogueSettings} {tenant : String} {history : List Change}
  {state : Deployment}

/-- Shared rules that are read are those of the catalogue. -/
theorem sharedNow_of_read {catalogue : Catalogue} (provider : state.rules = .catalogue catalogue)
    {elapsed : String} {shared : List Rule}
    (read : (state.perform elapsed .sharedRules).result = .ok (.rules shared)) :
    catalogue.sharedNow state.files = .ok shared := by
  rw [sharedRules_result provider] at read
  cases outcome : catalogue.sharedNow state.files with
  | error e =>
    rw [outcome] at read
    cases read
  | ok rules =>
    rw [outcome] at read
    cases read
    rfl

/-- What a tenant's upload comes to in a deployment that stands as a history tells. -/
theorem Stands.addDocument (stands : state.Stands settings tenant history) (elapsed : String)
    {text : String} {document : Document}
    (read : Catalogue.documentOf settings tenant text = .ok document) :
    let step := state.perform elapsed (.addCustomDocument tenant text)
    step.result = .ok (.count document.rules.length) ∧ step.notices = document.notices ∧
      ∀ shared, (state.perform elapsed .sharedRules).result = .ok (.rules shared) →
        (step.state.perform elapsed (.allRules tenant)).result =
          .ok (.rules (Change.rulesAfter (history ++ document.rules.map .add) shared)) := by
  intro step
  obtain ⟨catalogue, provider, rfl, tells⟩ := stands
  have stepEq : step = state.loaded .count (catalogue.addDocument tenant text) := by
    simp only [step, Deployment.perform, onCatalogue, provider]
  obtain ⟨result, after⟩ := Catalogue.addDocument_spec catalogue tenant text
  rw [read] at result after
  rw [stepEq]
  refine ⟨?_, Catalogue.addDocument_notices read, fun shared loads => ?_⟩
  · simp only [loaded, result]
    rfl
  · have told : (catalogue.addDocument tenant text).catalogue.Tells tenant
        (history ++ document.rules.map .add) := by
      rw [after]
      exact tells.addRules document.rules
    have sharedNow : (catalogue.addDocument tenant text).catalogue.sharedNow state.files =
        .ok shared := by
      rw [Catalogue.addDocument_sharedNow]
      exact sharedNow_of_read provider loads
    refine (allRules_result rfl told elapsed).trans ?_
    simp only [loaded, sharedNow]
    rfl

/-- When validation accepts a document, a tenant that adds it is told the number of its entries, and
nothing is noted. This is so whatever was done before, as long as the shared rules can be loaded and
the threshold of rules that state none is a percentage. Then, for each entry, exactly one of the
rules that count for the tenant has its identity. It is the rule as it is written, but it is not
marked as one of the built-in library, it has the default threshold if the entry states none, and it
is enabled as the tenant has chosen. -/
theorem accepted_document_counts (state : Deployment) (settings : CatalogueSettings)
    (initial : state.rules = .catalogue (Catalogue.ofSettings settings))
    (low : minConfidence ≤ settings.defaultThreshold)
    (high : settings.defaultThreshold ≤ maxConfidence) (run : List Request)
    (tenant text elapsed : String) {verdict : Verdict} (validated : validate text = .ok verdict)
    (accepted : verdict.success = true) {shared : List Rule}
    (loads : ((state.serveAll run).perform elapsed .sharedRules).result = .ok (.rules shared)) :
    let step := (state.serveAll run).perform elapsed (.addCustomDocument tenant text)
    let history := Operation.historyOf settings tenant run
    ∃ fields entries, Yaml.load text = .ok (.map fields) ∧
      Value.find? fields "rules" = some (.list entries) ∧
      step.result = .ok (.count entries.length) ∧ step.notices = [] ∧
      ∃ all, (step.state.perform elapsed (.allRules tenant)).result = .ok (.rules all) ∧
        ∀ entry ∈ entries, ∃ rule, Rule.ofValue entry = .ok rule ∧
          all.filter (·.id == rule.id) = [{ rule with
            isBuiltin := false
            threshold := if statesThreshold entry then rule.threshold
              else settings.defaultThreshold
            enabled := (Change.choice? history rule.id).getD rule.enabled }] := by
  intro step history
  obtain ⟨fields, written, loaded, found, distinct, -⟩ := written_of_validate validated accepted
  have stands : (state.serveAll run).Stands settings tenant history :=
    (stands_of_initial initial tenant).serveAll run
  let origin : Origin :=
    ⟨"custom rules for tenant " ++ tenant, false, some settings.defaultThreshold⟩
  let rules := origin.completedRules settings.defaultThreshold written
  have read : Catalogue.documentOf settings tenant text = .ok ⟨rules, []⟩ := by
    have parsed : origin.parse text = .ok ⟨rules, []⟩ :=
      Origin.parse_written rfl low high loaded found
    exact congrArg (Except.mapError CatalogueError.document) parsed
  obtain ⟨count, quiet, after⟩ := stands.addDocument elapsed read
  have all := after shared loads
  have ids : (rules.map (·.id)).Nodup := by
    rw [Origin.ids_completedRules]
    exact distinct
  have number : rules.length = (written.map (·.entry)).length := by
    rw [List.length_map]
    exact List.length_map _
  refine ⟨fields, written.map (·.entry), loaded, found, ?_, quiet, _, all, ?_⟩
  · rw [← number]
    exact count
  · intro entry member
    obtain ⟨w, inWritten, rfl⟩ := List.mem_map.mp member
    let rule := origin.completed settings.defaultThreshold w.entry w.rule
    have added : rule ∈ rules := List.mem_map.mpr ⟨w, inWritten, rfl⟩
    have current : Change.current? (history ++ rules.map .add) rule.id = some rule :=
      Change.current?_adds_own history ids added
    have alone := Change.rulesAfter_own shared current
    have chosen : Change.chosen (history ++ rules.map .add) rule = { rule with
        enabled := (Change.choice? history rule.id).getD rule.enabled } := by
      rw [Change.chosen, Change.choice?_adds]
    rw [chosen] at alone
    exact ⟨w.rule, w.reads, alone⟩

/-- A document of a rule that replaces a shared one. -/
def replacement : String :=
  "rules:\n- rule_id: a\n  title: Mine\n  conditions:\n  - signal: s\n    source: event_type\n"

theorem replacement_counts :
    validate replacement = .ok (.valid 1) ∧
      ∃ shared, (withSharedFile.perform "" .sharedRules).result = .ok (.rules shared) ∧
        shared.map (·.id) = ["a", "b"] ∧
        let step := withSharedFile.perform "" (.addCustomDocument "t" replacement)
        ∃ (entries : List Value) (all : List Rule),
          step.result = .ok (.count entries.length) ∧ step.notices = [] ∧
          (step.state.perform "" (.allRules "t")).result = .ok (.rules all) ∧
          ∀ entry ∈ entries, ∃ rule, Rule.ofValue entry = .ok rule ∧
            (all.filter (·.id == rule.id)).map (·.title) = [rule.title] := by
  have evaluated : (validate replacement).toOption.map id = some (.valid 1) := by decide +kernel
  have loads : ((Catalogue.ofSettings sharedSettings).sharedNow
      withSharedFile.files).toOption.map (fun shared => shared.map (·.id)) = some ["a", "b"] := by
    decide +kernel
  have provider : withSharedFile.rules = .catalogue (Catalogue.ofSettings sharedSettings) := rfl
  obtain ⟨_, validated, rfl⟩ := Except.ok_of_toOption_map evaluated
  obtain ⟨shared, loaded, ids⟩ := Except.ok_of_toOption_map loads
  have read := sharedRules_result provider ""
  rw [loaded] at read
  obtain ⟨_, entries, -, -, count, quiet, all, rules, each⟩ :=
    accepted_document_counts withSharedFile sharedSettings provider (by decide) (by decide) [] "t"
      replacement "" validated rfl read
  refine ⟨validated, shared, read, ids, entries, all, count, quiet, rules, ?_⟩
  intro entry member
  obtain ⟨rule, written, alone⟩ := each entry member
  refine ⟨rule, written, ?_⟩
  rw [alone]
  rfl

end Deployment

end EnrollmentDiagnosis
