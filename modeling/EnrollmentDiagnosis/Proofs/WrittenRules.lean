import EnrollmentDiagnosis.Proofs.CompletedRules
import EnrollmentDiagnosis.Proofs.PlainLabels

set_option autoImplicit false

namespace EnrollmentDiagnosis

theorem Severity.ofName?_name (severity : Severity) :
    Severity.ofName? (plainLabel severity.name) = some severity := by
  cases severity <;> decide +kernel

theorem Trigger.ofName?_name (trigger : Trigger) :
    Trigger.ofName? (plainLabel trigger.name) = some trigger := by
  cases trigger <;> decide +kernel

theorem Source.ofName?_name (source : Source) :
    Source.ofName? (plainLabel source.name) = some source := by
  cases source <;> decide +kernel

theorem Operator.ofName?_name (operator : Operator) :
    Operator.ofName? (plainLabel operator.name) = some operator := by
  cases operator <;> decide +kernel

theorem Operator.name_ne_empty (operator : Operator) : operator.name ≠ "" := by
  cases operator <;> decide

namespace Rule

theorem severityOf_name (severity : Severity) :
    severityOf (.text severity.name) = .ok severity := by
  simp only [severityOf, Reading.display_text, Reading.andThen, Severity.ofName?_name]

theorem triggerOf_name (trigger : Trigger) : triggerOf (.text trigger.name) = .ok trigger := by
  simp only [triggerOf, Value.display, Trigger.ofName?_name, Option.getD_some]

/-- A category that was read is in plain form. -/
theorem plain_of_categoryOf {v : Value} {category : String}
    (read : categoryOf v = .ok category) : plainLabel category = category := by
  unfold categoryOf Reading.display at read
  split at read
  · rename_i text _
    obtain rfl := Reading.ok.inj read
    exact plainLabel_plainLabel text
  · cases read

theorem categoryOf_plain {category : String} (plain : plainLabel category = category) :
    categoryOf (.text category) = .ok category := by
  simp only [categoryOf, Reading.display_text, Reading.map, plain]

end Rule

namespace Condition

theorem sourceOf_name (source : Source) : sourceOf (.text source.name) = .ok source := by
  simp only [sourceOf, Value.display, Source.ofName?_name, Option.getD_some]

/-- An operator is read from its name, the name of those that are not known too. -/
theorem operatorOf_name (operator : Option Operator) :
    operatorOf (textOrNull (operator.map Operator.name)) = .ok operator := by
  cases operator with
  | none => rfl
  | some operator =>
    simp only [Option.map_some, textOrNull]
    unfold operatorOf
    split
    · rename_i null
      cases null
    · rename_i empty
      exact absurd (Value.text.inj empty) operator.name_ne_empty
    · simp only [Value.display, Operator.ofName?_name, Option.getD_some]

theorem optional_textOrNull (s : Option String) :
    Reading.optional Reading.text (textOrNull s) = .ok s := by
  cases s <;> rfl

theorem comparedValue_textOrNull (s : Option String) : comparedValue (textOrNull s) = .ok s := by
  cases s <;> rfl

theorem optional_integer (n : Option Int) :
    Reading.optional Reading.integer (match n with | none => .null | some n => .int n) = .ok n := by
  cases n <;> rfl

/-- Every condition is read back from its record. -/
theorem ofValue_toValue (c : Condition) : ofValue c.toValue = .ok c := by
  have texts (s : Option String) := optional_textOrNull s
  have values (s : Option String) := comparedValue_textOrNull s
  simp only [ofValue, toValue, Value.record, Reading.record, ofEntries, Reading.required,
    Reading.defaulted]
  rw [Reading.field_of_find? (rfl : Reading.text (.text c.signal) = .ok c.signal) rfl,
    Reading.field_of_find? (sourceOf_name c.source) rfl,
    Reading.field_of_find? (texts c.eventType) rfl,
    Reading.field_of_find? (texts c.dataField) rfl,
    Reading.field_of_find? (operatorOf_name c.operator) rfl,
    Reading.field_of_find? (values c.value) rfl,
    Reading.field_of_find? (rfl : Reading.boolean (.bool c.required) = .ok c.required) rfl,
    Reading.field_of_find? (texts c.correlateEventType) rfl,
    Reading.field_of_find? (texts c.joinField) rfl,
    Reading.field_of_find? (optional_integer c.timeWindowSeconds) rfl,
    Reading.field_of_find? (texts c.eventAFilterField) rfl,
    Reading.field_of_find? (operatorOf_name c.eventAFilterOperator) rfl,
    Reading.field_of_find? (values c.eventAFilterValue) rfl]
  rfl

end Condition

namespace ConfidenceFactor

variable {f : ConfidenceFactor}

/-- The expression of a factor is what its condition is parsed as. -/
def IsParsed (f : ConfidenceFactor) : Prop :=
  FactorExpression.parse (some f.condition) = .ok f.expression

theorem parsed_of_ofValue {v : Value} (read : ofValue v = .ok f) : f.IsParsed := by
  unfold ofValue Reading.record at read
  split at read
  · unfold ofEntries Reading.andThen at read
    dsimp only at read
    split at read
    · unfold make at read
      dsimp only at read
      split at read
      · rename_i expression parsed
        have made := Reading.ok.inj read
        rw [IsParsed, ← made]
        exact parsed
      · cases read
    · cases read
    · cases read
  · cases read

/-- A factor is read back from its record, and its condition is parsed again. -/
theorem ofValue_toValue (parsed : f.IsParsed) : ofValue f.toValue = .ok f := by
  have made : make (f.signal, f.condition, f.weight) = .ok f := by
    unfold IsParsed at parsed
    simp only [make, parsed]
  simp only [ofValue, toValue, Value.record, Reading.record, ofEntries, Reading.required,
    Reading.defaulted]
  rw [Reading.field_of_find? (rfl : Reading.text (.text f.signal) = .ok f.signal) rfl,
    Reading.field_of_find? (rfl : Reading.text (.text f.condition) = .ok f.condition) rfl,
    Reading.field_of_find? (rfl : Reading.integer (.int f.weight) = .ok f.weight) rfl]
  show Reading.andThen (.ok (f.signal, f.condition, f.weight)) make = .ok f
  rw [Reading.andThen, made]

end ConfidenceFactor

/-- Texts are read back from a list of them. -/
theorem Reading.list_texts (texts : List String) :
    Reading.list Reading.text (.list (texts.map .text)) = .ok texts :=
  Reading.list_map_write fun _ _ => rfl

theorem Remediation.ofValue_toValue (r : Remediation) : ofValue r.toValue = .ok r := by
  simp only [ofValue, toValue, Value.record, Reading.record, ofEntries, Reading.required,
    Reading.defaulted]
  rw [Reading.field_of_find? (rfl : Reading.text (.text r.title) = .ok r.title) rfl,
    Reading.field_of_find? (Reading.list_texts r.steps) rfl]
  rfl

theorem RelatedDoc.ofValue_toValue (d : RelatedDoc) : ofValue d.toValue = .ok d := by
  simp only [ofValue, toValue, Value.record, Reading.record, ofEntries, Reading.required]
  rw [Reading.field_of_find? (rfl : Reading.text (.text d.title) = .ok d.title) rfl,
    Reading.field_of_find? (rfl : Reading.text (.text d.url) = .ok d.url) rfl]
  rfl

namespace Rule

/-- A rule in the form in which rules are read: its category is plain, its scores are percentages,
and its factors test what their conditions say. -/
structure IsCanonical (rule : Rule) : Prop where
  category : plainLabel rule.category = rule.category
  baseConfidence : minConfidence ≤ rule.baseConfidence ∧ rule.baseConfidence ≤ maxConfidence
  factors : ∀ f ∈ rule.factors, f.IsParsed
  threshold : minConfidence ≤ rule.threshold ∧ rule.threshold ≤ maxConfidence

theorem ReadsFrom.isCanonical {rule : Rule} {entries : List (Value × Value)}
    (reads : rule.ReadsFrom entries) : rule.IsCanonical where
  category := by
    rcases Reading.value_of_field reads.category with ⟨v, read⟩ | default
    · exact plain_of_categoryOf read
    · have category : "enrollment" = rule.category := Option.some.inj default
      rw [← category]
      decide +kernel
  baseConfidence := by
    rcases Reading.value_of_field reads.baseConfidence with ⟨v, read⟩ | default
    · exact (Reading.integerWithin_eq_ok_iff.mp read).2
    · rw [← Option.some.inj default]
      decide
  factors := by
    intro f member
    rcases Reading.value_of_field reads.factors with ⟨v, read⟩ | default
    · obtain ⟨item, itemRead⟩ := Reading.value_of_list read f member
      exact ConfidenceFactor.parsed_of_ofValue itemRead
    · rw [← Option.some.inj default] at member
      cases member
  threshold := by
    rcases Reading.value_of_field reads.threshold with ⟨v, read⟩ | default
    · exact (Reading.integerWithin_eq_ok_iff.mp read).2
    · rw [← Option.some.inj default]
      decide

theorem canonical_of_ofValue {v : Value} {rule : Rule} (read : ofValue v = .ok rule) :
    rule.IsCanonical := by
  cases v with
  | map entries => exact (readsFrom_of_ofEntries read).isCanonical
  | _ => cases read

theorem IsCanonical.ofValue_toValue {rule : Rule} (canonical : rule.IsCanonical) :
    ofValue rule.toValue = .ok rule := by
  have text (s : String) : Reading.text (.text s) = .ok s := rfl
  have boolean (b : Bool) : Reading.boolean (.bool b) = .ok b := rfl
  have conditions : Reading.list Condition.ofValue (.list (rule.conditions.map Condition.toValue)) =
      .ok rule.conditions :=
    Reading.list_map_write fun c _ => c.ofValue_toValue
  have factors : Reading.list ConfidenceFactor.ofValue
      (.list (rule.factors.map ConfidenceFactor.toValue)) = .ok rule.factors :=
    Reading.list_map_write fun f member =>
      ConfidenceFactor.ofValue_toValue (canonical.factors f member)
  have remediation : Reading.list Remediation.ofValue
      (.list (rule.remediation.map Remediation.toValue)) = .ok rule.remediation :=
    Reading.list_map_write fun r _ => r.ofValue_toValue
  have relatedDocs : Reading.list RelatedDoc.ofValue
      (.list (rule.relatedDocs.map RelatedDoc.toValue)) = .ok rule.relatedDocs :=
    Reading.list_map_write fun d _ => d.ofValue_toValue
  have baseConfidence := Reading.integerWithin_int canonical.baseConfidence.1
    canonical.baseConfidence.2
  have threshold := Reading.integerWithin_int canonical.threshold.1 canonical.threshold.2
  exact ReadsFrom.ofEntries
    { id := Reading.field_of_find? (text rule.id) rfl _ _
      title := Reading.field_of_find? (text rule.title) rfl _ _
      description := Reading.field_of_find? (text rule.description) rfl _ _
      severity := Reading.field_of_find? (severityOf_name rule.severity) rfl _ _
      category := Reading.field_of_find? (categoryOf_plain canonical.category) rfl _ _
      version := Reading.field_of_find? (text rule.version) rfl _ _
      author := Reading.field_of_find? (text rule.author) rfl _ _
      enabled := Reading.field_of_find? (boolean rule.enabled) rfl _ _
      isBuiltin := Reading.field_of_find? (boolean rule.isBuiltin) rfl _ _
      isCommunity := Reading.field_of_find? (boolean rule.isCommunity) rfl _ _
      trigger := Reading.field_of_find? (triggerOf_name rule.trigger) rfl _ _
      conditions := Reading.field_of_find? conditions rfl _ _
      baseConfidence := Reading.field_of_find? baseConfidence rfl _ _
      factors := Reading.field_of_find? factors rfl _ _
      threshold := Reading.field_of_find? threshold rfl _ _
      explanation := Reading.field_of_find? (text rule.explanation) rfl _ _
      remediation := Reading.field_of_find? remediation rfl _ _
      relatedDocs := Reading.field_of_find? relatedDocs rfl _ _
      tags := Reading.field_of_find? (Reading.list_texts rule.tags) rfl _ _ }

/-- Every rule that can be read from a value is read again from its own record; the rules that are
read back are those in canonical form, so no rule is read in any other form. What a rule consists of
is read back by itself: its conditions, with sources, operators and values of any kind, its factors
with their expressions, its remediation and its documents. -/
theorem written_rule_reads_back :
    (∀ v rule, ofValue v = .ok rule → ofValue rule.toValue = .ok rule) ∧
      (∀ rule, ofValue rule.toValue = .ok rule ↔ rule.IsCanonical) ∧
      (∀ v f, ConfidenceFactor.ofValue v = .ok f → ConfidenceFactor.ofValue f.toValue = .ok f) ∧
      (∀ c, Condition.ofValue c.toValue = .ok c) ∧
      (∀ r, Remediation.ofValue r.toValue = .ok r) ∧
      ∀ d, RelatedDoc.ofValue d.toValue = .ok d := by
  refine ⟨?_, ?_, ?_, Condition.ofValue_toValue, Remediation.ofValue_toValue,
    RelatedDoc.ofValue_toValue⟩
  · intro v rule read
    exact (canonical_of_ofValue read).ofValue_toValue
  · intro rule
    exact ⟨canonical_of_ofValue, IsCanonical.ofValue_toValue⟩
  · intro v f read
    exact ConfidenceFactor.ofValue_toValue (ConfidenceFactor.parsed_of_ofValue read)

/-- A factor with blanks and a weight in quotes. -/
def looseFactor : Value := .record [
  ("signal", .text "slow"),
  ("condition", .text " COUNT >= 3"),
  ("weight", .text "20")]

/-- A record with names in all spellings, an unknown source and operator, and labels, numbers and
truth values that are written loosely. -/
def looseFailure : Value := .record [
  ("rule_id", .text "slow-apps"),
  ("title", .text "Slow apps"),
  ("severity", .text " HIGH "),
  ("category", .text " Apps\t"),
  ("trigger", .text "sequence"),
  ("is_builtin", .text "No"),
  ("conditions", .list [.record [
    ("signal", .text "slow"),
    ("source", .text "Weather"),
    ("event_type", .text "app_install"),
    ("operator", .text " Near "),
    ("value", .bool true),
    ("required", .int 1)]]),
  ("base_confidence", .text "60"),
  ("confidenceFactors", .list [looseFactor]),
  ("remediation", .list [.record [("title", .text "Wait"), ("steps", .list [.text "Retry"])]]),
  ("related_docs", .list [.record [("title", .text "Apps"), ("url", .text "https://x")]])]

/-- The condition of the record, about a source that is not known. -/
def weatherCondition : Condition where
  signal := "slow"
  source := .unknown
  eventType := some "app_install"
  dataField := none
  operator := some .unknown
  value := some "true"
  required := true
  correlateEventType := none
  joinField := none
  timeWindowSeconds := none
  eventAFilterField := none
  eventAFilterOperator := none
  eventAFilterValue := none

/-- The factor of the record. -/
def countFactor : ConfidenceFactor :=
  ⟨"slow", " COUNT >= 3", 20, ⟨.countAtLeast 3, "COUNT >= 3"⟩⟩

/-- The rule of the record. -/
def failureRule : Rule where
  id := "slow-apps"
  title := "Slow apps"
  description := ""
  severity := .high
  category := "apps"
  version := "1.0.0"
  author := ""
  enabled := true
  isBuiltin := false
  isCommunity := false
  trigger := .single
  conditions := [weatherCondition]
  baseConfidence := 60
  factors := [countFactor]
  threshold := 40
  explanation := ""
  remediation := [⟨"Wait", ["Retry"]⟩]
  relatedDocs := [⟨"Apps", "https://x"⟩]
  tags := []

theorem ofValue_looseFailure : ofValue looseFailure = .ok failureRule := by rfl

theorem ofValue_looseFactor : ConfidenceFactor.ofValue looseFactor = .ok countFactor := by rfl

/-- The rule of a loosely written record is read again, and so is its factor. -/
theorem failureRule_reads_back :
    ofValue looseFailure = .ok failureRule ∧ ofValue failureRule.toValue = .ok failureRule ∧
      ConfidenceFactor.ofValue countFactor.toValue = .ok countFactor := by
  obtain ⟨rules, -, factors, -⟩ := written_rule_reads_back
  exact ⟨ofValue_looseFailure, rules looseFailure failureRule ofValue_looseFailure,
    factors looseFactor countFactor ofValue_looseFactor⟩

end Rule

end EnrollmentDiagnosis
