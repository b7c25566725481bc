import EnrollmentDiagnosis.Proofs.RecordFields
import EnrollmentDiagnosis.RuleBook.Document

set_option autoImplicit false

namespace EnrollmentDiagnosis

namespace Rule

/-- Every field of a rule is what the field of a record is read as. -/
structure ReadsFrom (rule : Rule) (entries : List (Value × Value)) : Prop where
  id : Reading.required entries ["ruleId", "rule_id"] Reading.text = .ok rule.id
  title : Reading.required entries ["title"] Reading.text = .ok rule.title
  description : Reading.defaulted entries ["description"] "" Reading.text = .ok rule.description
  severity : Reading.defaulted entries ["severity"] .warning severityOf = .ok rule.severity
  category : Reading.defaulted entries ["category"] "enrollment" categoryOf = .ok rule.category
  version : Reading.defaulted entries ["version"] "1.0.0" Reading.text = .ok rule.version
  author : Reading.defaulted entries ["author"] "" Reading.text = .ok rule.author
  enabled : Reading.defaulted entries ["enabled"] true Reading.boolean = .ok rule.enabled
  isBuiltin : Reading.defaulted entries builtinNames false Reading.boolean = .ok rule.isBuiltin
  isCommunity : Reading.defaulted entries ["isCommunity", "is_community"] false Reading.boolean =
    .ok rule.isCommunity
  trigger : Reading.defaulted entries ["trigger"] .single triggerOf = .ok rule.trigger
  conditions : Reading.defaulted entries ["conditions"] [] (Reading.list Condition.ofValue) =
    .ok rule.conditions
  baseConfidence : Reading.defaulted entries ["baseConfidence", "base_confidence"] 50
    (Reading.integerWithin minConfidence maxConfidence) = .ok rule.baseConfidence
  factors : Reading.defaulted entries ["confidenceFactors", "confidence_factors"] []
    (Reading.list ConfidenceFactor.ofValue) = .ok rule.factors
  threshold : Reading.defaulted entries thresholdNames 40
    (Reading.integerWithin minConfidence maxConfidence) = .ok rule.threshold
  explanation : Reading.defaulted entries ["explanation"] "" Reading.text = .ok rule.explanation
  remediation : Reading.defaulted entries
    ["remediationSteps", "remediation_steps", "remediation"] [] (Reading.list Remediation.ofValue) =
      .ok rule.remediation
  relatedDocs : Reading.defaulted entries ["relatedDocs", "related_docs"] []
    (Reading.list RelatedDoc.ofValue) = .ok rule.relatedDocs
  tags : Reading.defaulted entries ["tags"] [] (Reading.list Reading.text) = .ok rule.tags

theorem readsFrom_of_ofEntries {entries : List (Value × Value)} {rule : Rule}
    (read : Rule.ofEntries entries = .ok rule) : rule.ReadsFrom entries := by
  unfold Rule.ofEntries at read
  -- The reading is taken apart from its last field to its first.
  obtain ⟨_, _, toRelatedDocs, tags, rfl⟩ := Reading.parts_of_seq read
  obtain ⟨_, _, toRemediation, relatedDocs, rfl⟩ := Reading.parts_of_seq toRelatedDocs
  obtain ⟨_, _, toExplanation, remediation, rfl⟩ := Reading.parts_of_seq toRemediation
  obtain ⟨_, _, toThreshold, explanation, rfl⟩ := Reading.parts_of_seq toExplanation
  obtain ⟨_, _, toFactors, threshold, rfl⟩ := Reading.parts_of_seq toThreshold
  obtain ⟨_, _, toBaseConfidence, factors, rfl⟩ := Reading.parts_of_seq toFactors
  obtain ⟨_, _, toConditions, baseConfidence, rfl⟩ := Reading.parts_of_seq toBaseConfidence
  obtain ⟨_, _, toTrigger, conditions, rfl⟩ := Reading.parts_of_seq toConditions
  obtain ⟨_, _, toIsCommunity, trigger, rfl⟩ := Reading.parts_of_seq toTrigger
  obtain ⟨_, _, toIsBuiltin, isCommunity, rfl⟩ := Reading.parts_of_seq toIsCommunity
  obtain ⟨_, _, toEnabled, isBuiltin, rfl⟩ := Reading.parts_of_seq toIsBuiltin
  obtain ⟨_, _, toAuthor, enabled, rfl⟩ := Reading.parts_of_seq toEnabled
  obtain ⟨_, _, toVersion, author, rfl⟩ := Reading.parts_of_seq toAuthor
  obtain ⟨_, _, toCategory, version, rfl⟩ := Reading.parts_of_seq toVersion
  obtain ⟨_, _, toSeverity, category, rfl⟩ := Reading.parts_of_seq toCategory
  obtain ⟨_, _, toDescription, severity, rfl⟩ := Reading.parts_of_seq toSeverity
  obtain ⟨_, _, toTitle, description, rfl⟩ := Reading.parts_of_seq toDescription
  obtain ⟨_, _, toId, title, rfl⟩ := Reading.parts_of_seq toTitle
  obtain ⟨_, id, rfl⟩ := Reading.part_of_map toId
  exact ⟨id, title, description, severity, category, version, author, enabled, isBuiltin,
    isCommunity, trigger, conditions, baseConfidence, factors, threshold, explanation, remediation,
    relatedDocs, tags⟩

theorem ReadsFrom.ofEntries {entries : List (Value × Value)} {rule : Rule}
    (reads : rule.ReadsFrom entries) : Rule.ofEntries entries = .ok rule := by
  simp only [Rule.ofEntries, reads.id, reads.title, reads.description, reads.severity,
    reads.category, reads.version, reads.author, reads.enabled, reads.isBuiltin, reads.isCommunity,
    reads.trigger, reads.conditions, reads.baseConfidence, reads.factors, reads.threshold,
    reads.explanation, reads.remediation, reads.relatedDocs, reads.tags]
  rfl

end Rule

namespace RuleBook

theorem find?_withoutKeys (fields : List (Value × Value)) (names : List String) (key : String) :
    Value.find? (withoutKeys fields names) key =
      if key ∈ names then none else Value.find? fields key := by
  induction fields with
  | nil => exact (ite_self none).symm
  | cons entry rest ih =>
    obtain ⟨name, v⟩ := entry
    by_cases here : name = .text key
    · subst here
      by_cases dropped : key ∈ names
      · have skipped : withoutKeys ((.text key, v) :: rest) names = withoutKeys rest names := by
          simp [withoutKeys, dropped]
        rw [skipped, ih, if_pos dropped, if_pos dropped]
      · have kept : withoutKeys ((.text key, v) :: rest) names =
            (.text key, v) :: withoutKeys rest names := by
          simp [withoutKeys, dropped]
        rw [kept, Value.find?_cons_here, Value.find?_cons_here, if_neg dropped]
    · have passed : Value.find? (withoutKeys ((name, v) :: rest) names) key =
          Value.find? (withoutKeys rest names) key := Value.find?_filter_cons_other here _ rest
      rw [passed, ih, Value.find?_cons_other here]

/-- True for an entry that states a threshold. -/
def statesThreshold : Value → Bool
  | .map fields => hasKey fields Rule.thresholdNames
  | _ => false

namespace Origin

variable {origin : Origin} {threshold : Int} {fields : List (Value × Value)}

/-- A completed record has the fields of the record, but for the mark of the built-in library, and
the origin's threshold, if there is one, where none is stated under any name. -/
theorem find?_complete (origin : Origin) (fields : List (Value × Value)) {name : String}
    (unmarked : name ∉ Rule.builtinNames) :
    Value.find? (origin.complete fields) name =
      (Value.find? fields name).or (if hasKey fields Rule.thresholdNames then none
        else origin.defaultThreshold.bind fun threshold =>
          Value.find? [(.text "confidence_threshold", .int threshold)] name) := by
  have other : (Value.text "is_builtin") ≠ .text name := by
    intro same
    cases same
    exact unmarked (by decide)
  unfold complete
  cases origin.defaultThreshold with
  | none =>
    rw [Option.bind_none, ite_self, Option.or_none]
    dsimp only
    rw [Value.find?_cons_other other, find?_withoutKeys, if_neg unmarked]
  | some threshold =>
    dsimp only
    cases hasKey fields Rule.thresholdNames with
    | true =>
      rw [if_pos rfl, if_pos rfl, Value.find?_cons_other other, find?_withoutKeys,
        if_neg unmarked, Option.or_none]
    | false =>
      rw [if_neg Bool.false_ne_true, if_neg Bool.false_ne_true, List.cons_append,
        Value.find?_cons_other other, Value.find?_append, find?_withoutKeys, if_neg unmarked,
        Option.bind_some]

theorem find?_complete_other (origin : Origin) (fields : List (Value × Value)) {name : String}
    (unmarked : name ∉ Rule.builtinNames) (other : name ∉ Rule.thresholdNames) :
    Value.find? (origin.complete fields) name = Value.find? fields name := by
  have apart : (Value.text "confidence_threshold") ≠ .text name := by
    intro same
    cases same
    exact other (by decide)
  have absent : (origin.defaultThreshold.bind fun threshold =>
      Value.find? [(.text "confidence_threshold", .int threshold)] name) = none := by
    refine Option.bind_eq_none_iff.mpr fun threshold _ => ?_
    exact Value.find?_cons_other apart []
  rw [find?_complete origin fields unmarked, absent, ite_self, Option.or_none]

theorem lookup_complete_mark (origin : Origin) (fields : List (Value × Value)) :
    Reading.lookup (origin.complete fields) Rule.builtinNames =
      some ("is_builtin", .bool origin.isBuiltin) := by
  have shape : ∃ more, origin.complete fields = (.text "is_builtin", .bool origin.isBuiltin) ::
      (withoutKeys fields Rule.builtinNames ++ more) ∧ Value.find? more "isBuiltin" = none := by
    unfold complete
    split
    · exact ⟨[], by rw [List.append_nil], rfl⟩
    · split
      · exact ⟨[], by rw [List.append_nil], rfl⟩
      · exact ⟨_, rfl, Value.find?_cons_other (by simp) []⟩
  obtain ⟨more, complete, absent⟩ := shape
  have other : Value.find? (origin.complete fields) "isBuiltin" = none := by
    rw [complete, Value.find?_cons_other (by simp), Value.find?_append, find?_withoutKeys,
      if_pos (by decide), absent]
    rfl
  have here : Value.find? (origin.complete fields) "is_builtin" =
      some (.bool origin.isBuiltin) := by
    rw [complete, Value.find?_cons_here]
  simp only [Rule.builtinNames, Reading.lookup, other, here]

/-- A threshold that is stated is found as it is. -/
theorem lookup_complete_stated (origin : Origin)
    (stated : hasKey fields Rule.thresholdNames = true) :
    Reading.lookup (origin.complete fields) Rule.thresholdNames =
      Reading.lookup fields Rule.thresholdNames := by
  refine Reading.lookup_congr fun name member => ?_
  have unmarked : name ∉ Rule.builtinNames :=
    (by decide : ∀ name ∈ Rule.thresholdNames, name ∉ Rule.builtinNames) name member
  rw [find?_complete origin fields unmarked, if_pos stated, Option.or_none]

/-- A threshold that is not stated is the origin's, if there is one. -/
theorem lookup_complete_unstated (origin : Origin)
    (unstated : hasKey fields Rule.thresholdNames = false) :
    Reading.lookup (origin.complete fields) Rule.thresholdNames =
      origin.defaultThreshold.map fun threshold => ("confidence_threshold", .int threshold) := by
  have absent : ∀ name ∈ Rule.thresholdNames, Value.find? fields name = none := by
    intro name member
    have missing := List.any_eq_false.mp unstated name member
    simpa using missing
  have added : ∀ name ∈ Rule.thresholdNames, Value.find? (origin.complete fields) name =
      origin.defaultThreshold.bind fun threshold =>
        Value.find? [(.text "confidence_threshold", .int threshold)] name := by
    intro name member
    have unmarked : name ∉ Rule.builtinNames :=
      (by decide : ∀ name ∈ Rule.thresholdNames, name ∉ Rule.builtinNames) name member
    rw [find?_complete origin fields unmarked, absent name member, unstated, Option.none_or]
    rfl
  unfold Rule.thresholdNames at added ⊢
  simp only [Reading.lookup, added "confidenceThreshold" List.mem_cons_self,
    added "confidence_threshold" (List.mem_cons_of_mem _ List.mem_cons_self)]
  cases origin.defaultThreshold <;> rfl

/-- The rule of an entry, as it is when the entry's fields are completed. -/
def completed (origin : Origin) (threshold : Int) (entry : Value) (rule : Rule) : Rule :=
  { rule with
    isBuiltin := origin.isBuiltin
    threshold := if statesThreshold entry then rule.threshold else threshold }

/-- True when none of the names is one of the two fields that completion decides. -/
def isKept (names : List String) : Bool :=
  names.all fun name => !Rule.builtinNames.contains name && !Rule.thresholdNames.contains name

theorem field_complete_eq (origin : Origin) (fields : List (Value × Value)) {α : Type}
    {names : List String} (kept : isKept names = true) (absent : Option α)
    (read : Value → Reading α) :
    Reading.field (origin.complete fields) names absent read =
      Reading.field fields names absent read := by
  refine Reading.field_congr (Reading.lookup_congr fun name member => ?_) absent read
  have both := List.all_eq_true.mp kept name member
  simp only [Bool.and_eq_true, Bool.not_eq_true', List.contains_eq_mem,
    decide_eq_false_iff_not] at both
  exact find?_complete_other origin fields both.1 both.2

theorem field_complete (origin : Origin) {fields : List (Value × Value)} {α : Type}
    {names : List String} {absent : Option α} {read : Value → Reading α} {a : α}
    (kept : isKept names = true) (found : Reading.field fields names absent read = .ok a) :
    Reading.field (origin.complete fields) names absent read = .ok a :=
  (field_complete_eq origin fields kept absent read).trans found

/-- A rule that can be read from a record can be read from the completed one. -/
theorem readRule_of_ofEntries (default : origin.defaultThreshold = some threshold)
    (low : minConfidence ≤ threshold) (high : threshold ≤ maxConfidence) {rule : Rule}
    (read : Rule.ofEntries fields = .ok rule) :
    origin.readRule fields = .ok (origin.completed threshold (.map fields) rule) := by
  have reads := Rule.readsFrom_of_ofEntries read
  have mark : Reading.defaulted (origin.complete fields) Rule.builtinNames false Reading.boolean =
      .ok origin.isBuiltin := by
    simp only [Reading.defaulted, Reading.field, lookup_complete_mark]
    rfl
  have decided : Reading.defaulted (origin.complete fields) Rule.thresholdNames 40
      (Reading.integerWithin minConfidence maxConfidence) =
        .ok (origin.completed threshold (.map fields) rule).threshold := by
    unfold completed
    by_cases stated : statesThreshold (.map fields) = true
    · have same := lookup_complete_stated origin stated
      simp only [stated, ↓reduceIte]
      exact (Reading.field_congr same _ _).trans reads.threshold
    · have unstated : hasKey fields Rule.thresholdNames = false := Bool.not_eq_true _ ▸ stated
      simp only [stated, Bool.false_eq_true, ↓reduceIte]
      simp only [Reading.defaulted, Reading.field, lookup_complete_unstated origin unstated,
        default, Option.map_some, Reading.integerWithin_int low high]
      rfl
  have completeReads : (origin.completed threshold (.map fields) rule).ReadsFrom
      (origin.complete fields) :=
    { id := field_complete origin rfl reads.id
      title := field_complete origin rfl reads.title
      description := field_complete origin rfl reads.description
      severity := field_complete origin rfl reads.severity
      category := field_complete origin rfl reads.category
      version := field_complete origin rfl reads.version
      author := field_complete origin rfl reads.author
      enabled := field_complete origin rfl reads.enabled
      isBuiltin := mark
      isCommunity := field_complete origin rfl reads.isCommunity
      trigger := field_complete origin rfl reads.trigger
      conditions := field_complete origin rfl reads.conditions
      baseConfidence := field_complete origin rfl reads.baseConfidence
      factors := field_complete origin rfl reads.factors
      threshold := decided
      explanation := field_complete origin rfl reads.explanation
      remediation := field_complete origin rfl reads.remediation
      relatedDocs := field_complete origin rfl reads.relatedDocs
      tags := field_complete origin rfl reads.tags }
  exact completeReads.ofEntries

theorem readEntry_of_ofValue (default : origin.defaultThreshold = some threshold)
    (low : minConfidence ≤ threshold) (high : threshold ≤ maxConfidence) (position : Nat)
    {entry : Value} {rule : Rule} (read : Rule.ofValue entry = .ok rule) :
    origin.readEntry position entry = .ok (origin.completed threshold entry rule) := by
  unfold readEntry
  split
  · rename_i fields
    rw [readRule_of_ofEntries default low high read]
  · rename_i unmapped
    unfold Rule.ofValue Reading.record at read
    split at read
    · rename_i fields
      exact absurd rfl (unmapped fields)
    · cases read

end Origin

end RuleBook

end EnrollmentDiagnosis
