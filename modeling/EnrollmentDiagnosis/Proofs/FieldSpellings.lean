import EnrollmentDiagnosis.Proofs.AgreeingReadings
import EnrollmentDiagnosis.Proofs.CompletedRules
import EnrollmentDiagnosis.Proofs.WrittenEvents

set_option autoImplicit false

namespace EnrollmentDiagnosis

/-- A field's name and its camel case spelling, which is the name itself if that is one word. -/
structure FieldSpelling where
  plain : String
  camel : String
  deriving DecidableEq

namespace FieldSpelling

/-- A key, in camel case if it is the field's name. -/
def key (field : FieldSpelling) : Value → Value
  | .text key => .text (if key = field.plain then field.camel else key)
  | v => v

/-- The entries with the field's name in camel case, unless that is a key already. -/
def respell (entries : List (Value × Value)) (field : FieldSpelling) : List (Value × Value) :=
  if (Value.find? entries field.camel).isSome then entries
  else entries.map fun (key, v) => (field.key key, v)

end FieldSpelling

/-- The second record is the first one with the names of some of the fields in camel case, where
that is no key already. -/
def Respelled (fields : List FieldSpelling) (before after : List (Value × Value)) : Prop :=
  ∃ chosen ⊆ fields, after = chosen.foldl FieldSpelling.respell before

/-- The second value is the first one, with names in camel case if it is a record. -/
inductive ItemRespelled (fields : List FieldSpelling) : Value → Value → Prop where
  | same (v : Value) : ItemRespelled fields v v
  | record {before after : List (Value × Value)} (respelled : Respelled fields before after) :
      ItemRespelled fields (.map before) (.map after)

/-- The second value is the first one, with names of its items in camel case if it is a list. -/
inductive ListRespelled (fields : List FieldSpelling) : Value → Value → Prop where
  | same (v : Value) : ListRespelled fields v v
  | items {vs ws : List Value} (items : List.Forall₂ (ItemRespelled fields) vs ws) :
      ListRespelled fields (.list vs) (.list ws)

namespace FieldSpelling

variable {field : FieldSpelling} {entries : List (Value × Value)}

theorem key_here (field : FieldSpelling) : field.key (.text field.plain) = .text field.camel := by
  simp only [key, ↓reduceIte]

theorem key_other {k : Value} (other : k ≠ .text field.plain) : field.key k = k := by
  unfold key
  split
  · rename_i name
    have apart : name ≠ field.plain := fun same => other (congrArg Value.text same)
    rw [if_neg apart]
  · rfl

/-- After a name is respelled, its value is found under the new spelling and not under the name;
nothing else is found in another place. -/
theorem find?_map_key (fresh : Value.find? entries field.camel = none) (name : String) :
    Value.find? (entries.map fun (key, v) => (field.key key, v)) name =
      if name = field.camel then Value.find? entries field.plain
      else if name = field.plain then none else Value.find? entries name := by
  induction entries with
  | nil => simp only [List.map_nil, Value.find?, ite_self]
  | cons entry rest ih =>
    obtain ⟨k, v⟩ := entry
    have notCamel : k ≠ .text field.camel := by
      intro taken
      rw [taken, Value.find?_cons_here] at fresh
      cases fresh
    rw [Value.find?_cons_other notCamel] at fresh
    rw [List.map_cons]
    dsimp only
    by_cases plain : k = .text field.plain
    · subst plain
      rw [key_here, Value.find?_cons_here]
      by_cases camel : name = field.camel
      · subst camel
        rw [if_pos rfl, Value.find?_cons_here]
      · have other : Value.text field.camel ≠ .text name :=
          fun same => camel (Value.text.inj same).symm
        rw [Value.find?_cons_other other, ih fresh, if_neg camel, if_neg camel]
        by_cases here : name = field.plain
        · rw [if_pos here, if_pos here]
        · have other : Value.text field.plain ≠ .text name :=
            fun same => here (Value.text.inj same).symm
          rw [if_neg here, if_neg here, Value.find?_cons_other other]
    · have passed : Value.find? ((k, v) :: rest) field.plain = Value.find? rest field.plain :=
        Value.find?_cons_other plain rest
      rw [key_other plain, passed]
      by_cases here : k = .text name
      · subst here
        have otherCamel : name ≠ field.camel := fun same => notCamel (congrArg Value.text same)
        have otherPlain : name ≠ field.plain := fun same => plain (congrArg Value.text same)
        rw [Value.find?_cons_here, Value.find?_cons_here, if_neg otherCamel, if_neg otherPlain]
      · rw [Value.find?_cons_other here, Value.find?_cons_other here, ih fresh]

theorem respell_of_one_word (one : field.camel = field.plain) :
    respell entries field = entries := by
  have kept (k : Value) : field.key k = k := by
    by_cases plain : k = .text field.plain
    · rw [plain, key_here, one]
    · exact key_other plain
  unfold respell
  split
  · rfl
  · simp only [kept, List.map_id']

/-- True for names that find the same value before and after the field's name is respelled: the
field's name is one word, or neither of its spellings is among the names, or these begin with both
spellings, camel case first. -/
def findsAlike (names : List String) (field : FieldSpelling) : Bool :=
  field.camel == field.plain || (!names.contains field.camel && !names.contains field.plain) ||
    (names.take 2 == [field.camel, field.plain] &&
      !(names.drop 2).contains field.camel && !(names.drop 2).contains field.plain)

theorem found?_respell {names : List String} (alike : findsAlike names field = true) :
    Reading.found? (respell entries field) names = Reading.found? entries names := by
  by_cases one : field.camel = field.plain
  · rw [respell_of_one_word one]
  unfold respell
  split
  · rfl
  rename_i unused
  have fresh : Value.find? entries field.camel = none := by simpa using unused
  have others {names : List String} (camel : field.camel ∉ names) (plain : field.plain ∉ names) :
      Reading.found? (entries.map fun (key, v) => (field.key key, v)) names =
        Reading.found? entries names := by
    refine Reading.found?_congr fun name member => ?_
    have otherCamel : name ≠ field.camel := fun same => camel (same ▸ member)
    have otherPlain : name ≠ field.plain := fun same => plain (same ▸ member)
    rw [find?_map_key fresh, if_neg otherCamel, if_neg otherPlain]
  simp only [findsAlike, Bool.or_eq_true, Bool.and_eq_true, Bool.not_eq_true', beq_iff_eq,
    List.contains_eq_mem, decide_eq_false_iff_not] at alike
  rcases alike with (same | ⟨camel, plain⟩) | ⟨⟨heads, camel⟩, plain⟩
  · exact absurd same one
  · exact others camel plain
  · rw [← List.take_append_drop 2 names, heads]
    simp only [List.cons_append, List.nil_append, Reading.found?_cons]
    rw [others camel plain, find?_map_key fresh, find?_map_key fresh, if_pos rfl,
      if_neg (Ne.symm one), if_pos rfl, fresh, Option.none_or, Option.none_or]

end FieldSpelling

/-- Names find the same value in a record after some of its fields are respelled, if they do so
after each of them is. -/
theorem Respelled.found? {fields : List FieldSpelling} {before after : List (Value × Value)}
    (respelled : Respelled fields before after) {names : List String}
    (alike : fields.all (FieldSpelling.findsAlike names) = true) :
    Reading.found? before names = Reading.found? after names := by
  obtain ⟨chosen, subset, rfl⟩ := respelled
  induction chosen generalizing before with
  | nil => rfl
  | cons field rest ih =>
    have first := List.all_eq_true.mp alike field (subset List.mem_cons_self)
    rw [List.foldl_cons, ← ih fun other member => subset (List.mem_cons_of_mem field member)]
    exact (FieldSpelling.found?_respell first).symm

section Records

variable {fields : List FieldSpelling} {α : Type}

/-- A field is read as before from a record with names in camel case. -/
theorem Respelled.field {before after : List (Value × Value)}
    (respelled : Respelled fields before after) {names : List String}
    (alike : fields.all (FieldSpelling.findsAlike names) = true) (absent : Option α)
    (read : Value → Reading α) :
    (Reading.field before names absent read).Agrees (Reading.field after names absent read) :=
  Reading.field_agrees_of_found (respelled.found? alike) absent read

/-- What is read from a record does not depend on the spelling of the names. -/
def IgnoresSpelling (fields : List FieldSpelling) (read : List (Value × Value) → Reading α) :
    Prop :=
  ∀ before after, Respelled fields before after → (read before).Agrees (read after)

theorem IgnoresSpelling.list {read : List (Value × Value) → Reading α}
    (ignores : IgnoresSpelling fields read) (model : String) {v w : Value}
    (respelled : ListRespelled fields v w) :
    (Reading.list (Reading.record model read) v).Agrees
      (Reading.list (Reading.record model read) w) := by
  cases respelled with
  | same v => exact .refl _
  | items items =>
    refine Reading.list_agrees (items.imp fun v w item => ?_)
    cases item with
    | same v => exact .refl _
    | record respelled => exact ignores _ _ respelled

end Records

namespace Condition

def fields : List FieldSpelling := [
  ⟨"signal", "signal"⟩, ⟨"source", "source"⟩, ⟨"event_type", "eventType"⟩,
  ⟨"data_field", "dataField"⟩, ⟨"operator", "operator"⟩, ⟨"value", "value"⟩,
  ⟨"required", "required"⟩, ⟨"correlate_event_type", "correlateEventType"⟩,
  ⟨"join_field", "joinField"⟩, ⟨"time_window_seconds", "timeWindowSeconds"⟩,
  ⟨"event_a_filter_field", "eventAFilterField"⟩,
  ⟨"event_a_filter_operator", "eventAFilterOperator"⟩,
  ⟨"event_a_filter_value", "eventAFilterValue"⟩]

theorem ofEntries_ignoresSpelling : IgnoresSpelling fields ofEntries := by
  intro before after respelled
  unfold ofEntries
  refine .seq (.seq (.seq (.seq (.seq (.seq (.seq (.seq (.seq (.seq (.seq (.seq (.map _ ?_)
    ?_) ?_) ?_) ?_) ?_) ?_) ?_) ?_) ?_) ?_) ?_) ?_
  all_goals exact respelled.field (by decide) _ _

end Condition

namespace ConfidenceFactor

def fields : List FieldSpelling :=
  [⟨"signal", "signal"⟩, ⟨"condition", "condition"⟩, ⟨"weight", "weight"⟩]

theorem ofEntries_ignoresSpelling : IgnoresSpelling fields ofEntries := by
  intro before after respelled
  unfold ofEntries
  refine .andThen (.seq (.seq (.map _ ?_) ?_) ?_) make
  all_goals exact respelled.field (by decide) _ _

end ConfidenceFactor

namespace Remediation

def fields : List FieldSpelling := [⟨"title", "title"⟩, ⟨"steps", "steps"⟩]

theorem ofEntries_ignoresSpelling : IgnoresSpelling fields ofEntries := by
  intro before after respelled
  unfold ofEntries
  refine .seq (.map _ ?_) ?_
  all_goals exact respelled.field (by decide) _ _

end Remediation

namespace RelatedDoc

def fields : List FieldSpelling := [⟨"title", "title"⟩, ⟨"url", "url"⟩]

theorem ofEntries_ignoresSpelling : IgnoresSpelling fields ofEntries := by
  intro before after respelled
  unfold ofEntries
  refine .seq (.map _ ?_) ?_
  all_goals exact respelled.field (by decide) _ _

end RelatedDoc

namespace Event

def fields : List FieldSpelling := [
  ⟨"event_id", "eventId"⟩, ⟨"session_id", "sessionId"⟩, ⟨"tenant_id", "tenantId"⟩,
  ⟨"event_type", "eventType"⟩, ⟨"timestamp", "timestamp"⟩, ⟨"sequence", "sequence"⟩,
  ⟨"phase", "phase"⟩, ⟨"severity", "severity"⟩, ⟨"source", "source"⟩, ⟨"message", "message"⟩,
  ⟨"data", "data"⟩]

theorem ofEntries_ignoresSpelling (freshId : String) :
    IgnoresSpelling fields (ofEntries freshId) := by
  intro before after respelled
  unfold ofEntries
  refine .seq (.seq (.seq (.seq (.seq (.seq (.seq (.seq (.seq (.seq (.map _ ?_)
    ?_) ?_) ?_) ?_) ?_) ?_) ?_) ?_) ?_) ?_
  all_goals exact respelled.field (by decide) _ _

/-- An event that is read with one identity at hand is read with another one, but for its own. -/
theorem ofEntries_otherId {freshId : String} {entries : List (Value × Value)} {e : Event}
    (read : ofEntries freshId entries = .ok e) (other : String) :
    ∃ id, ofEntries other entries = .ok { e with id } := by
  have reads := readsFrom_of_ofEntries read
  have identified : ∃ id, Reading.defaulted entries ["eventId", "event_id"] other Reading.text =
      .ok id := by
    have found := reads.id
    unfold Reading.defaulted Reading.field at found ⊢
    split
    · rename_i stated
      rw [stated] at found
      exact ⟨e.id, found⟩
    · exact ⟨other, rfl⟩
  obtain ⟨id, identified⟩ := identified
  exact ⟨id, ReadsFrom.ofEntries { reads with id := identified }⟩

end Event

namespace Rule

def fields : List FieldSpelling := [
  ⟨"rule_id", "ruleId"⟩, ⟨"title", "title"⟩, ⟨"description", "description"⟩,
  ⟨"severity", "severity"⟩, ⟨"category", "category"⟩, ⟨"version", "version"⟩,
  ⟨"author", "author"⟩, ⟨"enabled", "enabled"⟩, ⟨"is_builtin", "isBuiltin"⟩,
  ⟨"is_community", "isCommunity"⟩, ⟨"trigger", "trigger"⟩, ⟨"conditions", "conditions"⟩,
  ⟨"base_confidence", "baseConfidence"⟩, ⟨"confidence_factors", "confidenceFactors"⟩,
  ⟨"confidence_threshold", "confidenceThreshold"⟩, ⟨"explanation", "explanation"⟩,
  ⟨"remediation_steps", "remediationSteps"⟩, ⟨"related_docs", "relatedDocs"⟩, ⟨"tags", "tags"⟩]

/-- The fields of the records that a rule lists under a key. -/
def listedFields? : String → Option (List FieldSpelling)
  | "conditions" => some Condition.fields
  | "confidence_factors" => some ConfidenceFactor.fields
  | "confidenceFactors" => some ConfidenceFactor.fields
  | "remediation_steps" => some Remediation.fields
  | "remediationSteps" => some Remediation.fields
  | "remediation" => some Remediation.fields
  | "related_docs" => some RelatedDoc.fields
  | "relatedDocs" => some RelatedDoc.fields
  | _ => none

/-- The second value is the first one, with names in camel case in the records that a rule lists
under the key. -/
def ValueRespelled (key : String) (v w : Value) : Prop :=
  v = w ∨ ∃ fields, listedFields? key = some fields ∧ ListRespelled fields v w

/-- The second entry has the key of the first one and its value, with names in camel case in the
records that are listed there. -/
def EntryRespelled (first second : Value × Value) : Prop :=
  first.1 = second.1 ∧
    (first.2 = second.2 ∨ ∃ key, first.1 = .text key ∧ ValueRespelled key first.2 second.2)

/-- The second rule is the first one with names in camel case, in its listed records and in itself,
where that is no key already. -/
def Respelled (before after : List (Value × Value)) : Prop :=
  ∃ middle, List.Forall₂ EntryRespelled before middle ∧
    EnrollmentDiagnosis.Respelled fields middle after

theorem find?_entriesRespelled {before middle : List (Value × Value)}
    (respelled : List.Forall₂ EntryRespelled before middle) (key : String) :
    Option.Rel (ValueRespelled key) (Value.find? before key) (Value.find? middle key) := by
  induction respelled with
  | nil => exact .none
  | @cons first second _ _ entry _ ih =>
    obtain ⟨name, v⟩ := first
    obtain ⟨other, w⟩ := second
    obtain ⟨same, values⟩ := entry
    have same : name = other := same
    subst same
    by_cases here : name = .text key
    · subst here
      rw [Value.find?_cons_here, Value.find?_cons_here]
      rcases values with same | ⟨_, keys, value⟩
      · exact .some (.inl same)
      · cases keys
        exact .some value
    · rw [Value.find?_cons_other here, Value.find?_cons_other here]
      exact ih

section Found

variable {before after : List (Value × Value)} {names : List String}

/-- What is found under names is related when it is under each of them. -/
theorem Respelled.found? (respelled : Respelled before after)
    (alike : fields.all (FieldSpelling.findsAlike names) = true) (related : Value → Value → Prop)
    (values : ∀ key ∈ names, ∀ v w, ValueRespelled key v w → related v w) :
    Option.Rel related (Reading.found? before names) (Reading.found? after names) := by
  obtain ⟨middle, entries, keys⟩ := respelled
  rw [← keys.found? alike]
  refine Reading.found?_rel fun key member => ?_
  have found := find?_entriesRespelled entries key
  generalize Value.find? before key = v at found ⊢
  generalize Value.find? middle key = w at found ⊢
  cases found with
  | none => exact .none
  | some value => exact .some (values key member _ _ value)

/-- Where no records are listed, the same value is found. -/
theorem Respelled.found?_unlisted (respelled : Respelled before after)
    (alike : fields.all (FieldSpelling.findsAlike names) = true)
    (unlisted : ∀ key ∈ names, listedFields? key = none) :
    Reading.found? before names = Reading.found? after names := by
  have same : Option.Rel Eq (Reading.found? before names) (Reading.found? after names) := by
    refine respelled.found? alike Eq fun key member v w value => ?_
    rcases value with same | ⟨fields, listed, -⟩
    · exact same
    · rw [unlisted key member] at listed
      cases listed
  generalize Reading.found? before names = v at same ⊢
  generalize Reading.found? after names = w at same ⊢
  cases same with
  | none => rfl
  | some same => rw [same]

/-- Where records of a model are listed, values with the same records are found. -/
theorem Respelled.found?_listed (respelled : Respelled before after)
    (alike : fields.all (FieldSpelling.findsAlike names) = true) {α : Type}
    {itemFields : List FieldSpelling} {read : List (Value × Value) → Reading α}
    (ignores : IgnoresSpelling itemFields read)
    (listed : ∀ key ∈ names, listedFields? key = some itemFields) (model : String) :
    Option.Rel (fun v w => (Reading.list (Reading.record model read) v).Agrees
        (Reading.list (Reading.record model read) w))
      (Reading.found? before names) (Reading.found? after names) := by
  refine respelled.found? alike _ fun key member v w value => ?_
  rcases value with same | ⟨others, others_eq, items⟩
  · rw [same]
    exact .refl _
  · rw [listed key member] at others_eq
    cases others_eq
    exact ignores.list model items

end Found

end Rule

namespace RuleBook

theorem hasKey_eq_isSome (entries : List (Value × Value)) (names : List String) :
    hasKey entries names = (Reading.found? entries names).isSome := by
  induction names with
  | nil => rfl
  | cons name rest ih =>
    rw [Reading.found?_cons, Option.isSome_or, ← ih]
    rfl

namespace Origin

variable (origin : Origin) (entries : List (Value × Value))

/-- A field that completion leaves alone is found as it was. -/
theorem found?_complete_other {names : List String} (kept : isKept names = true) :
    Reading.found? (origin.complete entries) names = Reading.found? entries names := by
  refine Reading.found?_congr fun name member => ?_
  have both := List.all_eq_true.mp kept name member
  simp only [Bool.and_eq_true, Bool.not_eq_true', List.contains_eq_mem,
    decide_eq_false_iff_not] at both
  exact find?_complete_other origin entries both.1 both.2

theorem found?_complete_mark :
    Reading.found? (origin.complete entries) Rule.builtinNames = some (.bool origin.isBuiltin) := by
  rw [Reading.found?, lookup_complete_mark]
  rfl

/-- The threshold is found where it is stated, and is the origin's where it is not. -/
theorem found?_complete_threshold :
    Reading.found? (origin.complete entries) Rule.thresholdNames =
      (Reading.found? entries Rule.thresholdNames).or (origin.defaultThreshold.map Value.int) := by
  have stated_iff := hasKey_eq_isSome entries Rule.thresholdNames
  cases stated : Reading.found? entries Rule.thresholdNames with
  | some v =>
    rw [stated] at stated_iff
    rw [Reading.found?, lookup_complete_stated origin stated_iff, ← Reading.found?, stated]
    rfl
  | none =>
    rw [stated] at stated_iff
    rw [Reading.found?, lookup_complete_unstated origin stated_iff, Option.map_map]
    rfl

/-- True for names of a field that completion leaves alone and that find alike after respelling, if
the records of these fields, or none, are listed under each of the names. -/
def readsAlike (listed : Option (List FieldSpelling)) (names : List String) : Bool :=
  isKept names && Rule.fields.all (FieldSpelling.findsAlike names) &&
    names.all fun name => Rule.listedFields? name == listed

section Respelling

variable {origin} {before after : List (Value × Value)} {names : List String}

theorem readsAlike_iff {listed : Option (List FieldSpelling)} :
    readsAlike listed names = true ↔ (isKept names = true ∧
      Rule.fields.all (FieldSpelling.findsAlike names) = true) ∧
        ∀ name ∈ names, Rule.listedFields? name = listed := by
  rw [readsAlike, Bool.and_eq_true, Bool.and_eq_true, List.all_eq_true (l := names)]
  simp only [beq_iff_eq]

theorem field_respelled {α : Type} {absent : Option α} {read : Value → Reading α}
    (respelled : Rule.Respelled before after) (alike : readsAlike none names = true) :
    (Reading.field (origin.complete before) names absent read).Agrees
      (Reading.field (origin.complete after) names absent read) := by
  obtain ⟨⟨kept, alike⟩, unlisted⟩ := readsAlike_iff.mp alike
  apply Reading.field_agrees_of_found
  rw [found?_complete_other origin before kept, found?_complete_other origin after kept]
  exact respelled.found?_unlisted alike unlisted

theorem list_respelled {α : Type} {absent : Option (List α)} {fields : List FieldSpelling}
    {read : List (Value × Value) → Reading α} (respelled : Rule.Respelled before after)
    (ignores : IgnoresSpelling fields read) (model : String)
    (alike : readsAlike (some fields) names = true) :
    (Reading.field (origin.complete before) names absent
        (Reading.list (Reading.record model read))).Agrees
      (Reading.field (origin.complete after) names absent
        (Reading.list (Reading.record model read))) := by
  obtain ⟨⟨kept, alike⟩, listed⟩ := readsAlike_iff.mp alike
  refine Reading.field_agrees ?_ absent
  rw [found?_complete_other origin before kept, found?_complete_other origin after kept]
  exact respelled.found?_listed alike ignores listed model

/-- A rule is read from an origin as the same rule after names are respelled, whatever the origin
completes the record with. -/
theorem readRule_respelled (respelled : Rule.Respelled before after) :
    (origin.readRule before).Agrees (origin.readRule after) := by
  have mark : Reading.found? (origin.complete before) Rule.builtinNames =
      Reading.found? (origin.complete after) Rule.builtinNames := by
    rw [found?_complete_mark, found?_complete_mark]
  have threshold : Reading.found? (origin.complete before) Rule.thresholdNames =
      Reading.found? (origin.complete after) Rule.thresholdNames := by
    rw [found?_complete_threshold, found?_complete_threshold,
      respelled.found?_unlisted (by decide) (by decide)]
  unfold readRule Rule.ofEntries
  refine .seq (.seq (.seq (.seq (.seq (.seq (.seq (.seq (.seq (.seq (.seq (.seq (.seq (.seq (.seq
    (.seq (.seq (.seq (.map _ ?_) ?_) ?_) ?_) ?_) ?_) ?_) ?_)
    (Reading.field_agrees_of_found mark _ _)) ?_) ?_)
    (list_respelled respelled Condition.ofEntries_ignoresSpelling _ (by decide))) ?_)
    (list_respelled respelled ConfidenceFactor.ofEntries_ignoresSpelling _ (by decide)))
    (Reading.field_agrees_of_found threshold _ _)) ?_)
    (list_respelled respelled Remediation.ofEntries_ignoresSpelling _ (by decide)))
    (list_respelled respelled RelatedDoc.ofEntries_ignoresSpelling _ (by decide))) ?_
  all_goals exact field_respelled respelled (by decide)

/-- The mark of a rule that is read is the origin's, and so is its threshold, if there is one, where
none is stated in either spelling; a threshold that is stated is read as it is. -/
theorem completed_of_readRule {fields : List (Value × Value)} {rule : Rule}
    (read : origin.readRule fields = .ok rule) :
    rule.isBuiltin = origin.isBuiltin ∧
      (hasKey fields Rule.thresholdNames = false →
        rule.threshold = origin.defaultThreshold.getD 40) ∧
      (hasKey fields Rule.thresholdNames = true →
        Reading.defaulted fields Rule.thresholdNames 40
          (Reading.integerWithin minConfidence maxConfidence) = .ok rule.threshold) := by
  have reads := Rule.readsFrom_of_ofEntries read
  refine ⟨?_, ?_, ?_⟩
  · have mark := reads.isBuiltin
    simp only [Reading.defaulted, Reading.field, lookup_complete_mark] at mark
    exact (Reading.ok.inj mark).symm
  · intro unstated
    have threshold := reads.threshold
    simp only [Reading.defaulted, Reading.field,
      lookup_complete_unstated origin unstated] at threshold
    cases default : origin.defaultThreshold with
    | none =>
      rw [default] at threshold
      exact (Reading.ok.inj threshold).symm
    | some number =>
      rw [default] at threshold
      have read := Reading.integerWithin_eq_ok_iff.mp (Reading.within_eq_ok_iff.mp threshold)
      exact (Reading.ok.inj read.1).symm
  · intro stated
    have threshold := reads.threshold
    unfold Reading.defaulted at threshold ⊢
    rwa [Reading.field_congr (lookup_complete_stated origin stated)] at threshold

end Respelling

end Origin

end RuleBook

theorem Event.read_of_agrees {first second : List (Value × Value)}
    (agrees : ∀ freshId, (ofEntries freshId first).Agrees (ofEntries freshId second))
    {freshId : String} (other : String) {e : Event}
    (read : ∃ id, ofEntries freshId first = .ok { e with id }) :
    ∃ id, ofEntries other second = .ok { e with id } := by
  obtain ⟨id, read⟩ := read
  have same := ((agrees freshId).ok_iff _).mp read
  exact ofEntries_otherId same other

/-- The spelling of names does not matter. A rule is read from any origin as the same rule after
names are respelled in camel case, in the rule and in the records that it lists, or it fails with
the same complaints; and so is an event, with the same identity if the same one is at hand for
events without one, and otherwise as the same event but for that identity. In either spelling the
mark of a rule is the origin's, and so is the threshold exactly where none is stated. -/
theorem either_spelling_reads_alike :
    (∀ (origin : RuleBook.Origin) before after, Rule.Respelled before after →
      (origin.readRule before).Agrees (origin.readRule after) ∧
        ∀ rule, origin.readRule before = .ok rule ↔ origin.readRule after = .ok rule) ∧
      (∀ before after, Respelled Event.fields before after →
        (∀ freshId, (Event.ofValue freshId (.map before)).Agrees
          (Event.ofValue freshId (.map after))) ∧
        ∀ freshId other (e : Event),
          (∃ id, Event.ofValue freshId (.map before) = .ok { e with id }) ↔
            ∃ id, Event.ofValue other (.map after) = .ok { e with id }) ∧
      ∀ (origin : RuleBook.Origin) entries rule, origin.readRule entries = .ok rule →
        rule.isBuiltin = origin.isBuiltin ∧
          (RuleBook.hasKey entries Rule.thresholdNames = false →
            rule.threshold = origin.defaultThreshold.getD 40) ∧
          (RuleBook.hasKey entries Rule.thresholdNames = true →
            Reading.defaulted entries Rule.thresholdNames 40
              (Reading.integerWithin minConfidence maxConfidence) = .ok rule.threshold) := by
  refine ⟨?_, ?_, ?_⟩
  · intro origin before after respelled
    have agrees : (origin.readRule before).Agrees (origin.readRule after) :=
      RuleBook.Origin.readRule_respelled respelled
    exact ⟨agrees, agrees.ok_iff⟩
  · intro before after respelled
    have agrees (freshId : String) := Event.ofEntries_ignoresSpelling freshId _ _ respelled
    refine ⟨agrees, fun freshId other e => ⟨?_, ?_⟩⟩
    · exact Event.read_of_agrees agrees other
    · exact Event.read_of_agrees (fun freshId => (agrees freshId).symm) freshId
  · intro origin entries rule read
    exact RuleBook.Origin.completed_of_readRule read

/-- A condition on stalls, with the given name for its event type. -/
def stallCondition (typeName : String) : Value := .map [
  (.text "signal", .text "stalled"),
  (.text "source", .text "event_type"),
  (.text typeName, .text "phase_stall")]

/-- A rule on stalls with plain names. -/
def plainStall : List (Value × Value) := [
  (.text "rule_id", .text "stall"),
  (.text "title", .text "Stall"),
  (.text "is_builtin", .bool true),
  (.text "conditions", .list [stallCondition "event_type"])]

/-- The rule on stalls in camel case. -/
def camelStall : List (Value × Value) := [
  (.text "ruleId", .text "stall"),
  (.text "title", .text "Stall"),
  (.text "isBuiltin", .bool true),
  (.text "conditions", .list [stallCondition "eventType"])]

theorem camelStall_respelled : Rule.Respelled plainStall camelStall := by
  have condition : ItemRespelled Condition.fields (stallCondition "event_type")
      (stallCondition "eventType") :=
    .record ⟨[⟨"event_type", "eventType"⟩], by decide, rfl⟩
  have conditions : Rule.EntryRespelled
      (.text "conditions", .list [stallCondition "event_type"])
      (.text "conditions", .list [stallCondition "eventType"]) :=
    ⟨rfl, .inr ⟨"conditions", rfl, .inr ⟨Condition.fields, rfl, .items (.cons condition .nil)⟩⟩⟩
  have same (entry : Value × Value) : Rule.EntryRespelled entry entry := ⟨rfl, .inl rfl⟩
  refine ⟨_, .cons (same _) (.cons (same _) (.cons (same _) (.cons conditions .nil))), ?_⟩
  exact ⟨[⟨"rule_id", "ruleId"⟩, ⟨"is_builtin", "isBuiltin"⟩], by decide, rfl⟩

/-- An event without an identity, with the given name for its type. -/
def stallTelemetry (typeName : String) : List (Value × Value) :=
  [(.text typeName, .text "phase_stall"), (.text "timestamp", .int 1700000000)]

/-- A rule and an event in camel case are read alike; the rule is no built-in one, whatever it says,
and has the threshold of where it comes from. -/
theorem camelStall_reads_alike :
    (∃ rule, RuleBook.Origin.readRule ⟨"upload", false, some 55⟩ plainStall = .ok rule ∧
      RuleBook.Origin.readRule ⟨"upload", false, some 55⟩ camelStall = .ok rule ∧
        rule.isBuiltin = false ∧ rule.threshold = 55) ∧
      ∃ e id, Event.ofValue "a" (.map (stallTelemetry "event_type")) = .ok e ∧
        Event.ofValue "b" (.map (stallTelemetry "eventType")) = .ok { e with id } := by
  obtain ⟨rules, events, marks⟩ := either_spelling_reads_alike
  have respelled : Respelled Event.fields (stallTelemetry "event_type")
      (stallTelemetry "eventType") :=
    ⟨[⟨"event_type", "eventType"⟩], by decide, rfl⟩
  constructor
  · have read : ∃ rule, RuleBook.Origin.readRule ⟨"upload", false, some 55⟩ plainStall =
        .ok rule := ⟨_, rfl⟩
    obtain ⟨rule, read⟩ := read
    have completed := marks _ plainStall rule read
    exact ⟨rule, read, ((rules _ _ _ camelStall_respelled).2 rule).mp read, completed.1,
      completed.2.1 rfl⟩
  · have read : ∃ e, Event.ofValue "a" (.map (stallTelemetry "event_type")) = .ok e := ⟨_, rfl⟩
    obtain ⟨e, read⟩ := read
    obtain ⟨id, other⟩ := ((events _ _ respelled).2 "a" "b" e).mp ⟨e.id, read⟩
    exact ⟨e, id, read, other⟩

end EnrollmentDiagnosis
