import EnrollmentDiagnosis.Proofs.CompletedRules
import EnrollmentDiagnosis.Proofs.RuleLoading
import Mathlib.Data.List.Forall2

set_option autoImplicit false

namespace EnrollmentDiagnosis.RuleBook

namespace Entry

/-- What there is to note about an entry. -/
def notice? : Entry → Option String
  | .ok _ => none
  | .error notice => notice

/-- True unless an entry gives neither a rule nor a notice. -/
def isSettled : Entry → Bool
  | .error none => false
  | _ => true

theorem isSettled_iff {entry : Entry} : entry.isSettled = true ↔ entry ≠ .error none := by
  rcases entry with (_ | notice) | rule <;> simp [isSettled]

end Entry

namespace Document

variable {entries : List Entry}

theorem ofEntries_of_settled (settled : ∀ entry ∈ entries, Entry.isSettled entry = true) :
    ofEntries entries =
      .ok ⟨entries.filterMap Except.toOption, entries.filterMap Entry.notice?⟩ := by
  induction entries with
  | nil => rfl
  | cons entry rest ih =>
    have later := ih fun other member => settled other (List.mem_cons_of_mem _ member)
    rcases entry with (_ | notice) | rule
    · cases settled _ List.mem_cons_self
    · rw [ofEntries, later]
      rfl
    · rw [ofEntries, later]
      rfl

theorem settled_of_ofEntries_cons {entry : Entry} {document : Document}
    (read : ofEntries (entry :: entries) = .ok document) :
    entry.isSettled = true ∧ ∃ others, ofEntries entries = .ok others := by
  rcases entry with (_ | notice) | rule
  · cases read
  · rw [ofEntries] at read
    cases later : ofEntries entries with
    | ok others => exact ⟨rfl, others, rfl⟩
    | error e =>
      rw [later] at read
      cases read
  · rw [ofEntries] at read
    cases later : ofEntries entries with
    | ok others => exact ⟨rfl, others, rfl⟩
    | error e =>
      rw [later] at read
      cases read

theorem settled_of_ofEntries {document : Document} (read : ofEntries entries = .ok document) :
    ∀ entry ∈ entries, Entry.isSettled entry = true := by
  induction entries generalizing document with
  | nil => exact fun entry member => by cases member
  | cons entry rest ih =>
    obtain ⟨settled, others, later⟩ := settled_of_ofEntries_cons read
    exact List.forall_mem_cons.mpr ⟨settled, ih later⟩

/-- Entries give a document if and only if each of them gives a rule or a notice. -/
theorem ofEntries_eq_ok_iff {document : Document} :
    ofEntries entries = .ok document ↔
      (∀ entry ∈ entries, Entry.isSettled entry = true) ∧
        document = ⟨entries.filterMap Except.toOption, entries.filterMap Entry.notice?⟩ := by
  constructor
  · intro read
    have settled := settled_of_ofEntries read
    exact ⟨settled, Except.ok.inj (read.symm.trans (ofEntries_of_settled settled))⟩
  · rintro ⟨settled, rfl⟩
    exact ofEntries_of_settled settled

/-- Each entry that gives a rule or a notice gives one of them. -/
theorem length_filterMap_of_settled (settled : ∀ entry ∈ entries, Entry.isSettled entry = true) :
    (entries.filterMap Except.toOption).length + (entries.filterMap Entry.notice?).length =
      entries.length := by
  induction entries with
  | nil => rfl
  | cons entry rest ih =>
    obtain ⟨first, others⟩ := List.forall_mem_cons.mp settled
    have later := ih others
    rcases entry with (_ | notice) | rule
    · cases first
    · simp only [List.filterMap_cons, Except.toOption, Entry.notice?, List.length_cons]
      omega
    · simp only [List.filterMap_cons, Except.toOption, Entry.notice?, List.length_cons]
      omega

end Document

namespace Origin

section Agreement

variable {first second : Origin} (builtin : first.isBuiltin = second.isBuiltin)
  (threshold : first.defaultThreshold = second.defaultThreshold)
include builtin threshold

theorem readRule_congr (fields : List (Value × Value)) :
    first.readRule fields = second.readRule fields := by
  simp only [readRule, complete, builtin, threshold]

/-- An entry gives the same rule, or none, at any position and wherever it is said to come from, and
it gives a notice in the same cases. -/
theorem readEntry_congr (position other : Nat) (v : Value) :
    (first.readEntry position v).toOption = (second.readEntry other v).toOption ∧
      Entry.isSettled (first.readEntry position v) =
        Entry.isSettled (second.readEntry other v) := by
  unfold readEntry
  split
  · rename_i fields
    rw [readRule_congr builtin threshold]
    split
    · exact ⟨rfl, rfl⟩
    · unfold failureNotice?
      cases ruleName? fields <;> exact ⟨rfl, rfl⟩
    · unfold failureNotice?
      cases ruleName? fields <;> exact ⟨rfl, rfl⟩
  · exact ⟨rfl, rfl⟩

/-- The rules of entries depend neither on the position of the first one nor on the name of the
place that they come from. -/
theorem readEntries_congr (position other : Nat) (entries : List Value) :
    (first.readEntries position entries).filterMap Except.toOption =
        (second.readEntries other entries).filterMap Except.toOption ∧
      ((∀ entry ∈ first.readEntries position entries, Entry.isSettled entry = true) ↔
        ∀ entry ∈ second.readEntries other entries, Entry.isSettled entry = true) := by
  induction entries generalizing position other with
  | nil => exact ⟨rfl, Iff.rfl⟩
  | cons v rest ih =>
    obtain ⟨sameRules, sameSettled⟩ := ih (position + 1) (other + 1)
    obtain ⟨sameRule, sameEnd⟩ := readEntry_congr builtin threshold position other v
    simp only [readEntries, List.filterMap_cons, List.forall_mem_cons, sameRules, sameSettled,
      sameRule, sameEnd, and_self]

/-- The rules of a document do not depend on the name of the place that it comes from. -/
theorem readDocument_congr {content : Value} {document : Document}
    (read : second.readDocument content = .ok document) :
    ∃ other, first.readDocument content = .ok other ∧ other.rules = document.rules := by
  unfold readDocument at read ⊢
  split at read
  · split at read
    · rename_i entries _
      obtain ⟨settled, rfl⟩ := Document.ofEntries_eq_ok_iff.mp read
      obtain ⟨sameRules, sameSettled⟩ := readEntries_congr builtin threshold 1 1 entries
      exact ⟨_, Document.ofEntries_of_settled (sameSettled.mpr settled), sameRules⟩
    · cases read
      exact ⟨_, rfl, rfl⟩
    · cases read
      exact ⟨_, rfl, rfl⟩
  · cases read
    exact ⟨_, rfl, rfl⟩

/-- One text gives the same rules wherever it is said to come from. -/
theorem parse_congr {text : String} {document : Document}
    (read : second.parse text = .ok document) :
    ∃ other, first.parse text = .ok other ∧ other.rules = document.rules := by
  unfold parse readLoaded at read ⊢
  split at read
  · cases read
  · exact readDocument_congr builtin threshold read

end Agreement

variable {origin : Origin}

/-- Every rule that is read has the mark of where it comes from. -/
theorem isBuiltin_of_readRule {fields : List (Value × Value)} {rule : Rule}
    (read : origin.readRule fields = .ok rule) : rule.isBuiltin = origin.isBuiltin := by
  have marked := (Rule.readsFrom_of_ofEntries read).isBuiltin
  rw [Reading.defaulted, Reading.field, lookup_complete_mark] at marked
  exact (Reading.ok.inj marked).symm

/-- An entry whose fields are no rule, and whose name no notice can tell. -/
def IsUnreportable (origin : Origin) (entry : Value) : Prop :=
  ∃ fields, entry = .map fields ∧ (∀ rule, origin.readRule fields ≠ .ok rule) ∧
    ruleName? fields = none

/-- Every other entry gives a rule or a notice. -/
theorem isSettled_readEntry_iff {position : Nat} {entry : Value} :
    Entry.isSettled (origin.readEntry position entry) = true ↔ ¬origin.IsUnreportable entry := by
  rw [Entry.isSettled_iff, not_iff_not]
  unfold readEntry IsUnreportable
  split
  · rename_i fields
    simp only [Value.map.injEq, exists_eq_left']
    cases read : origin.readRule fields with
    | ok rule => simp
    | invalid errors => simp [failureNotice?]
    | broken fault => simp [failureNotice?]
  · rename_i unmapped
    refine ⟨fun wrong => by simp at wrong, ?_⟩
    rintro ⟨fields, rfl, -⟩
    exact absurd rfl (unmapped fields)

theorem settled_readEntries_iff {position : Nat} {entries : List Value} :
    (∀ entry ∈ origin.readEntries position entries, Entry.isSettled entry = true) ↔
      ∀ entry ∈ entries, ¬origin.IsUnreportable entry := by
  induction entries generalizing position with
  | nil => simp [readEntries]
  | cons entry rest ih =>
    simp only [readEntries, List.forall_mem_cons, isSettled_readEntry_iff, ih]

theorem length_readEntries (position : Nat) (entries : List Value) :
    (origin.readEntries position entries).length = entries.length := by
  induction entries generalizing position with
  | nil => rfl
  | cons entry rest ih => simp only [readEntries, List.length_cons, ih]

theorem readDocument_of_listed {fields : List (Value × Value)} {entries : List Value}
    (listed : Value.find? fields "rules" = some (.list entries)) :
    origin.readDocument (.map fields) = Document.ofEntries (origin.readEntries 1 entries) := by
  simp only [readDocument, listed]

/-- A document with a list of entries is accepted if and only if each of them gives a rule or a
notice. -/
theorem readDocument_accepted_iff {fields : List (Value × Value)} {entries : List Value}
    (listed : Value.find? fields "rules" = some (.list entries)) :
    (∃ document, origin.readDocument (.map fields) = .ok document) ↔
      ∀ entry ∈ entries, ¬origin.IsUnreportable entry := by
  rw [readDocument_of_listed listed]
  simp only [Document.ofEntries_eq_ok_iff, settled_readEntries_iff, exists_and_left, exists_eq,
    and_true]

/-- A document with one entry. -/
def sole (entry : Value) : Value := .record [("rules", .list [entry])]

/-- What an entry comes to on its own, if it gives a rule or a notice. -/
def alone (origin : Origin) (entry : Value) : Document :=
  ⟨(origin.readEntry 1 entry).toOption.toList, (Entry.notice? (origin.readEntry 1 entry)).toList⟩

theorem readDocument_sole {entry : Value} (reportable : ¬origin.IsUnreportable entry) :
    origin.readDocument (sole entry) = .ok (origin.alone entry) := by
  have settled : ∀ given ∈ origin.readEntries 1 [entry], Entry.isSettled given = true :=
    settled_readEntries_iff.mpr (List.forall_mem_singleton.mpr reportable)
  rw [sole, Value.record, readDocument_of_listed rfl, Document.ofEntries_of_settled settled]
  simp only [readEntries, alone, List.filterMap_cons, List.filterMap_nil]
  cases origin.readEntry 1 entry with
  | ok rule => rfl
  | error notice => cases notice <;> rfl

theorem alone_length {entry : Value} (reportable : ¬origin.IsUnreportable entry) :
    (origin.alone entry).rules.length + (origin.alone entry).notices.length = 1 := by
  have settled : Entry.isSettled (origin.readEntry 1 entry) = true :=
    isSettled_readEntry_iff.mpr reportable
  unfold alone
  generalize origin.readEntry 1 entry = given at settled ⊢
  rcases given with (_ | notice) | rule
  · cases settled
  · rfl
  · rfl

/-- The rules of entries, from whichever position on, are those that each gives on its own. -/
theorem readEntries_rules (position : Nat) (entries : List Value) :
    (origin.readEntries position entries).filterMap Except.toOption =
      entries.flatMap fun entry => (origin.alone entry).rules := by
  induction entries generalizing position with
  | nil => rfl
  | cons entry rest ih =>
    have same := (readEntry_congr (rfl : origin.isBuiltin = origin.isBuiltin) rfl position 1
      entry).1
    rw [readEntries, List.filterMap_cons, same, ih, List.flatMap_cons, alone]
    cases (origin.readEntry 1 entry).toOption <;> rfl

theorem isBuiltin_of_alone {entry : Value} {rule : Rule}
    (member : rule ∈ (origin.alone entry).rules) : rule.isBuiltin = origin.isBuiltin := by
  have read : (origin.readEntry 1 entry).toOption = some rule := Option.mem_toList.mp member
  unfold readEntry at read
  split at read
  · split at read
    · rename_i given
      cases read
      exact isBuiltin_of_readRule given
    · cases read
    · cases read
  · cases read

/-- A document with a list of entries is accepted if and only if each of them gives a rule or a
notice. It then consists of what each entry gives on its own, one rule or one notice: its rules are
theirs, in their order, and all have the mark of where the document comes from. -/
theorem entries_read_independently (origin : Origin) (text : String)
    {fields : List (Value × Value)} {entries : List Value}
    (loaded : Yaml.load text = .ok (.map fields))
    (listed : Value.find? fields "rules" = some (.list entries)) :
    ((∃ document, origin.parse text = .ok document) ↔
        ∀ entry ∈ entries, ¬origin.IsUnreportable entry) ∧
      (∀ entry ∈ entries, (∃ part, origin.readDocument (sole entry) = .ok part) ↔
        ¬origin.IsUnreportable entry) ∧
      ∀ document, origin.parse text = .ok document →
        ∃ parts, List.Forall₂ (fun entry part => origin.readDocument (sole entry) = .ok part)
            entries parts ∧
          (∀ part ∈ parts, part.rules.length + part.notices.length = 1) ∧
          document.rules = parts.flatMap (·.rules) ∧
          (∀ rule ∈ document.rules, rule.isBuiltin = origin.isBuiltin) ∧
          document.rules.length + document.notices.length = entries.length := by
  have parsed : origin.parse text = origin.readDocument (.map fields) := by
    rw [parse, loaded, readLoaded]
  rw [parsed]
  refine ⟨readDocument_accepted_iff listed, fun entry _ => ?_, fun document read => ?_⟩
  · rw [sole, Value.record, List.map_singleton, readDocument_accepted_iff rfl]
    exact List.forall_mem_singleton
  · have reportable := (readDocument_accepted_iff listed).mp ⟨document, read⟩
    rw [readDocument_of_listed listed, Document.ofEntries_eq_ok_iff] at read
    obtain ⟨settled, rfl⟩ := read
    have rules := origin.readEntries_rules 1 entries
    refine ⟨entries.map origin.alone, ?_, ?_, ?_, ?_, ?_⟩
    · rw [List.forall₂_map_right_iff, List.forall₂_same]
      exact fun entry member => readDocument_sole (reportable entry member)
    · intro part member
      obtain ⟨entry, given, rfl⟩ := List.mem_map.mp member
      exact alone_length (reportable entry given)
    · rw [List.flatMap_map]
      exact rules
    · intro rule member
      rw [rules] at member
      obtain ⟨entry, -, given⟩ := List.mem_flatMap.mp member
      exact isBuiltin_of_alone given
    · rw [← origin.length_readEntries 1 entries]
      exact Document.length_filterMap_of_settled settled

/-- The entries in the list of rules of a loaded document. -/
def listedIn : Value → Option (List Value)
  | .map fields =>
    match Value.find? fields "rules" with
    | some (.list entries) => some entries
    | _ => none
  | _ => none

theorem exists_of_listedIn {content : Value} {entries : List Value}
    (listed : listedIn content = some entries) :
    ∃ fields, content = .map fields ∧ Value.find? fields "rules" = some (.list entries) := by
  unfold listedIn at listed
  split at listed
  · rename_i fields
    split at listed
    · rename_i given found
      cases listed
      exact ⟨fields, rfl, found⟩
    · cases listed
  · cases listed

/-- A document of a rule, a number, a rule without a title, and a rule that says that it is
built-in. -/
def mixedDocument : String :=
  "rules:\n- {rule_id: a, title: A}\n- 7\n- rule_id: b\n- {ruleId: c, title: C, isBuiltin: true}\n"

def mixedOrigin : Origin := ⟨"test", false, some 60⟩

theorem mixed_entries_read :
    ∃ fields entries, Yaml.load mixedDocument = .ok (.map fields) ∧
      Value.find? fields "rules" = some (.list entries) ∧ entries.length = 4 ∧
      ∃ document, mixedOrigin.parse mixedDocument = .ok document ∧
        (∀ entry ∈ entries, ¬mixedOrigin.IsUnreportable entry) ∧
        document.rules.map (·.id) = ["a", "c"] ∧
        (∀ rule ∈ document.rules, rule.isBuiltin = false) ∧
        document.rules.length + document.notices.length = 4 ∧
        ∃ parts, List.Forall₂ (fun entry part => mixedOrigin.readDocument (sole entry) = .ok part)
            entries parts ∧ document.rules = parts.flatMap (·.rules) := by
  have shape : (Yaml.load mixedDocument).toOption.map
      (fun content => (listedIn content).map List.length) = some (some 4) := by decide +kernel
  have outcome : (mixedOrigin.parse mixedDocument).toOption.map
      (fun document => document.rules.map (·.id)) = some ["a", "c"] := by decide +kernel
  obtain ⟨content, loaded, counted⟩ := Except.ok_of_toOption_map shape
  obtain ⟨entries, found, length⟩ := Option.map_eq_some_iff.mp counted
  obtain ⟨fields, rfl, listed⟩ := exists_of_listedIn found
  obtain ⟨document, parsed, ids⟩ := Except.ok_of_toOption_map outcome
  obtain ⟨accepted, -, made⟩ :=
    entries_read_independently mixedOrigin mixedDocument loaded listed
  obtain ⟨parts, each, -, rules, marked, total⟩ := made document parsed
  exact ⟨fields, entries, loaded, listed, length, document, parsed,
    accepted.mp ⟨document, parsed⟩, ids, marked, total.trans length, parts, each, rules⟩

/-- A mapping whose only field names a rule by a number that is too long is an unreportable
entry. -/
theorem isUnreportable_of_unwritable {n : Int} (nonzero : n ≠ 0)
    (unwritable : (Value.int n).isWritable = false) :
    origin.IsUnreportable (.record [("rule_id", .int n)]) := by
  refine ⟨[(.text "rule_id", .int n)], rfl, fun rule read => ?_, ?_⟩
  · have id := (Rule.readsFrom_of_ofEntries read).id
    rw [Reading.required, field_complete_eq origin _ rfl] at id
    cases id
  · simp [ruleName?, Value.find?, Value.isTruthy, nonzero, Value.display?, unwritable]

/-- The number that is one digit too long to be written. -/
def longNumber : Int := Int.pow 10 4300

/-- The name of a broken rule may be too long for a notice, and then the rules around it are lost as
well. -/
theorem unwritable_name_refuses_document :
    ¬∀ (origin : Origin) (fields : List (Value × Value)) (entries : List Value),
      Value.find? fields "rules" = some (.list entries) →
        ∃ document, origin.readDocument (.map fields) = .ok document := by
  intro always
  have unwritable : (Value.int longNumber).isWritable = false := by decide +kernel
  have nonzero : longNumber ≠ 0 := by decide +kernel
  let entries : List Value := [.record [("rule_id", .int longNumber)],
    .record [("rule_id", .text "a"), ("title", .text "A")]]
  have listed : Value.find? [(.text "rules", .list entries)] "rules" = some (.list entries) :=
    Value.find?_cons_here _ _ _
  have accepted := always mixedOrigin [(.text "rules", .list entries)] entries listed
  exact (readDocument_accepted_iff listed).mp accepted _ List.mem_cons_self
    (isUnreportable_of_unwritable nonzero unwritable)

end Origin

end EnrollmentDiagnosis.RuleBook
