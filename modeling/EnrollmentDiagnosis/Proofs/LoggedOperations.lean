import EnrollmentDiagnosis.OperationLog
import EnrollmentDiagnosis.Proofs.NamedEntries

set_option autoImplicit false

namespace EnrollmentDiagnosis

/-- True for a record of a level and a message, with some fields of its own over those below. -/
structure LogRecord.Carries (r : LogRecord) (level : LogLevel) (message : String)
    (own below : LogFields) : Prop where
  level : r.level = level
  message : r.message = message
  fields : ∀ key, r.fields.lookup key = (own.lookup key).or (below.lookup key)

namespace OperationLog

variable {σ ε α : Type} {fields : LogFields}

/-- True for fields of which one has a reserved name. -/
def Clashes (fields : LogFields) : Prop := ∃ key ∈ fields.names, key ∈ reservedNames

theorem clashes_of_clash? {reserved : String} (found : clash? fields = some reserved) :
    Clashes fields ∧ reserved ∈ reservedNames := by
  have taken : reserved ∈ reservedNames := List.contains_iff_mem.mp (List.find?_some found)
  exact ⟨⟨reserved, List.mem_of_find?_eq_some found, taken⟩, taken⟩

theorem clash?_of_not_clashes (free : ¬Clashes fields) : clash? fields = none := by
  cases found : clash? fields with
  | none => rfl
  | some reserved => exact absurd (clashes_of_clash? found).1 free

theorem clash?_of_clashes (clashes : Clashes fields) :
    ∃ reserved, clash? fields = some reserved := by
  obtain ⟨key, member, taken⟩ := clashes
  have found : (clash? fields).isSome = true :=
    List.find?_isSome.mpr ⟨key, member, List.contains_iff_mem.mpr taken⟩
  exact Option.isSome_iff_exists.mp found

theorem not_clashes_put {name : String} (free : ¬Clashes fields)
    (unreserved : name ∉ reservedNames) (v : Value) : ¬Clashes (fields.put name v) := by
  rintro ⟨key, member, taken⟩
  rcases Entries.mem_names_put.mp member with rfl | before
  · exact unreserved taken
  · exact free ⟨key, before, taken⟩

section Between

variable {start : LogRecord} {report? : Ending ε α → Option LogRecord}
  {body : σ → Ending ε α × σ} {state : σ}

theorem between_of_clash {reserved : String} (clash : clash? start.fields = some reserved) :
    between start report? body state = ⟨.error reserved, state, []⟩ := by
  simp only [between, clash]

/-- A body whose records are not refused ends as it does on its own. -/
theorem between_of_free (free : clash? start.fields = none)
    (freeLast : ∀ last, report? (body state).1 = some last → clash? last.fields = none) :
    between start report? body state =
      ⟨.ok (body state).1, (body state).2, start :: (report? (body state).1).toList⟩ := by
  cases reported : report? (body state).1 with
  | none => simp only [between, free, reported, Option.toList_none]
  | some last => simp only [between, free, reported, freeLast last reported, Option.toList_some]

end Between

section Operations

variable (describe : ε → String) (elapsed : Value) (name : String)

theorem fields_of_callReport? {ending : Ending ε α} {last : LogRecord}
    (reported : callReport? describe elapsed name ending = some last) : last.fields = [] := by
  cases ending with
  | returned a =>
    cases reported
    rfl
  | failed e =>
    cases reported
    rfl
  | interrupted e => cases reported

/-- A call has no fields, so none of its records is refused. -/
theorem call_eq (body : σ → Ending ε α × σ) (state : σ) :
    call describe elapsed name body state =
      ⟨.ok (body state).1, (body state).2,
        ⟨.info, "🚀 Calling " ++ name, []⟩ ::
          (callReport? describe elapsed name (body state).1).toList⟩ := by
  refine between_of_free rfl ?_
  intro last reported
  rw [fields_of_callReport? describe elapsed name reported]
  rfl

/-- What an operation tells of its ending has no reserved name. -/
theorem not_clashes_operationReport? (free : ¬Clashes fields) {ending : Ending ε α}
    {last : LogRecord}
    (reported : operationReport? describe elapsed name fields ending = some last) :
    ¬Clashes last.fields := by
  have latency : "latency_ms" ∉ reservedNames := by decide
  have error : "error" ∉ reservedNames := by decide
  cases ending with
  | returned a =>
    cases reported
    exact not_clashes_put free latency elapsed
  | failed e =>
    cases reported
    exact not_clashes_put (not_clashes_put free error _) latency elapsed
  | interrupted e => cases reported

theorem operation_of_clashes (subjects context : LogFields) (body : σ → Ending ε α × σ)
    (state : σ) (clashes : Clashes (mergedContext name subjects context)) :
    ∃ reserved ∈ reservedNames,
      operation describe elapsed name subjects context body state =
        ⟨.error reserved, state, []⟩ := by
  obtain ⟨reserved, found⟩ := clash?_of_clashes clashes
  exact ⟨reserved, (clashes_of_clash? found).2, between_of_clash found⟩

theorem operation_of_free (subjects context : LogFields) (body : σ → Ending ε α × σ)
    (state : σ) (free : ¬Clashes (mergedContext name subjects context)) :
    operation describe elapsed name subjects context body state =
      ⟨.ok (body state).1, (body state).2,
        ⟨.info, "🚀 Starting " ++ name, mergedContext name subjects context⟩ ::
          (operationReport? describe elapsed name (mergedContext name subjects context)
            (body state).1).toList⟩ := by
  refine between_of_free (clash?_of_not_clashes free) ?_
  intro last reported
  exact clash?_of_not_clashes (not_clashes_operationReport? describe elapsed name free reported)

/-- The context overrides the subjects, and these the name of the operation. -/
theorem lookup_mergedContext (subjects context : LogFields) (key : String) :
    (mergedContext name subjects context).lookup key =
      ((context.reverse.lookup key).or (subjects.reverse.lookup key)).or
        (if key = "operation" then some (Value.text name) else none) := by
  have alone : List.lookup key [("operation", Value.text name)] =
      if key = "operation" then some (Value.text name) else none :=
    Entries.lookup_cons_eq ("operation", Value.text name) [] key
  rw [mergedContext, Entries.lookup_putAll, Entries.lookup_putAll, alone, Option.or_assoc]

/-- The records that an operation leaves for each way to end. -/
inductive Documents (fields : LogFields) : Ending ε α → List LogRecord → Prop
  | returned {a : α} {start last : LogRecord}
      (begun : start.Carries .info ("🚀 Starting " ++ name) [] fields)
      (completed : last.Carries .info
        ("✅ " ++ name ++ " completed in " ++ elapsed.display ++ "ms")
        [("latency_ms", elapsed)] fields) :
      Documents fields (.returned a) [start, last]
  | failed {e : ε} {start last : LogRecord}
      (begun : start.Carries .info ("🚀 Starting " ++ name) [] fields)
      (ended : last.Carries .error
        ("❌ " ++ name ++ " failed after " ++ elapsed.display ++ "ms")
        [("error", .text (describe e)), ("latency_ms", elapsed)] fields) :
      Documents fields (.failed e) [start, last]
  | interrupted {e : ε} {start : LogRecord}
      (begun : start.Carries .info ("🚀 Starting " ++ name) [] fields) :
      Documents fields (.interrupted e) [start]

theorem documents_operationReport? (fields : LogFields) (ending : Ending ε α) :
    Documents describe elapsed name fields ending
      (⟨.info, "🚀 Starting " ++ name, fields⟩ ::
        (operationReport? describe elapsed name fields ending).toList) := by
  have begun : LogRecord.Carries ⟨.info, "🚀 Starting " ++ name, fields⟩ .info
      ("🚀 Starting " ++ name) [] fields := ⟨rfl, rfl, fun _ => rfl⟩
  cases ending with
  | returned a =>
    refine .returned begun ⟨rfl, rfl, fun key => ?_⟩
    rw [completion, Entries.lookup_put, Entries.lookup_cons_eq]
    split <;> rfl
  | failed e =>
    refine .failed begun ⟨rfl, rfl, fun key => ?_⟩
    rw [operationFailure, Entries.lookup_put, Entries.lookup_put, Entries.lookup_cons_eq,
      Entries.lookup_cons_eq]
    by_cases error : key = "error"
    · simp [error]
    · by_cases latency : key = "latency_ms"
      · simp [latency]
      · simp [error, latency]
  | interrupted e => exact .interrupted begun

/-- Logging changes nothing about a body. A call ends as the function does, awaited or not, and so
does an operation unless a field of the merged context has a reserved name; then the body is not run
and nothing is written. An operation that returns or fails leaves two records, of its start and of
its completion or failure. Exactly two records are so left by bodies that return or raise an
ordinary exception, which is assumed to have a text; one that is interrupted, by a cancellation or
an exit, leaves the first record alone. In the merged context the context overrides the subjects,
and these the name of the operation; what the last record tells of the ending overrides all of them.
-/
theorem logging_changes_no_body (body : σ → Ending ε α × σ) (state : σ) :
    ((call describe elapsed name body state).result = .ok (body state).1 ∧
      (call describe elapsed name body state).state = (body state).2) ∧
    ∀ subjects context : LogFields,
      (∀ key, (mergedContext name subjects context).lookup key =
        ((context.reverse.lookup key).or (subjects.reverse.lookup key)).or
          (if key = "operation" then some (Value.text name) else none)) ∧
      ((∃ reserved ∈ reservedNames,
          operation describe elapsed name subjects context body state =
            ⟨.error reserved, state, []⟩) ↔
        Clashes (mergedContext name subjects context)) ∧
      (¬Clashes (mergedContext name subjects context) →
        ∃ records,
          operation describe elapsed name subjects context body state =
            ⟨.ok (body state).1, (body state).2, records⟩ ∧
          Documents describe elapsed name (mergedContext name subjects context) (body state).1
            records) := by
  constructor
  · rw [call_eq]
    exact ⟨rfl, rfl⟩
  · intro subjects context
    refine ⟨lookup_mergedContext _ subjects context, ⟨?_, ?_⟩, ?_⟩
    · rintro ⟨reserved, -, refused⟩
      by_cases clashes : Clashes (mergedContext name subjects context)
      · exact clashes
      · rw [operation_of_free describe elapsed name subjects context body state clashes] at refused
        cases congrArg Run.result refused
    · exact operation_of_clashes describe elapsed name subjects context body state
    · intro free
      exact ⟨_, operation_of_free describe elapsed name subjects context body state free,
        documents_operationReport? describe elapsed name _ _⟩

end Operations

/-- A body that counts its runs and fails. -/
def failingBody (runs : Nat) : Ending String Unit × Nat := (.failed "boom", runs + 1)

/-- The name of an operation may be shadowed by a subject, and a subject by the context; a subject
called `name` keeps the body from running. -/
theorem shadowed_name_logged :
    (∃ records,
      operation id (.int 7) "sync" [("operation", .text "shadow"), ("tenant", .text "t1")]
          [("tenant", .text "t2")] failingBody 0 = ⟨.ok (.failed "boom"), 1, records⟩ ∧
        Documents id (.int 7) "sync"
          [("operation", .text "shadow"), ("tenant", .text "t2")] (failingBody 0).1 records) ∧
    ∃ reserved ∈ reservedNames,
      operation id (.int 7) "sync" [("name", .text "n")] [] failingBody 0 =
        ⟨.error reserved, 0, []⟩ := by
  obtain ⟨-, logged⟩ := logging_changes_no_body id (.int 7) "sync" failingBody 0
  obtain ⟨-, -, run⟩ :=
    logged [("operation", .text "shadow"), ("tenant", .text "t1")] [("tenant", .text "t2")]
  obtain ⟨-, refused, -⟩ := logged [("name", .text "n")] []
  refine ⟨run ?_, refused.mpr ?_⟩
  · rintro ⟨key, member, taken⟩
    have unreserved : ∀ key ∈ ["operation", "tenant"], key ∉ reservedNames := by decide
    exact unreserved key member taken
  · exact ⟨"name", .tail _ (.head _), by decide⟩

end OperationLog

end EnrollmentDiagnosis
