import EnrollmentDiagnosis.Entries
import EnrollmentDiagnosis.Value.Text

set_option autoImplicit false

namespace EnrollmentDiagnosis

inductive LogLevel where
  | info
  | error
  deriving DecidableEq, Inhabited

def LogLevel.name : LogLevel → String
  | info => "INFO"
  | error => "ERROR"

/-- Fields of a record. -/
abbrev LogFields := Entries Value

structure LogRecord where
  level : LogLevel
  message : String
  fields : LogFields
  deriving Inhabited

/-- How a body ends. -/
inductive Ending (ε α : Type) where
  | returned (a : α)
  /-- With a failure of its own. -/
  | failed (e : ε)
  /-- Before it was done, by a cancellation or the end of the program. -/
  | interrupted (e : ε)
  deriving DecidableEq

namespace OperationLog

/-- The names that a record has of its own, which no field may have. -/
def reservedNames : List String := [
  "name", "msg", "args", "levelname", "levelno", "pathname", "filename", "module", "exc_info",
  "exc_text", "stack_info", "lineno", "funcName", "created", "msecs", "relativeCreated", "thread",
  "threadName", "processName", "process", "message", "asctime"]

/-- The first field with a reserved name. -/
def clash? (fields : LogFields) : Option String :=
  fields.names.find? fun name => reservedNames.contains name

def clashMessage (name : String) : String :=
  "\"Attempt to overwrite " ++ Text.quoted name ++ " in LogRecord\""

/-- What came of a run, and the records that it wrote. -/
structure Run (σ ε α : Type) where
  /-- How the body ended, or the reserved name for which a record was refused. -/
  result : Except String (Ending ε α)
  state : σ
  records : List LogRecord

/-- Runs a body between a record of its start and one of its ending, if there is one. A refused
record takes the place of what would come after it, be it the body or the way that it ended. -/
def between {σ ε α : Type} (start : LogRecord) (report? : Ending ε α → Option LogRecord)
    (body : σ → Ending ε α × σ) (state : σ) : Run σ ε α :=
  match clash? start.fields with
  | some reserved => ⟨.error reserved, state, []⟩
  | none =>
    let (ending, after) := body state
    match report? ending with
    | none => ⟨.ok ending, after, [start]⟩
    | some last =>
      match clash? last.fields with
      | some reserved => ⟨.error reserved, after, [start]⟩
      | none => ⟨.ok ending, after, [start, last]⟩

/-- The record of a body that is done. -/
def completion (elapsed name : String) (fields : LogFields) : LogRecord :=
  ⟨.info, "✅ " ++ name ++ " completed in " ++ elapsed ++ "ms", fields⟩

/-- The fields of an operation: its name, then its subjects, then its context. -/
def mergedContext (operation : String) (subjects context : LogFields) : LogFields :=
  (Entries.putAll [("operation", .text operation)] subjects).putAll context

/-- The record of an operation that failed. -/
def operationFailure (elapsed name : String) (fields : LogFields) : LogRecord :=
  ⟨.error, "❌ " ++ name ++ " failed after " ++ elapsed ++ "ms", fields⟩

/-- The record of how an operation ended. It tells how many milliseconds the operation took and,
where it failed, why: every exception is assumed to have a text, which `describe` gives. An
interruption, such as a cancellation, is passed on without a record. -/
def operationReport? {ε α : Type} (describe : ε → String) (elapsed : Value) (name : String)
    (fields : LogFields) : Ending ε α → Option LogRecord
  | .returned _ => some (completion elapsed.display name (fields.put "latency_ms" elapsed))
  | .failed e => some (operationFailure elapsed.display name
      ((fields.put "error" (.text (describe e))).put "latency_ms" elapsed))
  | .interrupted _ => none

/-- Runs an operation between two records with its fields. -/
def operation {σ ε α : Type} (describe : ε → String) (elapsed : Value) (name : String)
    (subjects context : LogFields) (body : σ → Ending ε α × σ) (state : σ) : Run σ ε α :=
  let fields := mergedContext name subjects context
  between ⟨.info, "🚀 Starting " ++ name, fields⟩ (operationReport? describe elapsed name fields)
    body state

/-- The record of a call that failed. -/
def callFailure (elapsed name reason : String) : LogRecord :=
  ⟨.error, "❌ " ++ name ++ " failed after " ++ elapsed ++ "ms: " ++ reason, []⟩

/-- The record of how a call ended, with the text that every exception is assumed to have. An
interruption is passed on without a record. -/
def callReport? {ε α : Type} (describe : ε → String) (elapsed : Value) (name : String) :
    Ending ε α → Option LogRecord
  | .returned _ => some (completion elapsed.display name [])
  | .failed e => some (callFailure elapsed.display name (describe e))
  | .interrupted _ => none

/-- Runs a function, awaited or not, between two records without fields. -/
def call {σ ε α : Type} (describe : ε → String) (elapsed : Value) (name : String)
    (body : σ → Ending ε α × σ) (state : σ) : Run σ ε α :=
  between ⟨.info, "🚀 Calling " ++ name, []⟩ (callReport? describe elapsed name) body state

/-- The name under which a call is logged: the given one, or the function's own. -/
def callName (given : Option String) (own : String) : String :=
  match given with
  | some "" => own
  | some name => name
  | none => own

end OperationLog

end EnrollmentDiagnosis
