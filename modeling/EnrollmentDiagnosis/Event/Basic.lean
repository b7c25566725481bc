import EnrollmentDiagnosis.Event.Payload
import EnrollmentDiagnosis.Text.Alphanumeric
import EnrollmentDiagnosis.Text.Folding

set_option autoImplicit false

namespace EnrollmentDiagnosis

/-- Severity levels reported by a device. -/
inductive EventSeverity where
  | debug
  | info
  | warning
  | error
  | critical
  deriving DecidableEq, Inhabited

def EventSeverity.all : List EventSeverity := [.debug, .info, .warning, .error, .critical]

def EventSeverity.name : EventSeverity → String
  | debug => "debug"
  | info => "info"
  | warning => "warning"
  | error => "error"
  | critical => "critical"

/-- Stages of an enrollment. -/
inductive Phase where
  | start
  | devicePreparation
  | deviceSetup
  | appsDevice
  | accountSetup
  | appsUser
  | complete
  | failed
  | unknown
  deriving DecidableEq, Inhabited

def Phase.all : List Phase :=
  [.start, .devicePreparation, .deviceSetup, .appsDevice, .accountSetup, .appsUser, .complete,
   .failed, .unknown]

def Phase.name : Phase → String
  | start => "start"
  | devicePreparation => "device_preparation"
  | deviceSetup => "device_setup"
  | appsDevice => "apps_device"
  | accountSetup => "account_setup"
  | appsUser => "apps_user"
  | complete => "complete"
  | failed => "failed"
  | unknown => "unknown"

/-- The lowercase letters and digits of a label. -/
def compactLabel (label : String) : String :=
  String.ofList ((Text.lower label).toList.filter Text.isAlphanumeric)

/-- The phase whose name has the same letters as a label. -/
def Phase.ofLabel (label : String) : Phase :=
  (Phase.all.find? fun phase => compactLabel phase.name == compactLabel label).getD .unknown

/-- The severity that a label names in any case; others are information. -/
def EventSeverity.ofLabel (label : String) : EventSeverity :=
  (EventSeverity.all.find? fun s => s.name == Text.lower (Text.strip label)).getD .info

/-- One record that a device sent during a session. -/
structure Event where
  id : String
  session : String
  tenant : String
  type : String
  time : Time.Instant
  sequence : Int
  phase : Phase
  severity : EventSeverity
  source : String
  message : String
  payload : Payload
  deriving Inhabited

/-- What evidence keeps of an event. -/
structure EventReference where
  id : String
  sequence : Int
  time : Time.Instant
  type : String
  deriving DecidableEq

namespace Event

def reference (e : Event) : EventReference := ⟨e.id, e.sequence, e.time, e.type⟩

/-- True for events of a type, in any case. Nothing has the empty type. -/
def hasType (e : Event) (type : String) : Bool := type != "" && Text.sameFold e.type type

/-- The events of a type; an absent type has none. -/
def ofType (events : List Event) (type : Option String) : List Event :=
  match type with
  | none => []
  | some type => events.filter (·.hasType type)

/-- True unless the second event comes before the first by time and sequence. -/
def inOrder (a b : Event) : Bool :=
  a.time < b.time || (a.time == b.time && decide (a.sequence ≤ b.sequence))

/-- Events in canonical order: by time and sequence, equal ones as they came. -/
def sort (events : List Event) : List Event := events.mergeSort inOrder

end Event

end EnrollmentDiagnosis
