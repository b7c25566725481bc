import EnrollmentDiagnosis.Event.Basic

set_option autoImplicit false

namespace EnrollmentDiagnosis.Event

/-- The severity or phase that a value names; null names the fallback. -/
def label {α : Type} (ofLabel : String → α) (fallback : α) : Value → Reading α
  | .null => .ok fallback
  | v => (Reading.display v).map ofLabel

/-- The instant that a value stands for. -/
def instant (v : Value) : Reading Time.Instant :=
  (Reading.timestamp v).andThen fun t =>
    match t.instant? with
    | some instant => .ok instant
    | none => .broken .timeOutOfRange

/-- The word for this kind of record in complaints. -/
def model : String := "Event"

/-- Reads an event from the entries of a record. An event without an identity gets the fresh one. -/
def ofEntries (freshId : String) (entries : List (Value × Value)) : Reading Event :=
  Event.mk
    <$> Reading.defaulted entries ["eventId", "event_id"] freshId Reading.text
    <*> Reading.defaulted entries ["sessionId", "session_id"] "" Reading.text
    <*> Reading.defaulted entries ["tenantId", "tenant_id"] "" Reading.text
    <*> Reading.required entries ["eventType", "event_type"] Reading.text
    <*> Reading.required entries ["timestamp"] instant
    <*> Reading.defaulted entries ["sequence"] 0 Reading.integer
    <*> Reading.defaulted entries ["phase"] .unknown (label Phase.ofLabel .unknown)
    <*> Reading.defaulted entries ["severity"] .info (label EventSeverity.ofLabel .info)
    <*> Reading.defaulted entries ["source"] "" Reading.text
    <*> Reading.defaulted entries ["message"] "" Reading.text
    <*> Reading.defaulted entries ["data"] [] Payload.ofValue

/-- Reads an event from a value. -/
def ofValue (freshId : String) (v : Value) : Reading Event :=
  Reading.record model (ofEntries freshId) v

/-- Reads events in turn, up to the first that cannot be read. The identities for events without
one are drawn from a numbered supply, from `serial` on. -/
def listOfValues (freshId : Nat → String) : Nat → List Value → Reading (List Event)
  | _, [] => .ok []
  | serial, v :: rest =>
    (ofValue (freshId serial) v).andThen fun e =>
      (listOfValues freshId (serial + 1) rest).map (e :: ·)

/-- The record of an event. -/
def toValue (e : Event) : Value := .record [
  ("eventId", .text e.id),
  ("sessionId", .text e.session),
  ("tenantId", .text e.tenant),
  ("eventType", .text e.type),
  ("timestamp", .text e.time.isoText),
  ("sequence", .int e.sequence),
  ("phase", .text e.phase.name),
  ("severity", .text e.severity.name),
  ("source", .text e.source),
  ("message", .text e.message),
  ("data", e.payload.toValue)]

end EnrollmentDiagnosis.Event

namespace EnrollmentDiagnosis

/-- The entries of an event's reference. -/
def EventReference.entries (r : EventReference) : List (String × Value) := [
  ("eventId", .text r.id),
  ("sequence", .int r.sequence),
  ("timestamp", .text r.time.isoText),
  ("eventType", .text r.type)]

end EnrollmentDiagnosis
