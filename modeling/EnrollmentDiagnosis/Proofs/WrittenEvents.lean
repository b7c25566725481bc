import EnrollmentDiagnosis.Event.Record
import EnrollmentDiagnosis.Proofs.RecordFields
import EnrollmentDiagnosis.Proofs.TimeTexts

set_option autoImplicit false

namespace EnrollmentDiagnosis

namespace Datum

mutual

/-- A datum is left as it is when its value is normalized. -/
theorem ofValue_toValue : ∀ d : Datum, ofValue d.toValue = d
  | null | bool _ | int _ | float _ | text _ => by rw [toValue, ofValue]
  | group entries => by rw [toValue, ofValue, ofEntries_toEntries entries]

theorem ofEntries_toEntries : ∀ p : Payload, ofEntries (toEntries p) = p
  | [] => by rw [toEntries, ofEntries]
  | (name, d) :: rest => by
    rw [toEntries, ofEntries, ofValue_toValue d, ofEntries_toEntries rest]
    rfl

end

mutual

/-- What is normalized needs no text for it. -/
theorem isNormalizable_toValue : ∀ d : Datum, isNormalizable d.toValue = true
  | null | bool _ | int _ | float _ | text _ => by
    simp only [toValue, isNormalizable, Value.isWritable]
  | group entries => by rw [toValue, isNormalizable, areNormalizable_toEntries entries]

theorem areNormalizable_toEntries : ∀ p : Payload, areNormalizable (toEntries p) = true
  | [] => by rw [toEntries, areNormalizable]
  | (name, d) :: rest => by
    rw [toEntries, areNormalizable, isNormalizable_toValue d, areNormalizable_toEntries rest]
    simp only [Value.isWritable, Bool.and_self]

end

end Datum

/-- A payload is left as it is when its mapping is normalized. -/
theorem Payload.ofValue_toValue (p : Payload) : Payload.ofValue p.toValue = .ok p := by
  rw [toValue, ofValue, if_pos (Datum.areNormalizable_toEntries p), Datum.ofEntries_toEntries]

theorem Phase.ofLabel_name (phase : Phase) : Phase.ofLabel phase.name = phase := by
  cases phase <;> decide +kernel

theorem EventSeverity.ofLabel_name (severity : EventSeverity) :
    EventSeverity.ofLabel severity.name = severity := by
  cases severity <;> decide +kernel

namespace Event

variable {freshId : String} {e : Event}

theorem label_phase_name (phase : Phase) :
    label Phase.ofLabel .unknown (.text phase.name) = .ok phase :=
  congrArg Reading.ok (Phase.ofLabel_name phase)

theorem label_severity_name (severity : EventSeverity) :
    label EventSeverity.ofLabel .info (.text severity.name) = .ok severity :=
  congrArg Reading.ok (EventSeverity.ofLabel_name severity)

/-- An instant of the calendar is read from its text. -/
theorem instant_isoText {t : Time.Instant} (within : t.inCalendar = true) :
    instant (.text t.isoText) = .ok t := by
  simp only [instant, Reading.timestamp, Time.ofText?_isoText within, Reading.timestamp.ofTime,
    Reading.andThen, Time.instant?_timestamp within]

/-- Only instants of the calendar are read. -/
theorem inCalendar_of_instant {v : Value} {t : Time.Instant} (read : instant v = .ok t) :
    t.inCalendar = true := by
  unfold instant Reading.andThen at read
  split at read
  · dsimp only at read
    split at read
    · rename_i found
      cases read
      exact Time.inCalendar_of_instant? found
    · cases read
  · cases read
  · cases read

/-- Every field of an event is what the field of a record is read as. -/
structure ReadsFrom (freshId : String) (e : Event) (entries : List (Value × Value)) : Prop where
  id : Reading.defaulted entries ["eventId", "event_id"] freshId Reading.text = .ok e.id
  session : Reading.defaulted entries ["sessionId", "session_id"] "" Reading.text = .ok e.session
  tenant : Reading.defaulted entries ["tenantId", "tenant_id"] "" Reading.text = .ok e.tenant
  type : Reading.required entries ["eventType", "event_type"] Reading.text = .ok e.type
  time : Reading.required entries ["timestamp"] instant = .ok e.time
  sequence : Reading.defaulted entries ["sequence"] 0 Reading.integer = .ok e.sequence
  phase : Reading.defaulted entries ["phase"] .unknown (label Phase.ofLabel .unknown) = .ok e.phase
  severity : Reading.defaulted entries ["severity"] .info (label EventSeverity.ofLabel .info) =
    .ok e.severity
  source : Reading.defaulted entries ["source"] "" Reading.text = .ok e.source
  message : Reading.defaulted entries ["message"] "" Reading.text = .ok e.message
  payload : Reading.defaulted entries ["data"] [] Payload.ofValue = .ok e.payload

theorem readsFrom_of_ofEntries {entries : List (Value × Value)}
    (read : ofEntries freshId entries = .ok e) : ReadsFrom freshId e entries := by
  unfold ofEntries at read
  -- The reading is taken apart from its last field to its first.
  obtain ⟨_, _, toMessage, payload, rfl⟩ := Reading.parts_of_seq read
  obtain ⟨_, _, toSource, message, rfl⟩ := Reading.parts_of_seq toMessage
  obtain ⟨_, _, toSeverity, source, rfl⟩ := Reading.parts_of_seq toSource
  obtain ⟨_, _, toPhase, severity, rfl⟩ := Reading.parts_of_seq toSeverity
  obtain ⟨_, _, toSequence, phase, rfl⟩ := Reading.parts_of_seq toPhase
  obtain ⟨_, _, toTime, sequence, rfl⟩ := Reading.parts_of_seq toSequence
  obtain ⟨_, _, toType, time, rfl⟩ := Reading.parts_of_seq toTime
  obtain ⟨_, _, toTenant, type, rfl⟩ := Reading.parts_of_seq toType
  obtain ⟨_, _, toSession, tenant, rfl⟩ := Reading.parts_of_seq toTenant
  obtain ⟨_, _, toId, session, rfl⟩ := Reading.parts_of_seq toSession
  obtain ⟨_, id, rfl⟩ := Reading.part_of_map toId
  exact ⟨id, session, tenant, type, time, sequence, phase, severity, source, message, payload⟩

theorem ReadsFrom.ofEntries {entries : List (Value × Value)}
    (reads : ReadsFrom freshId e entries) : Event.ofEntries freshId entries = .ok e := by
  simp only [Event.ofEntries, reads.id, reads.session, reads.tenant, reads.type, reads.time,
    reads.sequence, reads.phase, reads.severity, reads.source, reads.message, reads.payload]
  rfl

theorem time_inCalendar {v : Value} (read : ofValue freshId v = .ok e) :
    e.time.inCalendar = true := by
  cases v with
  | map entries =>
    obtain ⟨v, instant⟩ := Reading.value_of_required (readsFrom_of_ofEntries read).time
    exact inCalendar_of_instant instant
  | _ => cases read

/-- An event with an instant of the calendar is read from its record, and its identity is not
replaced. -/
theorem ofValue_toValue (within : e.time.inCalendar = true) (freshId : String) :
    ofValue freshId e.toValue = .ok e := by
  have text (s : String) : Reading.text (.text s) = .ok s := rfl
  have integer (n : Int) : Reading.integer (.int n) = .ok n := rfl
  refine ReadsFrom.ofEntries
    { id := Reading.field_of_find? (text e.id) rfl _ _
      session := Reading.field_of_find? (text e.session) rfl _ _
      tenant := Reading.field_of_find? (text e.tenant) rfl _ _
      type := Reading.field_of_find? (text e.type) rfl _ _
      time := Reading.field_of_find? (instant_isoText within) rfl _ _
      sequence := Reading.field_of_find? (integer e.sequence) rfl _ _
      phase := Reading.field_of_find? (label_phase_name e.phase) rfl _ _
      severity := Reading.field_of_find? (label_severity_name e.severity) rfl _ _
      source := Reading.field_of_find? (text e.source) rfl _ _
      message := Reading.field_of_find? (text e.message) rfl _ _
      payload := Reading.field_of_find? (Payload.ofValue_toValue e.payload) rfl _ _ }

/-- Every event that can be read from a value is read again from its own record, whichever identity
is at hand for events without one; these are the events with an instant of the calendar. What the
record consists of is read back by itself: a payload that was normalized, at every depth, the names
of phases and severities, and the texts of times. -/
theorem record_round_trip :
    (∀ freshId other v e, ofValue freshId v = .ok e → ofValue other e.toValue = .ok e) ∧
      (∀ other e, ofValue other e.toValue = .ok e ↔ e.time.inCalendar = true) ∧
      (∀ v p, Payload.ofValue v = .ok p → Payload.ofValue p.toValue = .ok p) ∧
      (∀ phase, label Phase.ofLabel .unknown (.text phase.name) = .ok phase) ∧
      (∀ severity, label EventSeverity.ofLabel .info (.text severity.name) = .ok severity) ∧
      ∀ v t, instant v = .ok t → instant (.text t.isoText) = .ok t := by
  refine ⟨?_, ?_, ?_, label_phase_name, label_severity_name, ?_⟩
  · intro freshId other v e read
    exact ofValue_toValue (time_inCalendar read) other
  · intro other e
    exact ⟨time_inCalendar, fun within => ofValue_toValue within other⟩
  · intro v p _
    exact Payload.ofValue_toValue p
  · intro v t read
    exact instant_isoText (inCalendar_of_instant read)

/-- Data with a list inside a group. -/
def nestedData : Value :=
  .record [("app", .record [("codes", .list [.int 1, .text "a"])]), ("retry", .null)]

/-- A record with names in both spellings, loosely written labels and a time with an offset. -/
def looseRecord : Value := .record [
  ("event_id", .text "e1"),
  ("eventType", .text "phase_change"),
  ("timestamp", .text "2024-05-01t01:30:00.25+02:00"),
  ("sequence", .text " 7 "),
  ("phase", .text "Apps (Device)"),
  ("severity", .text " Warning"),
  ("data", nestedData)]

/-- The event of the record. -/
def looseEvent : Event where
  id := "e1"
  session := ""
  tenant := ""
  type := "phase_change"
  time := ⟨63850116600250000⟩
  sequence := 7
  phase := .appsDevice
  severity := .warning
  source := ""
  message := ""
  payload := [("app", .group [("codes", .text "[1, 'a']")]), ("retry", .null)]

theorem payload_of_nestedData : Payload.ofValue nestedData = .ok looseEvent.payload := by
  have codes : Value.display (.list [.int 1, .text "a"]) = "[1, 'a']" := by decide +kernel
  rw [looseEvent, ← codes]
  rfl

theorem instant_of_looseRecord :
    instant (.text "2024-05-01t01:30:00.25+02:00") = .ok looseEvent.time := by
  have clock : Time.Timestamp.ofText? "2024-05-01t01:30:00.25+02:00" =
      some ⟨63850123800250000, some 7200⟩ := by decide +kernel
  simp only [instant, Reading.timestamp, clock, Reading.timestamp.ofTime, Reading.andThen]
  rfl

theorem ofValue_looseRecord : ofValue "" looseRecord = .ok looseEvent := by
  have sequence : Reading.integer (.text " 7 ") = .ok looseEvent.sequence := rfl
  have phase : label Phase.ofLabel .unknown (.text "Apps (Device)") = .ok looseEvent.phase :=
    congrArg Reading.ok (by decide +kernel : Phase.ofLabel "Apps (Device)" = .appsDevice)
  have severity : label EventSeverity.ofLabel .info (.text " Warning") = .ok looseEvent.severity :=
    congrArg Reading.ok (by decide +kernel : EventSeverity.ofLabel " Warning" = .warning)
  exact ReadsFrom.ofEntries
    { id := rfl
      session := rfl
      tenant := rfl
      type := rfl
      time := Reading.field_of_find? instant_of_looseRecord rfl _ _
      sequence := Reading.field_of_find? sequence rfl _ _
      phase := Reading.field_of_find? phase rfl _ _
      severity := Reading.field_of_find? severity rfl _ _
      source := rfl
      message := rfl
      payload := Reading.field_of_find? payload_of_nestedData rfl _ _ }

/-- The event of a loosely written record is read again, and so are its payload and its time. -/
theorem looseEvent_round_trip :
    ofValue "" looseRecord = .ok looseEvent ∧ ofValue "new" looseEvent.toValue = .ok looseEvent ∧
      Payload.ofValue looseEvent.payload.toValue = .ok looseEvent.payload ∧
      instant (.text looseEvent.time.isoText) = .ok looseEvent.time := by
  obtain ⟨events, -, payloads, -, -, times⟩ := record_round_trip
  exact ⟨ofValue_looseRecord, events "" "new" _ _ ofValue_looseRecord,
    payloads _ _ payload_of_nestedData, times _ _ instant_of_looseRecord⟩

end Event

end EnrollmentDiagnosis
