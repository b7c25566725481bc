import EnrollmentDiagnosis.Rule.Condition

set_option autoImplicit false

namespace EnrollmentDiagnosis.Source

/-- What a condition of a source checks. -/
def description : Source → String
  | eventType =>
    "Matches when an event of the given type occurred (optionally with a matching payload field)"
  | eventData => "Matches when a payload field of an event of the given type satisfies the operator"
  | eventCount => "Matches when an event type occurred at least N times (operator count_gte)"
  | phaseDuration =>
    "Matches when the target phase was entered, measuring its duration until the next phase change"
  | appInstallDuration =>
    "Pairs app install completions with their latest preceding start and compares the duration"
  | eventCorrelation =>
    "Joins two event types on a shared payload field, optionally within a time window"
  | unknown => ""

/-- The fields of a condition of a source, with its signal first. -/
def exampleFields (source : Source) (signal : String) (fields : List (String × String)) :
    List (String × Value) :=
  ("signal", .text signal) :: ("source", .text source.name) ::
    fields.map fun (name, v) => (name, .text v)

/-- Conditions that show how a source is used. -/
def examples : Source → List (List (String × Value))
  | eventType => [
      exampleFields eventType "app_failed" [("event_type", "app_install_failed")],
      exampleFields eventType "http_407_error" [("event_type", "error_detected"),
        ("data_field", "errorCode"), ("operator", "contains"), ("value", "407")]]
  | eventData => [
      exampleFields eventData "disk_ok" [("event_type", "performance_snapshot"),
        ("data_field", "disk_free_gb"), ("operator", "gt"), ("value", "10")]]
  | eventCount => [
      exampleFields eventCount "repeated_reboots" [("event_type", "reboot_detected"),
        ("operator", "count_gte"), ("value", "3")]]
  | phaseDuration => [
      exampleFields phaseDuration "device_setup" [("data_field", "espPhase"),
        ("value", "DeviceSetup")]]
  | appInstallDuration => [
      exampleFields appInstallDuration "slow_install" [("operator", "gt"), ("value", "1800")],
      exampleFields appInstallDuration "slow_failed_install" [("event_type", "app_install_failed"),
        ("operator", "gte"), ("value", "600")]]
  | eventCorrelation => [
      exampleFields eventCorrelation "low_disk_at_failure" [("event_type", "app_install_failed"),
        ("correlate_event_type", "performance_snapshot"), ("join_field", "appId"),
        ("data_field", "disk_free_gb"), ("operator", "lt"), ("value", "5")] ++
        [("time_window_seconds", .int 300)]]
  | unknown => []

/-- The description of a source as a record. -/
def toValue (source : Source) : Value := .record [
  ("name", .text source.name),
  ("description", .text source.description),
  ("examples", .list (source.examples.map Value.record))]

end EnrollmentDiagnosis.Source
