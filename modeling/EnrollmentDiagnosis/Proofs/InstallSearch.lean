import EnrollmentDiagnosis.Proofs.GroundedEvidence
import EnrollmentDiagnosis.Proofs.LatestStarts

set_option autoImplicit false

namespace EnrollmentDiagnosis

/-- The first image that passes a test, without a list of all images. -/
theorem find?_filterMap_eq_findSome? {α β : Type} (f : α → Option β) (test : β → Bool)
    (l : List α) : (l.filterMap f).find? test = l.findSome? fun a => (f a).filter test := by
  rw [← List.head?_filter, List.filter_filterMap, List.head?_filterMap]

namespace Condition

/-- All starts of an app's installations up to a time, as they stand in a list. -/
def startsUpTo (ordered : List Event) (appKey : String) (time : Time.Instant) : List Event :=
  ordered.filter fun e =>
    e.hasTypeIn installStartTypes && e.isAbout appKey && decide (e.time ≤ time)

/-- The installation from a start to a completion, with the time between them as it is. -/
def plainSpan (start completion : Event) (appKey : String) : InstallSpan :=
  { installSpan start completion appKey with duration := completion.time.since start.time }

/-- The installation that a completion ends: it began with the last start of the completion's
app. -/
def completedInstall? (ordered : List Event) (completion : Event) : Option InstallSpan := do
  let appKey ← completion.appKey?
  let start ← (startsUpTo ordered appKey completion.time).getLast?
  some (plainSpan start completion appKey)

/-- The installations of all completions in a list, one after the other. -/
def completedInstalls (c : Condition) (ordered : List Event) : List InstallSpan :=
  (ordered.filter (·.hasTypeIn c.completionTypes)).filterMap (completedInstall? ordered)

/-- True if the duration of an installation satisfies the operator. -/
def acceptsSpan (matcher : Matcher) (c : Condition) (span : InstallSpan) : Bool :=
  Operator.accepts matcher c.operator (some (Time.seconds span.duration).text) c.value

variable {matcher : Matcher} {c : Condition} {events : List Event} {start completion : Event}
  {appKey : String}

theorem startsUpTo_sort (events : List Event) (appKey : String) (time : Time.Instant) :
    startsUpTo (Event.sort events) appKey time =
      (installStarts events).filter (Event.isAboutBy appKey time) := by
  rw [startsUpTo, installStarts, List.filter_filter]
  refine List.filter_congr fun e _ => ?_
  rw [Event.isAboutBy, Bool.and_comm _ (e.hasTypeIn installStartTypes), Bool.and_assoc]

theorem mem_startsUpTo {e : Event} {time : Time.Instant} :
    e ∈ startsUpTo (Event.sort events) appKey time ↔
      e ∈ events ∧ e.hasTypeIn installStartTypes = true ∧ e.isAbout appKey = true ∧
        e.time ≤ time := by
  rw [startsUpTo_sort, List.mem_filter, mem_installStarts, Event.isAboutBy_iff, and_assoc]

/-- Among starts in order, the search for one that stops behind the completion finds the last of
them all. -/
theorem latestStart?_installStarts (events : List Event) (time : Time.Instant) (appKey : String) :
    Event.latestStart? (installStarts events) time appKey =
      (startsUpTo (Event.sort events) appKey time).getLast? := by
  rw [Event.latestStart?_eq (installStarts_ordered events), startsUpTo_sort]

/-- No start is behind its completion, so no duration has to be raised to zero. -/
theorem since_nonneg_of_startsUpTo
    (latest : (startsUpTo (Event.sort events) appKey completion.time).getLast? = some start) :
    0 ≤ completion.time.since start.time := by
  obtain ⟨-, -, -, early⟩ := mem_startsUpTo.mp (List.mem_of_getLast? latest)
  exact Int.sub_nonneg_of_le early

theorem installSpan_eq_plainSpan (nonneg : 0 ≤ completion.time.since start.time) :
    installSpan start completion appKey = plainSpan start completion appKey := by
  have duration : installDuration start completion = completion.time.since start.time :=
    Int.max_eq_right nonneg
  rw [plainSpan, ← duration]
  rfl

/-- For one completion the search finds the plain installation, if that is accepted. -/
theorem installOf?_eq_filter (matcher : Matcher) (c : Condition) (events : List Event)
    (completion : Event) :
    c.installOf? matcher (installStarts events) completion =
      (completedInstall? (Event.sort events) completion).filter (c.acceptsSpan matcher) := by
  simp only [installOf?, completedInstall?, Option.bind_eq_bind, latestStart?_installStarts]
  cases completion.appKey? with
  | none => rfl
  | some appKey =>
    simp only [Option.bind_some]
    cases latest : (startsUpTo (Event.sort events) appKey completion.time).getLast? with
    | none => rfl
    | some start =>
      have same : installSpan start completion appKey = plainSpan start completion appKey :=
        installSpan_eq_plainSpan (since_nonneg_of_startsUpTo latest)
      have duration : installDuration start completion =
          (plainSpan start completion appKey).duration := congrArg InstallSpan.duration same
      rw [Option.bind_some, Option.bind_some, same, installSeconds, duration, Option.filter_some]
      rfl

/-- What a plain search for an installation comes to. -/
def plainOutcome (matcher : Matcher) (c : Condition) (events : List Event) : Outcome :=
  .ofSearch .noInstallMatched
    (((c.completedInstalls (Event.sort events)).find? (c.acceptsSpan matcher)).map .install)

theorem detectInstall_eq_plainOutcome (matcher : Matcher) (c : Condition) (events : List Event) :
    c.detectInstall matcher events = c.plainOutcome matcher events := by
  have pointwise : c.installOf? matcher (installStarts events) = fun completion =>
      (completedInstall? (Event.sort events) completion).filter (c.acceptsSpan matcher) :=
    funext (c.installOf?_eq_filter matcher events)
  have searched : ((Event.sort events).filter (·.hasTypeIn c.completionTypes)).findSome?
      (c.installOf? matcher (installStarts events)) =
        (c.completedInstalls (Event.sort events)).find? (c.acceptsSpan matcher) := by
    rw [completedInstalls, find?_filterMap_eq_findSome?, pointwise]
  rw [plainOutcome, ← searched]
  rfl

theorem detect_eq_detectInstall (setting : DetectionSetting) (events : List Event)
    (installs : c.source = .appInstallDuration) :
    c.detect setting events = c.detectInstall setting.matcher events := by
  rw [detect, installs]

theorem evaluate_of_sorted {setting : DetectionSetting} {ordered : List Event} {span : InstallSpan}
    (installs : c.source = .appInstallDuration) (sorted : Event.sort events = ordered)
    (found : (ordered.filter (·.hasTypeIn c.completionTypes)).findSomeM? (c.examineInstall
      setting.matcher (ordered.filter (·.hasTypeIn installStartTypes))) = .ok (some span)) :
    c.evaluate setting events = .ok (.matched (.install span)) := by
  rw [evaluate, installs, evaluateInstall, sorted, found]
  rfl

/-- A completion of an installation, and the last of all starts of its app up to it. -/
structure PairsInstall (c : Condition) (events : List Event) (start completion : Event) :
    Prop where
  member : completion ∈ events
  completes : completion.hasTypeIn c.completionTypes = true
  latest : ∃ appKey, completion.appKey? = some appKey ∧
    (startsUpTo (Event.sort events) appKey completion.time).getLast? = some start

/-- The evidence of a match is the span between a completion and the start that it is paired
with. -/
theorem pairsInstall_of_detectInstall {evidence : Evidence}
    (matched : c.detectInstall matcher events = .matched evidence) :
    ∃ start completion appKey, c.PairsInstall events start completion ∧
      evidence = .install (plainSpan start completion appKey) := by
  rw [detectInstall_eq_plainOutcome, plainOutcome, Outcome.ofSearch_eq_matched] at matched
  obtain ⟨span, found, rfl⟩ := Option.map_eq_some_iff.mp matched
  obtain ⟨completion, completes, completed⟩ :=
    List.mem_filterMap.mp (List.mem_of_find?_eq_some found)
  rw [List.mem_filter, Event.mem_sort] at completes
  simp only [completedInstall?, Option.bind_eq_bind, Option.bind_eq_some_iff,
    Option.some.injEq] at completed
  obtain ⟨appKey, key, start, latest, rfl⟩ := completed
  exact ⟨start, completion, appKey, ⟨completes.1, completes.2, appKey, key, latest⟩, rfl⟩

/-- A condition on installations that take ten minutes or more. -/
def slowInstall : Condition :=
  { (default : Condition) with
    source := .appInstallDuration, operator := some .gte, value := some "600" }

/-- An event of an app's installation, some seconds after the first second of the calendar. -/
def installEvent (id type app : String) (second : Int) : Event :=
  { (default : Event) with
    id := id, type := type, time := ⟨1000000 * second⟩, sequence := second
    payload := [("appId", .text app)] }

theorem inOrder_installEvent (id other type otherType app otherApp : String)
    (second later : Int) :
    (installEvent id type app second).inOrder (installEvent other otherType otherApp later) =
      decide (second ≤ later) := by
  rw [Bool.eq_iff_iff, Event.inOrder_iff, decide_eq_true_eq]
  simp only [installEvent]
  omega

/-- Installations of two apps, as they happen to arrive: the first app is done soon, and the second
one fails late and only after a second start. -/
def retriedInstalls : List Event := [
  installEvent "v3" "app_install_failed" "VPN" 900,
  installEvent "v1" "app_install_started" "vpn" 10,
  installEvent "m1" "app_install_start" "mail" 20,
  installEvent "m2" "App_Install_Completed" "mail" 320,
  installEvent "v2" "app_install_started" "Vpn" 200,
  installEvent "v4" "app_install_started" "vpn" 950]

theorem sort_retriedInstalls :
    Event.sort retriedInstalls = [
      installEvent "v1" "app_install_started" "vpn" 10,
      installEvent "m1" "app_install_start" "mail" 20,
      installEvent "v2" "app_install_started" "Vpn" 200,
      installEvent "m2" "App_Install_Completed" "mail" 320,
      installEvent "v3" "app_install_failed" "VPN" 900,
      installEvent "v4" "app_install_started" "vpn" 950] := by
  simp [retriedInstalls, Event.sort, List.mergeSort, inOrder_installEvent]

/-- The second app's installation, from its second start on. -/
def retriedSpan : InstallSpan :=
  plainSpan (installEvent "v2" "app_install_started" "Vpn" 200)
    (installEvent "v3" "app_install_failed" "VPN" 900) "VPN"

end Condition

end EnrollmentDiagnosis
