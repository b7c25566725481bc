import EnrollmentDiagnosis.Proofs.CanonicalOrder
import EnrollmentDiagnosis.Proofs.GroundedEvidence

set_option autoImplicit false

namespace EnrollmentDiagnosis

/-- The changes of phase in a session, in canonical order. -/
def DetectionSetting.changes (setting : DetectionSetting) (events : List Event) : List Event :=
  (Event.sort events).filter (·.hasType setting.phaseChangeType)

namespace DetectionSetting

variable {setting : DetectionSetting} {events : List Event}

theorem sort_filter_eq_changes (setting : DetectionSetting) (events : List Event) :
    Event.sort (events.filter (·.hasType setting.phaseChangeType)) = setting.changes events :=
  Event.sort_filter events _

/-- A change of phase comes no earlier than the ones before it. -/
theorem since_nonneg_of_changes {before after : List Event} {entered next : Event}
    (split : setting.changes events = before ++ entered :: after) (member : next ∈ after) :
    0 ≤ next.time.since entered.time := by
  have ordered : (setting.changes events).Pairwise fun a b => a.inOrder b = true :=
    (Event.sort_ordered events).filter _
  rw [split] at ordered
  have inOrder := (List.pairwise_cons.mp (List.pairwise_append.mp ordered).2.1).1 next member
  rw [Event.inOrder_iff] at inOrder
  unfold Time.Instant.since
  omega

end DetectionSetting

namespace Condition

variable {setting : DetectionSetting} {c : Condition} {events : List Event} {target : String}

/-- An event names the target in the field that a condition looks up. -/
def Enters (c : Condition) (target : String) (e : Event) : Prop :=
  ∃ phase, e.field? c.phaseField = some phase ∧ Text.fold phase = Text.fold target

theorem entersPhase_iff {e : Event} : c.entersPhase target e = true ↔ c.Enters target e := by
  unfold entersPhase Enters
  cases e.field? c.phaseField with
  | none => simp
  | some phase => simp [Text.sameFold]

/-- The first change into a phase, with the changes behind it. -/
structure FirstEntry (setting : DetectionSetting) (c : Condition) (events : List Event)
    (target : String) (entered : Event) (later : List Event) : Prop where
  enters : c.Enters target entered
  first : ∃ before, setting.changes events = before ++ entered :: later ∧
    ∀ e ∈ before, ¬c.Enters target e

/-- A value records a phase: the change that entered it, the next change and the seconds between the
two or, if there is none, the marker of a phase that goes on and the seconds until now. -/
structure RecordsSpan (setting : DetectionSetting) (v : Value) (entered : Event)
    (later : List Event) : Prop where
  begins : v.Records .event entered.reference
  ends : ∀ next, later.head? = some next →
    v.Records .phaseEnd next.reference ∧ 0 ≤ next.time.since entered.time ∧
      v.along? ["durationSeconds"] = some (.float (Time.seconds (next.time.since entered.time)))
  goesOn : later = [] →
    v.along? Naming.phaseEnd.idPath = some (.text stillActive) ∧
      v.along? ["durationSeconds"] =
        some (.float (Time.seconds (max 0 (setting.now.since entered.time))))

theorem seconds_phaseSpan (setting : DetectionSetting) (target : String) (entered : Event)
    (next : Option Event) :
    (Evidence.phase (phaseSpan setting target entered next)).toValue.along? ["durationSeconds"] =
      some (.float (Time.seconds (phaseSpan setting target entered next).duration)) := by
  simp [Evidence.toValue, PhaseSpan.entries, durationEntries]

/-- The evidence of a match is about the first change into the phase. -/
theorem firstEntry_of_detectPhase {evidence : Evidence}
    (wanted : nonempty? c.value = some target)
    (matched : c.detectPhase setting events = .matched evidence) :
    ∃ entered later, c.FirstEntry setting events target entered later ∧
      evidence = .phase (phaseSpan setting target entered later.head?) := by
  unfold detectPhase at matched
  rw [setting.sort_filter_eq_changes, wanted] at matched
  split at matched
  · cases matched
  · obtain ⟨⟨entered, next⟩, found, rfl⟩ :=
      Option.map_eq_some_iff.mp (Outcome.ofSearch_eq_matched.mp matched)
    obtain ⟨before, later, split, rfl, enters, passed⟩ := split_of_findWithNext? found
    refine ⟨entered, later, ⟨entersPhase_iff.mp enters, before, split, ?_⟩, rfl⟩
    exact fun e early entersToo => passed e early (entersPhase_iff.mpr entersToo)

theorem FirstEntry.recordsSpan {entered : Event} {later : List Event}
    (entry : c.FirstEntry setting events target entered later) :
    RecordsSpan setting (Evidence.phase (phaseSpan setting target entered later.head?)).toValue
      entered later where
  begins := Evidence.records_of_named rfl
  ends next follows := by
    obtain ⟨before, split, -⟩ := entry.first
    have nonneg : 0 ≤ next.time.since entered.time :=
      DetectionSetting.since_nonneg_of_changes split (List.mem_of_head? follows)
    have duration : (phaseSpan setting target entered (some next)).duration =
        next.time.since entered.time := Int.max_eq_right nonneg
    rw [follows, seconds_phaseSpan, duration]
    exact ⟨Evidence.records_of_named rfl, nonneg, rfl⟩
  goesOn last := by
    subst last
    refine ⟨?_, seconds_phaseSpan setting target entered none⟩
    simp [Evidence.toValue, PhaseSpan.entries, phaseSpan]

/-- A condition on the phase in which the device is set up. -/
def deviceSetup : Condition :=
  { (default : Condition) with source := .phaseDuration, value := some "DeviceSetup" }

def phaseSetting : DetectionSetting :=
  { (default : DetectionSetting) with phaseChangeType := "phase_changed", now := ⟨1000000000⟩ }

/-- A change of phase, some seconds after the first second of the calendar. -/
def phaseChange (id phase : String) (second : Int) : Event :=
  { (default : Event) with
    id := id, type := "phase_changed", time := ⟨1000000 * second⟩, sequence := second
    payload := [("espPhase", .text phase)] }

/-- A phase that is entered, left and entered again, as it happens to arrive. -/
def reentered : List Event := [
  phaseChange "again" "DeviceSetup" 900, phaseChange "left" "AccountSetup" 700,
  { (default : Event) with type := "reboot", time := ⟨500000000⟩ },
  phaseChange "first" "devicesetup" 200]

/-- The phase as it was entered first, until the next change. -/
def firstSpan : Evidence :=
  .phase (phaseSpan phaseSetting "DeviceSetup" (phaseChange "first" "devicesetup" 200)
    (some (phaseChange "left" "AccountSetup" 700)))

theorem inOrder_phaseChange (id other phase otherPhase : String) (second later : Int) :
    (phaseChange id phase second).inOrder (phaseChange other otherPhase later) =
      decide (second ≤ later) := by
  rw [Bool.eq_iff_iff, Event.inOrder_iff, decide_eq_true_eq]
  simp only [phaseChange]
  omega

theorem evaluate_reentered :
    deviceSetup.evaluate phaseSetting reentered = .ok (.matched firstSpan) := by
  have changes : reentered.filter (·.hasType phaseSetting.phaseChangeType) =
      [phaseChange "again" "DeviceSetup" 900, phaseChange "left" "AccountSetup" 700,
        phaseChange "first" "devicesetup" 200] := rfl
  have sorted : Event.sort (reentered.filter (·.hasType phaseSetting.phaseChangeType)) =
      [phaseChange "first" "devicesetup" 200, phaseChange "left" "AccountSetup" 700,
        phaseChange "again" "DeviceSetup" 900] := by
    rw [changes]
    simp [Event.sort, List.mergeSort, inOrder_phaseChange]
  have phase : deviceSetup.evaluate phaseSetting reentered =
      deviceSetup.evaluatePhase phaseSetting reentered := rfl
  rw [phase, evaluatePhase, sorted]
  rfl

end Condition

end EnrollmentDiagnosis
