import EnrollmentDiagnosis.Proofs.InstallSearch

set_option autoImplicit false

namespace EnrollmentDiagnosis

/-- Behind the last element of a list that passes a test, none passes it. -/
theorem split_of_getLast?_filter {α : Type} {test : α → Bool} {l : List α} {a : α}
    (last : (l.filter test).getLast? = some a) :
    ∃ before after, l = before ++ a :: after ∧ ∀ x ∈ after, ¬test x = true := by
  obtain ⟨kept, split⟩ := List.getLast?_eq_some_iff.mp last
  obtain ⟨front, tail, rfl, -, keptTail⟩ := List.filter_eq_append_iff.mp split
  obtain ⟨gap, after, rfl, -, -, passed⟩ := List.filter_eq_cons_iff.mp keptTail
  exact ⟨front ++ gap, after, (List.append_assoc _ _ _).symm, List.filter_eq_nil_iff.mp passed⟩

/-- A value records one identity in one way. -/
theorem Value.Records.id_eq {v : Value} {naming : Naming} {event other : EventReference}
    (records : v.Records naming other) (recordsToo : v.Records naming event) :
    other.id = event.id :=
  Value.text.inj (Option.some.inj (records.id.symm.trans recordsToo.id))

namespace Event

/-- One event stands strictly before another one by time and sequence. -/
def Precedes (a b : Event) : Prop := a.time < b.time ∨ a.time = b.time ∧ a.sequence < b.sequence

instance (a b : Event) : Decidable (a.Precedes b) := inferInstanceAs (Decidable (_ ∨ _))

theorem precedes_iff {a b : Event} : a.Precedes b ↔ ¬b.inOrder a = true := by
  have earlier : a.time < b.time ↔ a.time.microseconds < b.time.microseconds := Iff.rfl
  rw [Precedes, inOrder_iff, Time.Instant.eq_iff, earlier]
  omega

/-- Of two events in order, the first precedes whatever the second precedes. -/
theorem Precedes.of_inOrder {a b c : Event} (later : b.Precedes c) (ordered : a.inOrder b = true) :
    a.Precedes c := by
  rw [precedes_iff] at later ⊢
  exact fun backward => later (inOrder_trans c a b backward ordered)

/-- In canonical order, an event stands behind every event that precedes it. -/
theorem mem_after_of_precedes {a b : Event} {before after : List Event}
    (ordered : (before ++ a :: after).Pairwise fun a b => a.inOrder b = true)
    (member : b ∈ before ++ a :: after) (precedes : a.Precedes b) : b ∈ after := by
  rw [precedes_iff] at precedes
  rcases List.mem_append.mp member with early | here
  · exact absurd ((List.pairwise_append.mp ordered).2.2 b early a List.mem_cons_self) precedes
  · rcases List.mem_cons.mp here with rfl | late
    · exact absurd ((inOrder_total b b).symm.trans (Bool.or_self _)).symm precedes
    · exact late

/-- An event starts an installation of the app that another one is about. -/
def StartsAppOf (e completion : Event) : Prop :=
  e.hasTypeIn installStartTypes = true ∧
    ∃ appKey, completion.appKey? = some appKey ∧ e.isAbout appKey = true

/-- A start of the completion's app that no other start of the app separates from it. The start is
in front of the completion exactly if all starts of the app at the completion's time are. -/
structure ClosestStart (events : List Event) (start completion : Event) : Prop where
  started : start ∈ events ∧ start.StartsAppOf completion ∧ start.time ≤ completion.time
  later_of_precedes : ∀ e ∈ events, e.StartsAppOf completion → start.Precedes e →
    completion.time < e.time
  precedes_iff : start.Precedes completion ↔ ∀ e ∈ events, e.StartsAppOf completion →
    e.time = completion.time → e.sequence < completion.sequence
  adjacent : start.Precedes completion → ∃ before between after,
    sort events = before ++ start :: between ++ completion :: after ∧
      ∀ e ∈ between, ¬e.StartsAppOf completion

end Event

namespace Condition.PairsInstall

variable {c : Condition} {events : List Event} {start completion : Event}

/-- The starts of a completion's app up to that completion. -/
theorem mem_startsUpTo_iff {e : Event} {appKey : String}
    (key : completion.appKey? = some appKey) :
    e ∈ startsUpTo (Event.sort events) appKey completion.time ↔
      e ∈ events ∧ e.StartsAppOf completion ∧ e.time ≤ completion.time := by
  simp only [mem_startsUpTo, Event.StartsAppOf, key, Option.some.injEq, exists_eq_left', and_assoc]

theorem started (pair : c.PairsInstall events start completion) :
    start ∈ events ∧ start.StartsAppOf completion ∧ start.time ≤ completion.time := by
  obtain ⟨appKey, key, latest⟩ := pair.latest
  exact (mem_startsUpTo_iff key).mp (List.mem_of_getLast? latest)

/-- Every start of the app up to the completion comes in order before the paired one. -/
theorem inOrder_start (pair : c.PairsInstall events start completion) {e : Event}
    (member : e ∈ events) (starts : e.StartsAppOf completion) (early : e.time ≤ completion.time) :
    e.inOrder start = true := by
  obtain ⟨appKey, key, latest⟩ := pair.latest
  exact Event.inOrder_getLast? ((Event.sort_ordered events).filter _) latest
    ((mem_startsUpTo_iff key).mpr ⟨member, starts, early⟩)

/-- A start of the app that comes after the paired one is later than the completion. -/
theorem later_of_precedes (pair : c.PairsInstall events start completion) {e : Event}
    (member : e ∈ events) (starts : e.StartsAppOf completion) (behind : start.Precedes e) :
    completion.time < e.time := by
  by_contra early
  have ordered := pair.inOrder_start member starts (Int.not_lt.mp early)
  exact Event.precedes_iff.mp behind ordered

/-- The paired start precedes the completion exactly if every start of the app at the completion's
time has a smaller sequence. -/
theorem precedes_iff (pair : c.PairsInstall events start completion) :
    start.Precedes completion ↔ ∀ e ∈ events, e.StartsAppOf completion →
      e.time = completion.time → e.sequence < completion.sequence := by
  constructor
  · intro precedes e member starts tied
    have early : e.time ≤ completion.time := by
      rw [tied]
      exact Int.le_refl _
    rcases precedes.of_inOrder (pair.inOrder_start member starts early) with earlier | same
    · rw [tied] at earlier
      exact absurd earlier (Int.lt_irrefl _)
    · exact same.2
  · intro smaller
    obtain ⟨member, starts, early⟩ := pair.started
    by_cases tied : start.time = completion.time
    · exact .inr ⟨tied, smaller start member starts tied⟩
    · have different : start.time.microseconds ≠ completion.time.microseconds :=
        mt Time.Instant.eq_iff.mpr tied
      have least : start.time.microseconds ≤ completion.time.microseconds := early
      have earlier : start.time.microseconds < completion.time.microseconds := by omega
      exact .inl earlier

/-- A paired start that precedes its completion is the last start of the app in front of it. -/
theorem adjacent (pair : c.PairsInstall events start completion)
    (precedes : start.Precedes completion) :
    ∃ before between after, Event.sort events = before ++ start :: between ++ completion :: after ∧
      ∀ e ∈ between, ¬e.StartsAppOf completion := by
  obtain ⟨appKey, key, latest⟩ := pair.latest
  obtain ⟨before, rest, split, passed⟩ := split_of_getLast?_filter latest
  have ordered := Event.sort_ordered events
  have member := (Event.sort_perm events).mem_iff.mpr pair.member
  rw [split] at ordered member
  obtain ⟨between, after, rfl⟩ :=
    List.append_of_mem (Event.mem_after_of_precedes ordered member precedes)
  refine ⟨before, between, after, by rw [split, List.append_assoc, List.cons_append], ?_⟩
  intro e inside starts
  -- What stands between the two is not later than the completion, and no start up to it is left.
  have early : e.time ≤ completion.time := by
    have behind := (List.pairwise_cons.mp (List.pairwise_append.mp ordered).2.1).2
    exact Event.time_le_of_inOrder
      ((List.pairwise_append.mp behind).2.2 e inside completion List.mem_cons_self)
  obtain ⟨type, _, stated, about⟩ := starts
  obtain rfl := Option.some.inj (stated.symm.trans key)
  refine passed e (List.mem_append_left _ inside) ?_
  simp only [type, about, early, decide_true, Bool.and_self]

end Condition.PairsInstall

namespace Condition

/-- The start that a match measures from is not later than the completion, and a start of the same
app that comes after it is later than the completion. It strictly precedes the completion, with no
start of the app between them, exactly if no start of the app at the time of the completion has its
sequence or a larger one. -/
theorem paired_start_precedes_iff (setting : DetectionSetting) (c : Condition)
    (events : List Event) (installs : c.source = .appInstallDuration) (evidence : Evidence)
    (matched : c.evaluate setting events = .ok (.matched evidence)) :
    ∃ start completion, c.PairsInstall events start completion ∧
      evidence.toValue.Records .installStart start.reference ∧
      evidence.toValue.Records .event completion.reference ∧
      Event.ClosestStart events start completion := by
  have plain := detect_eq_detectInstall setting events installs
  rw [detect_of_evaluate matched] at plain
  obtain ⟨start, completion, appKey, pair, rfl⟩ := pairsInstall_of_detectInstall plain.symm
  refine ⟨start, completion, pair, Evidence.records_of_named rfl, Evidence.records_of_named rfl, ?_⟩
  exact
    { started := pair.started
      later_of_precedes := fun _ member starts behind =>
        pair.later_of_precedes member starts behind
      precedes_iff := pair.precedes_iff
      adjacent := pair.adjacent }

/-- A condition that every installation satisfies. -/
def anyInstall : Condition :=
  { (default : Condition) with
    source := .appInstallDuration, operator := some .gte, value := some "0" }

/-- An event of an installation at the first second of the calendar. -/
def tiedEvent (id type : String) (sequence : Int) : Event :=
  { (default : Event) with
    id := id, type := type, sequence := sequence, payload := [("appId", .text "mail")] }

def tiedCompletion : Event := tiedEvent "done" "app_install_completed" 1

/-- A start before the completion, and one behind it. -/
def startBefore : Event := tiedEvent "start" "app_install_started" 0
def startBehind : Event := tiedEvent "restart" "app_install_started" 2

/-- The installation from a start to the completion. -/
def tiedSpan (start : Event) : Evidence := .install (plainSpan start tiedCompletion "mail")

theorem tied_start_precedes :
    anyInstall.source = .appInstallDuration ∧
      anyInstall.evaluate default [tiedCompletion, startBefore] =
        .ok (.matched (tiedSpan startBefore)) ∧
      ∃ start completion,
        anyInstall.PairsInstall [tiedCompletion, startBefore] start completion ∧
        (tiedSpan startBefore).toValue.Records .installStart start.reference ∧
        (tiedSpan startBefore).toValue.Records .event completion.reference ∧
        Event.ClosestStart [tiedCompletion, startBefore] start completion := by
  have sorted : Event.sort [tiedCompletion, startBefore] = [startBefore, tiedCompletion] := by
    have swapped : tiedCompletion.inOrder startBefore = false := by decide +kernel
    simp [Event.sort, List.mergeSort, swapped]
  have matched : anyInstall.evaluate default [tiedCompletion, startBefore] =
      .ok (.matched (tiedSpan startBefore)) := evaluate_of_sorted rfl sorted rfl
  exact ⟨rfl, matched, paired_start_precedes_iff default anyInstall _ rfl _ matched⟩

/-- A start behind the completion, but at its time, is paired with it. -/
theorem start_behind_completion_paired :
    ¬∀ (setting : DetectionSetting) (c : Condition) (events : List Event) (evidence : Evidence),
      c.source = .appInstallDuration → c.evaluate setting events = .ok (.matched evidence) →
      ∃ start ∈ events, ∃ completion ∈ events,
        evidence.toValue.Records .installStart start.reference ∧
        evidence.toValue.Records .event completion.reference ∧ start.Precedes completion := by
  intro always
  have sorted : Event.sort [tiedCompletion, startBehind] = [tiedCompletion, startBehind] :=
    List.mergeSort_of_pairwise (by decide +kernel)
  have matched : anyInstall.evaluate default [tiedCompletion, startBehind] =
      .ok (.matched (tiedSpan startBehind)) := evaluate_of_sorted rfl sorted rfl
  obtain ⟨start, member, completion, memberToo, recordsStart, recordsCompletion, precedes⟩ :=
    always default anyInstall _ _ rfl matched
  have namesStart : (tiedSpan startBehind).toValue.Records .installStart startBehind.reference :=
    Evidence.records_of_named rfl
  have namesCompletion : (tiedSpan startBehind).toValue.Records .event tiedCompletion.reference :=
    Evidence.records_of_named rfl
  have restarted : start.id = "restart" := recordsStart.id_eq namesStart
  have done : completion.id = "done" := recordsCompletion.id_eq namesCompletion
  -- The identities leave only the start behind the completion.
  simp only [List.mem_cons, List.not_mem_nil, or_false] at member memberToo
  rcases member with rfl | rfl
  · exact absurd restarted (by decide)
  · rcases memberToo with rfl | rfl
    · exact absurd precedes (by decide)
    · exact absurd done (by decide)

end Condition

end EnrollmentDiagnosis
