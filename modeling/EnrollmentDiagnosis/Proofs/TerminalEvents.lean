import EnrollmentDiagnosis.Proofs.CanonicalOrder
import EnrollmentDiagnosis.Readiness

set_option autoImplicit false

namespace EnrollmentDiagnosis.Readiness

variable {events listed first second : List Event} {a b : Event}

/-- The ending that the first terminal event tells: true for a failure. -/
def ending? (events : List Event) : Option Bool := (events.find? isTerminal).map reportsFailure

/-- True for terminal events that all tell the same ending. -/
def TellSameEnding (events : List Event) : Prop :=
  ∀ a ∈ events, ∀ b ∈ events, isTerminal a = true → isTerminal b = true →
    reportsFailure a = reportsFailure b

/-- True for terminal events that tell the same ending where their time and sequence are equal. -/
def TiesTellSameEnding (events : List Event) : Prop :=
  ∀ a ∈ events, ∀ b ∈ events, isTerminal a = true → isTerminal b = true →
    a.time = b.time → a.sequence = b.sequence → reportsFailure a = reportsFailure b

/-- The readiness that an ending makes when nobody asks for the analysis. -/
def ofEnding : Option Bool → Readiness
  | none => notTerminal
  | some true => failed
  | some false => completed

theorem ofEvents_eq (events : List Event) (onDemand : Bool) :
    ofEvents events onDemand =
      if events.isEmpty then noEvents
      else if onDemand then .onDemand
      else ofEnding (ending? events) := by
  unfold ofEvents ending?
  cases events.find? isTerminal with
  | none => rfl
  | some e =>
    have known : ofEnding (some (reportsFailure e)) =
        if reportsFailure e then failed else completed := by
      cases reportsFailure e <;> rfl
    rw [Option.map_some, known]

theorem ofEvents_congr (sameEmptiness : first.isEmpty = second.isEmpty)
    (sameEnding : ending? first = ending? second) (onDemand : Bool) :
    ofEvents first onDemand = ofEvents second onDemand := by
  rw [ofEvents_eq, ofEvents_eq, sameEmptiness, sameEnding]

theorem ofEnding_injective : Function.Injective ofEnding := by
  intro x y same
  revert same
  cases x <;> cases y <;> decide +revert

/-- A session with events is analyzed when this is asked for or one of them is terminal. -/
theorem shouldAnalyze_ofEvents (events : List Event) (onDemand : Bool) :
    (ofEvents events onDemand).shouldAnalyze =
      (!events.isEmpty && (onDemand || events.any isTerminal)) := by
  have terminal : (ending? events).isSome = events.any isTerminal := by
    rw [ending?, Option.isSome_map, List.isSome_find?]
  rw [ofEvents_eq, ← terminal]
  cases events.isEmpty with
  | true => rfl
  | false =>
    cases onDemand with
    | true => rfl
    | false =>
      cases ending? events with
      | none => rfl
      | some failure => cases failure <;> rfl

/-- Different readiness has different reasons. -/
theorem eq_of_reason {r s : Readiness} (same : r.reason = s.reason) : r = s := by
  revert same
  cases r <;> cases s <;> decide

theorem ending?_cons_of_isTerminal (terminal : isTerminal a = true) (rest : List Event) :
    ending? (a :: rest) = some (reportsFailure a) := by
  rw [ending?, List.find?_cons_of_pos terminal, Option.map_some]

/-- Lists with the same events tell the same ending if the terminal events found in them do. -/
theorem ending?_congr (members : ∀ e, e ∈ first ↔ e ∈ second)
    (agree : ∀ a b, first.find? isTerminal = some a → second.find? isTerminal = some b →
      reportsFailure a = reportsFailure b) :
    ending? first = ending? second := by
  unfold ending?
  cases found : first.find? isTerminal with
  | none =>
    have absent : second.find? isTerminal = none := by
      rw [List.find?_eq_none] at found ⊢
      intro e member
      exact found e ((members e).mpr member)
    rw [absent]
  | some a =>
    have there : (second.find? isTerminal).isSome = true := by
      rw [List.find?_isSome]
      exact ⟨a, (members a).mp (List.mem_of_find?_eq_some found), List.find?_some found⟩
    obtain ⟨b, foundToo⟩ := Option.isSome_iff_exists.mp there
    rw [foundToo, Option.map_some, Option.map_some, agree a b found foundToo]

theorem ending?_perm (same : TellSameEnding events) (perm : listed.Perm events) :
    ending? listed = ending? events := by
  apply ending?_congr (fun e => perm.mem_iff)
  intro a b found foundToo
  have member := perm.mem_iff.mp (List.mem_of_find?_eq_some found)
  exact same a member b (List.mem_of_find?_eq_some foundToo) (List.find?_some found)
    (List.find?_some foundToo)

/-- If every listing has the same ending, then so do any two terminal events, since each of them is
the first one in some listing. -/
theorem tellSameEnding_of_ending? (same : ∀ listed, listed.Perm events →
    ending? listed = ending? events) : TellSameEnding events := by
  have leads : ∀ e ∈ events, isTerminal e = true →
      ending? events = some (reportsFailure e) := by
    intro e member terminal
    obtain ⟨before, after, rfl⟩ := List.append_of_mem member
    rw [← same (e :: (before ++ after)) List.perm_middle.symm]
    exact ending?_cons_of_isTerminal terminal _
  intro a memberA b memberB terminalA terminalB
  have both := (leads a memberA terminalA).symm.trans (leads b memberB terminalB)
  exact Option.some.inj both

/-- In canonical order no terminal event comes before the one that is found. -/
theorem inOrder_of_find?_sort (found : (Event.sort events).find? isTerminal = some a)
    (member : b ∈ events) (terminal : isTerminal b = true) : a.inOrder b = true := by
  have leading : (Event.sort (events.filter isTerminal)).head? = some a := by
    rw [Event.sort_filter, List.head?_filter, found]
  obtain ⟨rest, sorted⟩ := List.head?_eq_some_iff.mp leading
  have ordered := Event.sort_ordered (events.filter isTerminal)
  have inside : b ∈ Event.sort (events.filter isTerminal) :=
    (Event.sort_perm _).mem_iff.mpr (List.mem_filter.mpr ⟨member, terminal⟩)
  rw [sorted] at ordered inside
  exact Event.inOrder_of_mem ordered inside

theorem ending?_sort_perm (ties : TiesTellSameEnding events) (perm : listed.Perm events) :
    ending? (Event.sort listed) = ending? (Event.sort events) := by
  have members : ∀ e, e ∈ Event.sort listed ↔ e ∈ Event.sort events :=
    fun e => ((Event.sort_perm listed).trans (perm.trans (Event.sort_perm events).symm)).mem_iff
  apply ending?_congr members
  intro a b found foundToo
  have memberA : a ∈ events :=
    perm.mem_iff.mp ((Event.sort_perm listed).mem_iff.mp (List.mem_of_find?_eq_some found))
  have memberB : b ∈ events :=
    (Event.sort_perm events).mem_iff.mp (List.mem_of_find?_eq_some foundToo)
  have terminalA : isTerminal a = true := List.find?_some found
  have terminalB : isTerminal b = true := List.find?_some foundToo
  -- Each of the two is found first, so neither comes before the other.
  have forward := inOrder_of_find?_sort found (perm.mem_iff.mpr memberB) terminalB
  have backward := inOrder_of_find?_sort foundToo memberA terminalA
  obtain ⟨sameTime, sameSequence⟩ := Event.standsAt_iff.mp
    (Event.standsAt_of_inOrder forward backward)
  exact ties a memberA b memberB terminalA terminalB sameTime.symm sameSequence.symm

/-- The order in which events are listed has no say in whether a session is analyzed. It has none in
the reason either, if and only if the analysis is asked for or all terminal events tell the same
ending. When the events are first brought into canonical order, it is enough that those of equal
time and sequence tell the same. -/
theorem listing_decides_reason_only (events : List Event) (onDemand : Bool) :
    (∀ listed, listed.Perm events →
      (ofEvents listed onDemand).shouldAnalyze = (ofEvents events onDemand).shouldAnalyze) ∧
    ((∀ listed, listed.Perm events →
        (ofEvents listed onDemand).reason = (ofEvents events onDemand).reason) ↔
      onDemand = true ∨ TellSameEnding events) ∧
    (TiesTellSameEnding events → ∀ listed, listed.Perm events →
      ofEvents (Event.sort listed) onDemand = ofEvents (Event.sort events) onDemand) := by
  refine ⟨?_, ?_, ?_⟩
  · intro listed perm
    rw [shouldAnalyze_ofEvents, shouldAnalyze_ofEvents, perm.isEmpty_eq, perm.any_eq]
  · constructor
    · intro sameReason
      cases onDemand with
      | true => exact .inl rfl
      | false =>
        right
        apply tellSameEnding_of_ending?
        intro listed perm
        have same := eq_of_reason (sameReason listed perm)
        rw [ofEvents_eq, ofEvents_eq, perm.isEmpty_eq] at same
        cases empty : events.isEmpty with
        | true =>
          obtain rfl := List.isEmpty_iff.mp empty
          rw [perm.eq_nil]
        | false =>
          rw [empty] at same
          exact ofEnding_injective same
    · rintro (rfl | same) listed perm
      · rw [ofEvents_eq, ofEvents_eq, perm.isEmpty_eq]
        rfl
      · rw [ofEvents_congr perm.isEmpty_eq (ending?_perm same perm)]
  · intro ties listed perm
    have sorted := (Event.sort_perm listed).trans (perm.trans (Event.sort_perm events).symm)
    exact ofEvents_congr sorted.isEmpty_eq (ending?_sort_perm ties perm) onDemand

/-- An enrollment that fails at nine o'clock on the first of March 2026. -/
def failedAttempt : Event :=
  { (default : Event) with
    id := "failed", type := "enrollment_failed", time := ⟨63907952400000000⟩, sequence := 1 }

/-- The same enrollment, completed ten minutes later. -/
def completedAttempt : Event :=
  { (default : Event) with
    id := "done", type := "enrollment_complete", time := ⟨63907953000000000⟩, sequence := 2 }

/-- Listed backwards, the two attempts are analyzed all the same, and for the reason that the first
one gives once they are in canonical order. -/
theorem attempts_analyzed :
    (ofEvents [completedAttempt, failedAttempt] false).shouldAnalyze = true ∧
      ofEvents (Event.sort [completedAttempt, failedAttempt]) false = failed := by
  have backwards : [completedAttempt, failedAttempt].Perm [failedAttempt, completedAttempt] :=
    .swap _ _ _
  have ties : TiesTellSameEnding [failedAttempt, completedAttempt] := by
    intro a memberA b memberB _ _ sameTime _
    simp only [List.mem_cons, List.not_mem_nil, or_false] at memberA memberB
    rcases memberA with rfl | rfl <;> rcases memberB with rfl | rfl
    · rfl
    · exact absurd sameTime (by decide)
    · exact absurd sameTime (by decide)
    · rfl
  obtain ⟨analyzed, -, sorted⟩ :=
    listing_decides_reason_only [failedAttempt, completedAttempt] false
  have forward : Event.sort [failedAttempt, completedAttempt] = [failedAttempt, completedAttempt] :=
    List.mergeSort_of_pairwise (by decide +kernel)
  constructor
  · rw [analyzed _ backwards]
    decide +kernel
  · rw [sorted ties _ backwards, forward]
    decide +kernel

/-- Of the two attempts, the one that is listed first gives the reason. -/
theorem listing_changes_reason :
    ¬∀ (events listed : List Event) (onDemand : Bool), listed.Perm events →
      (ofEvents listed onDemand).shouldAnalyze = (ofEvents events onDemand).shouldAnalyze ∧
      (ofEvents listed onDemand).reason = (ofEvents events onDemand).reason := by
  intro always
  obtain ⟨-, same⟩ := always [failedAttempt, completedAttempt] [completedAttempt, failedAttempt]
    false (.swap _ _ _)
  have backwards : (ofEvents [completedAttempt, failedAttempt] false).reason =
      "Enrollment completed" := by decide +kernel
  have forward : (ofEvents [failedAttempt, completedAttempt] false).reason =
      "Enrollment failed" := by decide +kernel
  rw [backwards, forward] at same
  exact absurd same (by decide)

end EnrollmentDiagnosis.Readiness
