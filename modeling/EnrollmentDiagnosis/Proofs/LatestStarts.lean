import EnrollmentDiagnosis.Proofs.CanonicalOrder

set_option autoImplicit false

namespace EnrollmentDiagnosis

/-- Elements that pass a test stand before all others if no element that fails it stands before one
that passes. -/
theorem takeWhile_eq_filter {α : Type} {test : α → Bool} {l : List α}
    (closed : l.Pairwise fun a b => test b = true → test a = true) :
    l.takeWhile test = l.filter test := by
  induction l with
  | nil => rfl
  | cons first rest ih =>
    obtain ⟨before, closedRest⟩ := List.pairwise_cons.mp closed
    by_cases passes : test first = true
    · rw [List.takeWhile_cons_of_pos passes, List.filter_cons_of_pos passes, ih closedRest]
    · have fails : ∀ e ∈ rest, ¬test e = true :=
        fun e member passesLater => passes (before e member passesLater)
      rw [List.takeWhile_cons_of_neg passes, List.filter_cons_of_neg passes,
        List.filter_eq_nil_iff.mpr fails]

namespace Event

variable {starts : List Event} {time : Time.Instant} {appKey : String}

theorem time_le_of_inOrder {a b : Event} (ordered : a.inOrder b = true) : a.time ≤ b.time := by
  rw [inOrder_iff] at ordered
  have early : a.time.microseconds ≤ b.time.microseconds := by omega
  exact early

/-- True for an event about an app up to a time. -/
def isAboutBy (appKey : String) (time : Time.Instant) (e : Event) : Bool :=
  e.isAbout appKey && decide (e.time ≤ time)

theorem isAboutBy_iff {e : Event} :
    e.isAboutBy appKey time = true ↔ e.isAbout appKey = true ∧ e.time ≤ time := by
  rw [isAboutBy, Bool.and_eq_true, decide_eq_true_eq]

theorem latestStart?_eq (ordered : starts.Pairwise fun a b => a.inOrder b = true) :
    latestStart? starts time appKey = (starts.filter (isAboutBy appKey time)).getLast? := by
  have closed : starts.Pairwise fun a b =>
      decide (b.time ≤ time) = true → decide (a.time ≤ time) = true := by
    refine ordered.imp fun inOrder early => decide_eq_true ?_
    exact Int.le_trans (time_le_of_inOrder inOrder) (of_decide_eq_true early)
  rw [latestStart?, takeWhile_eq_filter closed, List.filter_filter]
  rfl

/-- There is a latest start of an app up to a time if there is any. -/
theorem latestStart?_isSome (ordered : starts.Pairwise fun a b => a.inOrder b = true) :
    (latestStart? starts time appKey).isSome = true ↔
      ∃ e ∈ starts, e.isAbout appKey = true ∧ e.time ≤ time := by
  rw [latestStart?_eq ordered, List.getLast?_isSome, ne_eq, List.filter_eq_nil_iff]
  simp only [isAboutBy_iff, not_forall, not_not, exists_prop]

/-- The last of some events in order is in order behind all of them. -/
theorem inOrder_getLast? {events : List Event} {last e : Event}
    (ordered : events.Pairwise fun a b => a.inOrder b = true) (ends : events.getLast? = some last)
    (member : e ∈ events) : e.inOrder last = true := by
  obtain ⟨before, rfl⟩ := List.getLast?_eq_some_iff.mp ends
  rcases List.mem_append.mp member with earlier | same
  · exact (List.pairwise_append.mp ordered).2.2 e earlier last (List.mem_singleton.mpr rfl)
  · rw [List.mem_singleton.mp same, inOrder_iff]
    omega

/-- The latest start of an app up to a time is about that app and not behind the time, and no such
start is later. -/
theorem latestStart?_latest (ordered : starts.Pairwise fun a b => a.inOrder b = true)
    {start : Event} (found : latestStart? starts time appKey = some start) :
    start.isAbout appKey = true ∧ start.time ≤ time ∧
      ∀ e ∈ starts, e.isAbout appKey = true → e.time ≤ time → e.time ≤ start.time := by
  rw [latestStart?_eq ordered] at found
  obtain ⟨about, early⟩ := isAboutBy_iff.mp (List.of_mem_filter (List.mem_of_getLast? found))
  refine ⟨about, early, fun e other aboutToo earlyToo => ?_⟩
  have candidate : e ∈ starts.filter (isAboutBy appKey time) :=
    List.mem_filter.mpr ⟨other, isAboutBy_iff.mpr ⟨aboutToo, earlyToo⟩⟩
  exact time_le_of_inOrder (inOrder_getLast? (ordered.filter _) found candidate)

end Event

namespace Condition

theorem installStarts_ordered (events : List Event) :
    (installStarts events).Pairwise fun a b => a.inOrder b = true :=
  (Event.sort_ordered events).filter _

theorem mem_installStarts {events : List Event} {e : Event} :
    e ∈ installStarts events ↔ e ∈ events ∧ e.hasTypeIn installStartTypes = true := by
  rw [installStarts, List.mem_filter, (Event.sort_perm events).mem_iff]

end Condition

end EnrollmentDiagnosis
