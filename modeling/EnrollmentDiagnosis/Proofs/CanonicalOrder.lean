import EnrollmentDiagnosis.Proofs.DetectionCriteria
import Mathlib.Data.List.Sort

set_option autoImplicit false

namespace EnrollmentDiagnosis

theorem Time.Instant.eq_iff {s t : Time.Instant} : s = t ↔ s.microseconds = t.microseconds :=
  ⟨congrArg _, congrArg Time.Instant.mk⟩

namespace Event

/-- True for an event with a time and a sequence. -/
def standsAt (time : Time.Instant) (sequence : Int) (e : Event) : Bool :=
  e.time == time && e.sequence == sequence

/-- The events of equal time and sequence, as they came. -/
def tied (events : List Event) (time : Time.Instant) (sequence : Int) : List Event :=
  events.filter (standsAt time sequence)

theorem standsAt_iff {time : Time.Instant} {sequence : Int} {e : Event} :
    e.standsAt time sequence = true ↔ e.time = time ∧ e.sequence = sequence := by
  simp only [standsAt, Bool.and_eq_true, beq_iff_eq]

theorem standsAt_self (e : Event) : e.standsAt e.time e.sequence = true :=
  standsAt_iff.mpr ⟨rfl, rfl⟩

theorem mem_tied {events : List Event} {time : Time.Instant} {sequence : Int} {e : Event} :
    e ∈ tied events time sequence ↔ e ∈ events ∧ e.time = time ∧ e.sequence = sequence := by
  rw [tied, List.mem_filter, standsAt_iff]

theorem tied_cons_here {time : Time.Instant} {sequence : Int} {e : Event}
    (here : e.standsAt time sequence = true) (rest : List Event) :
    tied (e :: rest) time sequence = e :: tied rest time sequence :=
  List.filter_cons_of_pos here

theorem tied_cons_elsewhere {time : Time.Instant} {sequence : Int} {e : Event}
    (elsewhere : ¬e.standsAt time sequence = true) (rest : List Event) :
    tied (e :: rest) time sequence = tied rest time sequence :=
  List.filter_cons_of_neg elsewhere

theorem tied_append (first second : List Event) (time : Time.Instant) (sequence : Int) :
    tied (first ++ second) time sequence = tied first time sequence ++ tied second time sequence :=
  List.filter_append first second

/-- An event apart from all others may come before them or behind them. -/
theorem tied_cons_eq_concat {e : Event} {others : List Event}
    (apart : ∀ other ∈ others, ¬other.standsAt e.time e.sequence = true) (time : Time.Instant)
    (sequence : Int) : tied (e :: others) time sequence = tied (others ++ [e]) time sequence := by
  rw [tied_append]
  by_cases here : e.standsAt time sequence = true
  · obtain ⟨rfl, rfl⟩ := standsAt_iff.mp here
    have alone : tied others e.time e.sequence = [] := List.filter_eq_nil_iff.mpr apart
    rw [tied_cons_here here, tied_cons_here here, alone]
    rfl
  · rw [tied_cons_elsewhere here, tied_cons_elsewhere here]
    exact (List.append_nil _).symm

/-- Lists that agree on the events of every time and sequence have the same events. -/
theorem mem_iff_of_tied {first second : List Event}
    (agree : ∀ time sequence, tied first time sequence = tied second time sequence) (e : Event) :
    e ∈ first ↔ e ∈ second := by
  have here := congrArg (e ∈ ·) (agree e.time e.sequence)
  simpa only [mem_tied, and_true, eq_iff_iff] using here

theorem tied_of_cons {a : Event} {first second : List Event}
    (agree : ∀ time sequence, tied (a :: first) time sequence = tied (a :: second) time sequence)
    (time : Time.Instant) (sequence : Int) :
    tied first time sequence = tied second time sequence := by
  have there := agree time sequence
  by_cases here : a.standsAt time sequence = true
  · rw [tied_cons_here here, tied_cons_here here] at there
    exact (List.cons.inj there).2
  · rwa [tied_cons_elsewhere here, tied_cons_elsewhere here] at there

theorem inOrder_iff {a b : Event} :
    a.inOrder b = true ↔ a.time.microseconds < b.time.microseconds ∨
      a.time.microseconds = b.time.microseconds ∧ a.sequence ≤ b.sequence := by
  simp only [inOrder, Bool.or_eq_true, Bool.and_eq_true, decide_eq_true_eq, beq_iff_eq,
    Time.Instant.eq_iff]
  rfl

theorem inOrder_trans (a b c : Event) (first : a.inOrder b = true) (second : b.inOrder c = true) :
    a.inOrder c = true := by
  rw [inOrder_iff] at first second ⊢
  omega

theorem inOrder_total (a b : Event) : (a.inOrder b || b.inOrder a) = true := by
  rw [Bool.or_eq_true, inOrder_iff, inOrder_iff]
  omega

/-- Events in order either way have the same time and sequence. -/
theorem standsAt_of_inOrder {a b : Event} (forward : a.inOrder b = true)
    (backward : b.inOrder a = true) : b.standsAt a.time a.sequence = true := by
  rw [inOrder_iff] at forward backward
  have sameTime : b.time.microseconds = a.time.microseconds := by omega
  have sameSequence : b.sequence = a.sequence := by omega
  rw [standsAt_iff]
  exact ⟨Time.Instant.eq_iff.mpr sameTime, sameSequence⟩

theorem sort_ordered (events : List Event) :
    (sort events).Pairwise fun a b => a.inOrder b = true :=
  List.pairwise_mergeSort inOrder_trans inOrder_total events

/-- Events of equal time and sequence stay as they came. -/
theorem tied_sort (events : List Event) (time : Time.Instant) (sequence : Int) :
    tied (sort events) time sequence = tied events time sequence := by
  have ordered : (tied events time sequence).Pairwise fun a b => a.inOrder b = true := by
    refine List.pairwise_of_forall_mem_list fun a memberA b memberB => ?_
    obtain ⟨-, timeA, sequenceA⟩ := mem_tied.mp memberA
    obtain ⟨-, timeB, sequenceB⟩ := mem_tied.mp memberB
    rw [inOrder_iff, timeA, timeB, sequenceA, sequenceB]
    omega
  -- They are in order already, so a stable sort keeps them as a part, and it has no others.
  have kept : (tied events time sequence).Sublist (sort events) :=
    List.sublist_mergeSort inOrder_trans inOrder_total ordered List.filter_sublist
  have part := kept.filter (standsAt time sequence)
  rw [tied, List.filter_filter] at part
  simp only [Bool.and_self] at part
  have counted := ((sort_perm events).filter (standsAt time sequence)).length_eq
  exact (part.eq_of_length counted.symm).symm

/-- The first of some events in order is in order before all of them. -/
theorem inOrder_of_mem {a e : Event} {rest : List Event}
    (ordered : (a :: rest).Pairwise fun a b => a.inOrder b = true) (member : e ∈ a :: rest) :
    a.inOrder e = true := by
  rcases List.mem_cons.mp member with rfl | later
  · rw [inOrder_iff]
    omega
  · exact List.rel_of_pairwise_cons ordered later

/-- Ordered lists that agree on the events of every time and sequence are the same: their first
events are in order either way, so they are the first ones of the same time and sequence. -/
theorem eq_of_tied {first second : List Event}
    (ordered : first.Pairwise fun a b => a.inOrder b = true)
    (orderedSecond : second.Pairwise fun a b => a.inOrder b = true)
    (agree : ∀ time sequence, tied first time sequence = tied second time sequence) :
    first = second := by
  have members := mem_iff_of_tied agree
  induction first generalizing second with
  | nil =>
    refine (List.eq_nil_iff_forall_not_mem.mpr fun e member => ?_).symm
    exact List.not_mem_nil ((members e).mpr member)
  | cons a rest ih =>
    cases second with
    | nil => exact absurd ((members a).mp List.mem_cons_self) List.not_mem_nil
    | cons b others =>
      have forward := inOrder_of_mem ordered ((members b).mpr List.mem_cons_self)
      have backward := inOrder_of_mem orderedSecond ((members a).mp List.mem_cons_self)
      have same : a = b := by
        have here := agree a.time a.sequence
        rw [tied_cons_here (standsAt_self a),
          tied_cons_here (standsAt_of_inOrder forward backward)] at here
        exact (List.cons.inj here).1
      subst same
      have agreeRest := tied_of_cons agree
      exact congrArg (a :: ·)
        (ih ordered.tail orderedSecond.tail agreeRest (mem_iff_of_tied agreeRest))

theorem sort_eq_iff {first second : List Event} :
    sort first = sort second ↔
      ∀ time sequence, tied first time sequence = tied second time sequence := by
  constructor
  · intro same time sequence
    rw [← tied_sort first, ← tied_sort second, same]
  · intro agree
    refine eq_of_tied (sort_ordered first) (sort_ordered second) fun time sequence => ?_
    rw [tied_sort, tied_sort, agree]

/-- Leaving events out disturbs neither their order nor that of equal ones. -/
theorem sort_filter (events : List Event) (test : Event → Bool) :
    sort (events.filter test) = (sort events).filter test := by
  have part : ∀ (l : List Event) (time : Time.Instant) (sequence : Int),
      tied (l.filter test) time sequence = (tied l time sequence).filter test :=
    fun _ _ _ => List.filter_comm _ _ _
  refine eq_of_tied (sort_ordered _) ((sort_ordered events).filter test) fun time sequence => ?_
  rw [tied_sort, part, part, tied_sort]

/-- Events that come later do not tell apart what is sorted alike. -/
theorem sort_append_congr {first second : List Event} (same : sort first = sort second)
    (more : List Event) : sort (first ++ more) = sort (second ++ more) := by
  rw [sort_eq_iff] at same ⊢
  intro time sequence
  rw [tied_append, tied_append, same]

end Event

end EnrollmentDiagnosis
