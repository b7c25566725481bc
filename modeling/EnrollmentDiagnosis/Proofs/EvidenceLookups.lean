import EnrollmentDiagnosis.Proofs.NamedEntries
import EnrollmentDiagnosis.Proofs.ScoringMarks

set_option autoImplicit false

namespace EnrollmentDiagnosis

theorem findSome?_congr_of_mem {α β : Type} {f g : α → Option β} {l : List α}
    (agree : ∀ a ∈ l, f a = g a) : l.findSome? f = l.findSome? g := by
  rw [← List.head?_filterMap, List.filterMap_congr agree, List.head?_filterMap]

theorem findSome?_filterMap_eq_bind {α β γ : Type} (f : α → Option β) (g : β → Option γ)
    (l : List α) : (l.filterMap f).findSome? g = l.findSome? fun a => (f a).bind g := by
  rw [← List.head?_filterMap, List.filterMap_filterMap, List.head?_filterMap]

namespace MatchedEvidence

variable {m : MatchedEvidence}

theorem signals_put_of_taken {signal : String} (taken : signal ∈ m.signals)
    (evidence : Evidence) : (m.put signal evidence).signals = m.signals := by
  induction m with
  | nil => cases taken
  | cons entry rest ih =>
    unfold put
    split
    · rfl
    · rename_i other
      have later : signal ∈ signals rest := (List.mem_cons.mp taken).resolve_left (Ne.symm other)
      exact congrArg (entry.1 :: ·) (ih later)

theorem put_eq (m : MatchedEvidence) (signal : String) (evidence : Evidence) :
    m.put signal evidence = Entries.put m signal evidence := by
  induction m with
  | nil => rfl
  | cons first rest ih => rw [put, Entries.put, ih]

theorem putAll_eq (m : MatchedEvidence) (entries : List (String × Evidence)) :
    m.putAll entries = Entries.putAll m entries := by
  unfold putAll Entries.putAll
  simp only [put_eq]

/-- Under each signal stands the last evidence that was set. -/
theorem lookup_putAll (m : MatchedEvidence) (entries : List (String × Evidence)) (s : String) :
    (m.putAll entries).lookup s = (entries.reverse.lookup s).or (m.lookup s) := by
  rw [putAll_eq, Entries.lookup_putAll]

section FirstFound

variable {β : Type}

theorem findSome?_signals_put (g : String → Option β) (signal : String) (evidence : Evidence) :
    (m.put signal evidence).signals.findSome? g = (m.signals ++ [signal]).findSome? g := by
  by_cases taken : signal ∈ m.signals
  · rw [signals_put_of_taken taken, List.findSome?_append]
    cases found : m.signals.findSome? g with
    | some b => rfl
    | none =>
      have here : g signal = none := List.findSome?_eq_none_iff.mp found signal taken
      simp [here]
  · rw [put_of_fresh taken]
    exact congrArg (List.findSome? g) List.map_append

/-- Setting evidence again adds no signal, so it does not change which one is found first. -/
theorem findSome?_signals_putAll (g : String → Option β) (entries : List (String × Evidence)) :
    (m.putAll entries).signals.findSome? g =
      (m.signals ++ entries.map Prod.fst).findSome? g := by
  induction entries generalizing m with
  | nil => rw [List.map_nil, List.append_nil]; rfl
  | cons entry rest ih =>
    have step : m.putAll (entry :: rest) = putAll (m.put entry.1 entry.2) rest := rfl
    rw [step, ih, List.findSome?_append, findSome?_signals_put, ← List.findSome?_append,
      List.append_assoc]
    rfl

theorem lookup_of_mem (keyed : m.signals.Nodup) {entry : String × Evidence} (member : entry ∈ m) :
    m.lookup entry.1 = some entry.2 := by
  induction m with
  | nil => cases member
  | cons first rest ih =>
    obtain ⟨alone, keyedRest⟩ := List.nodup_cons.mp keyed
    rcases List.mem_cons.mp member with rfl | later
    · rw [Entries.lookup_cons_eq, if_pos rfl]
    · have other : entry.1 ≠ first.1 := fun same => alone (same ▸ List.mem_map_of_mem later)
      rw [Entries.lookup_cons_eq, if_neg other, ih keyedRest later]

theorem findSome?_eq_findSome?_signals (keyed : m.signals.Nodup) (f : Evidence → Option β) :
    m.findSome? (fun entry => f entry.2) =
      m.signals.findSome? fun signal => (m.lookup signal).bind f := by
  rw [signals, List.findSome?_map]
  refine findSome?_congr_of_mem fun entry member => ?_
  rw [Function.comp_apply, lookup_of_mem keyed member]
  rfl

/-- What is found first in evidence is what is found first in the order in which it was set, if for
each signal only the last evidence is looked at. -/
theorem findSome?_putAll (f : Evidence → Option β) (entries : List (String × Evidence)) :
    (putAll [] entries).findSome? (fun entry => f entry.2) =
      entries.findSome? fun entry => (entries.reverse.lookup entry.1).bind f := by
  have keyed : (putAll [] entries).signals.Nodup := putAll_keyed nil_keyed entries
  have last : ∀ signal, (putAll [] entries).lookup signal = entries.reverse.lookup signal := by
    intro signal
    rw [lookup_putAll, List.lookup_nil, Option.or_none]
  rw [findSome?_eq_findSome?_signals keyed, findSome?_signals_putAll]
  simp only [last, signals, List.map_nil, List.nil_append, List.findSome?_map]
  rfl

end FirstFound

end MatchedEvidence

end EnrollmentDiagnosis
