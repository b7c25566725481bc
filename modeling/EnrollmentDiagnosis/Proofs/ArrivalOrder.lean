import EnrollmentDiagnosis.Proofs.AlikeDeployments
import EnrollmentDiagnosis.Proofs.LateEvents

set_option autoImplicit false

namespace EnrollmentDiagnosis

namespace Analysis

/-- Only the canonical order of the events matters. -/
theorem analyze_of_sort {events arranged : List Event}
    (same : Event.sort events = Event.sort arranged) (engine : Engine) (rules : List Rule)
    (evaluated : List String) :
    analyze engine rules events evaluated = analyze engine rules arranged evaluated := by
  have counted : events.length = arranged.length := by
    rw [← (Event.sort_perm events).length_eq, ← (Event.sort_perm arranged).length_eq, same]
  by_cases empty : events = []
  · subst empty
    rw [List.length_eq_zero_iff.mp counted.symm]
  · have nonempty : arranged ≠ [] := by
      rintro rfl
      exact empty (List.length_eq_zero_iff.mp counted)
    rw [analyze_of_nonempty empty, analyze_of_nonempty nonempty, same]

end Analysis

namespace Deployment

/-- Requests that add batches of events leave all else as it was. -/
theorem serveAll_addEvents {requests : List Request} {batches : List (List Event)}
    (delivers : requests.map (·.operation) = batches.map .addEvents) (state : Deployment) :
    ∃ stampFor, state.serveAll requests =
      { state.withStamps stampFor with events := state.events.add batches.flatten } := by
  induction requests generalizing batches state with
  | nil =>
    cases batches with
    | nil =>
      refine ⟨state.engine.stampFor, ?_⟩
      simp only [serveAll, List.foldl_nil, withStamps, Analysis.Engine.withStamps, EventStore.add,
        List.flatten_nil, List.append_nil]
    | cons batch rest => cases delivers
  | cons request later ih =>
    cases batches with
    | nil => cases delivers
    | cons batch rest =>
      obtain ⟨adds, deliversLater⟩ := List.cons.inj delivers
      obtain ⟨stampFor, after⟩ := ih deliversLater (state.serve request).state
      refine ⟨stampFor, after.trans ?_⟩
      simp only [serve, adds, perform, changed, withStamps, Analysis.Engine.withStamps,
        EventStore.add, List.flatten_cons, List.append_assoc]

/-- Deliveries that agree on the session's events of every time and sequence leave deployments
between which the session cannot tell. -/
theorem serveAll_addEvents_alike {first second : List Request} {batches others : List (List Event)}
    (delivers : first.map (·.operation) = batches.map .addEvents)
    (deliversOther : second.map (·.operation) = others.map .addEvents) {tenant session : String}
    (agree : ∀ time sequence,
      Event.tied (batches.flatten.filter (·.isOf tenant session)) time sequence =
        Event.tied (others.flatten.filter (·.isOf tenant session)) time sequence)
    (state : Deployment) :
    (state.serveAll first).Alike tenant session (state.serveAll second) := by
  obtain ⟨stampFor, after⟩ := serveAll_addEvents delivers state
  obtain ⟨stampForOther, afterOther⟩ := serveAll_addEvents deliversOther state
  rw [after, afterOther]
  have read : (state.events.add batches.flatten).sessionEvents tenant session =
      (state.events.add others.flatten).sessionEvents tenant session :=
    EventStore.sessionEvents_add_congr rfl (Event.sort_eq_iff.mpr agree)
  exact { Alike.refl tenant session state with events := read }

/-- Two deliveries of a session's events, in batches and in an order of their own, are analyzed
alike if they agree on the events of every time and sequence, which makes them deliver the same
events. So are two lists of events. -/
theorem arrival_order_irrelevant :
    (∀ (state : Deployment) (tenant session : String) (first second : List Request)
      (batches others : List (List Event)),
      first.map (·.operation) = batches.map .addEvents →
      second.map (·.operation) = others.map .addEvents →
      (∀ time sequence, Event.tied (batches.flatten.filter (·.isOf tenant session)) time sequence =
        Event.tied (others.flatten.filter (·.isOf tenant session)) time sequence) →
      ∀ (persist : Bool) (request other : Request),
        request.operation = .analyze tenant session persist →
        other.operation = .analyze tenant session persist →
        ((state.serveAll first).serve request).answer =
          ((state.serveAll second).serve other).answer) ∧
    (∀ (engine : Analysis.Engine) (stampFor : String → Stamp) (rules : List Rule)
      (events arranged : List Event) (evaluated : List String),
      (∀ time sequence, Event.tied events time sequence = Event.tied arranged time sequence) →
      (Analysis.analyze engine rules events evaluated).map Diagnosis.unstamped =
        (Analysis.analyze (engine.withStamps stampFor) rules arranged evaluated).map
          Diagnosis.unstamped) := by
  constructor
  · intro state tenant session first second batches others delivers deliversOther agree persist
      request other isAnalysis isOther
    have alike := serveAll_addEvents_alike delivers deliversOther agree state
    have stamped := (withStamps_alike _ request.stampFor tenant session).trans
      (alike.trans (withStamps_alike _ other.stampFor tenant session).symm)
    rw [serve, serve, isAnalysis, isOther]
    exact (stamped.analyze request.elapsed other.elapsed persist).answer
  · intro engine stampFor rules events arranged evaluated agree
    rw [Analysis.analyze_unstamped,
      Analysis.analyze_of_sort (Event.sort_eq_iff.mpr agree) engine rules evaluated]

/-- A deployment with a rule about stalls. -/
def stalled : Deployment where
  engine := ⟨Condition.evaluator default, fun _ => default⟩
  maxEvents := 0
  rules := .memory (.ofGlobal [Analysis.stallRule])
  files := []
  events := .empty
  diagnoses := .empty
  eventOutage := none
  diagnosisOutage := none
  isStale := false

def namedStall (id : String) (sequence : Int) : Event :=
  { Analysis.stall sequence with id := id }

def delivery (batches : List (List Event)) : List Request :=
  batches.map fun batch => ⟨"", fun _ => default, .addEvents batch⟩

def stallAnalysis : Request := ⟨"", fun _ => default, .analyze "" "" true⟩

/-- The last of three stalls first, in one batch. -/
def lastFirst : List (List Event) := [[namedStall "c" 2, namedStall "a" 1, namedStall "b" 1]]

/-- The same stalls in two batches, the last one last. -/
def lastLast : List (List Event) := [[namedStall "a" 1], [namedStall "b" 1, namedStall "c" 2]]

theorem stalls_tied_alike (time : Time.Instant) (sequence : Int) :
    Event.tied lastFirst.flatten time sequence = Event.tied lastLast.flatten time sequence :=
  Event.tied_cons_eq_concat (by decide) time sequence

/-- Two stalls of equal time and sequence and one behind them are analyzed alike in either
delivery, and in either order. -/
theorem stalls_analyzed_alike :
    (∀ time sequence,
      Event.tied lastFirst.flatten time sequence = Event.tied lastLast.flatten time sequence) ∧
      ((stalled.serveAll (delivery lastFirst)).serve stallAnalysis).answer =
        ((stalled.serveAll (delivery lastLast)).serve stallAnalysis).answer ∧
      (Analysis.analyze stalled.engine [Analysis.stallRule] lastFirst.flatten []).map
          Diagnosis.unstamped =
        (Analysis.analyze (stalled.engine.withStamps fun _ => ⟨"other", default⟩)
          [Analysis.stallRule] lastLast.flatten []).map Diagnosis.unstamped :=
  ⟨stalls_tied_alike,
    arrival_order_irrelevant.1 stalled "" "" (delivery lastFirst) (delivery lastLast) lastFirst
      lastLast rfl rfl stalls_tied_alike true stallAnalysis stallAnalysis rfl rfl,
    arrival_order_irrelevant.2 stalled.engine _ _ lastFirst.flatten lastLast.flatten []
      stalls_tied_alike⟩

end Deployment

end EnrollmentDiagnosis
