import EnrollmentDiagnosis.SessionAnalysis
import Mathlib.Logic.Function.Iterate

set_option autoImplicit false

namespace EnrollmentDiagnosis.Concurrent

open SessionAnalysis

/-- Who analyzes which session, and how. -/
structure Caller where
  tenant : String
  session : String
  engine : Analysis.Engine

/-- How far a call has come. -/
inductive Stage where
  | begun
  | rulesRead (rules : List Rule)
  | eventsRead (rules : List Rule) (events : List Event)
  | diagnosesRead (material : Material)
  /-- The diagnoses that are still to be stored, and those that were stored. -/
  | storing (pending stored : List Diagnosis)
  | finished (result : Except SessionError (List Diagnosis))

structure Call extends Caller where
  stage : Stage

/-- What the rules and the events of a session are read as at some moment. -/
structure View where
  rules : Except ReadFailure (List Rule)
  events : Except ReadFailure (List Event)

namespace Call

def begin (caller : Caller) : Call := ⟨caller, .begun⟩

def withStage (call : Call) (stage : Stage) : Call := { call with stage := stage }

/-- The call with a read that failed. -/
def failed (call : Call) (source : String) (failure : ReadFailure) : Call :=
  call.withStage (.finished (.error (.fetch (failure.reported source call.tenant call.session))))

/-- One step of a call. Diagnoses are read from the store as it is, and stored one at a time. -/
def advance (call : Call) (view : View) (store : DiagnosisStore) : Call × DiagnosisStore :=
  match call.stage with
  | .begun =>
    match view.rules with
    | .error failure => (call.failed "rules" failure, store)
    | .ok rules => (call.withStage (.rulesRead rules), store)
  | .rulesRead rules =>
    match view.events with
    | .error failure => (call.failed "events" failure, store)
    | .ok [] => (call.withStage (.finished (.ok [])), store)
    | .ok (first :: rest) => (call.withStage (.eventsRead rules (first :: rest)), store)
  | .eventsRead rules events =>
    let diagnoses := store.ofSession call.tenant call.session
    (call.withStage (.diagnosesRead ⟨rules, events, evaluatedRules diagnoses⟩), store)
  | .diagnosesRead material =>
    (call.withStage (.storing (diagnose call.engine material call.tenant call.session) []), store)
  | .storing [] stored => (call.withStage (.finished (.ok stored)), store)
  | .storing (d :: rest) stored =>
    let (store, inserted) := store.insert d
    (call.withStage (.storing rest (if inserted then stored ++ [d] else stored)), store)
  | .finished _ => (call, store)

/-- A step of a call that is left alone with the store. -/
def step (view : View) (alone : Call × DiagnosisStore) : Call × DiagnosisStore :=
  alone.1.advance view alone.2

theorem storing_alone (call : Call) (view : View) (pending stored : List Diagnosis)
    (store : DiagnosisStore) :
    (step view)^[pending.length + 1] (call.withStage (.storing pending stored), store) =
      (call.withStage (.finished (.ok (stored ++ (store.insertAll pending).2))),
        (store.insertAll pending).1) := by
  induction pending generalizing stored store with
  | nil => simp only [List.length_nil, Nat.zero_add, Function.iterate_one, step, advance, withStage,
      DiagnosisStore.insertAll, List.append_nil]
  | cons d rest ih =>
    rw [List.length_cons, Function.iterate_succ_apply]
    have next := ih (if (store.insert d).2 then stored ++ [d] else stored) (store.insert d).1
    simp only [step, advance, withStage] at next ⊢
    rw [next]
    simp only [DiagnosisStore.insertAll]
    split <;> simp only [List.append_assoc, List.singleton_append]

/-- The reads of a call that is left alone. -/
def readsAlone (caller : Caller) (view : View) (store : DiagnosisStore) : Reads :=
  ⟨some view.rules, some view.events, some (.ok (store.ofSession caller.tenant caller.session))⟩

theorem step_begin (caller : Caller) {view : View} {rules : List Rule}
    (rulesRead : view.rules = .ok rules) (store : DiagnosisStore) :
    step view (begin caller, store) = ((begin caller).withStage (.rulesRead rules), store) := by
  simp only [step, begin, advance, rulesRead]

/-- After its reads a call has found what there is to store. -/
theorem reads_alone (caller : Caller) {view : View} {rules : List Rule} {event : Event}
    {rest : List Event} (rulesRead : view.rules = .ok rules)
    (eventsRead : view.events = .ok (event :: rest)) (store : DiagnosisStore) :
    (step view)^[4] (begin caller, store) =
      ((begin caller).withStage (.storing (diagnose caller.engine ⟨rules, event :: rest,
        evaluatedRules (store.ofSession caller.tenant caller.session)⟩ caller.tenant
          caller.session) []), store) := by
  simp only [Function.iterate_succ_apply, Function.iterate_zero_apply,
    step_begin caller rulesRead]
  simp only [step, begin, advance, eventsRead, withStage]

/-- A call left alone finishes with the result of the analysis, and leaves what it stores. -/
theorem alone_eq_run (caller : Caller) (view : View) (store : DiagnosisStore) :
    ∃ steps, (step view)^[steps] (begin caller, store) =
      let (result, after) := run caller.engine (readsAlone caller view store) store caller.tenant
        caller.session true
      ((begin caller).withStage (.finished result), after) := by
  simp only [run, readsAlone, Reads.material, gather]
  cases rulesRead : view.rules with
  | error failure =>
    refine ⟨1, ?_⟩
    simp only [Function.iterate_one, step, begin, advance, rulesRead, failed, withStage]
    rfl
  | ok rules =>
    have first := step_begin caller rulesRead store
    cases eventsRead : view.events with
    | error failure =>
      refine ⟨2, ?_⟩
      simp only [Function.iterate_succ_apply, Function.iterate_zero_apply, first]
      simp only [step, begin, advance, eventsRead, failed, withStage]
      rfl
    | ok events =>
      cases events with
      | nil =>
        refine ⟨2, ?_⟩
        simp only [Function.iterate_succ_apply, Function.iterate_zero_apply, first]
        simp only [step, begin, advance, eventsRead, withStage]
        rfl
      | cons event rest =>
        refine ⟨(diagnose caller.engine ⟨rules, event :: rest, evaluatedRules
          (store.ofSession caller.tenant caller.session)⟩ caller.tenant caller.session).length
            + 1 + 4, ?_⟩
        rw [Function.iterate_add_apply, reads_alone caller rulesRead eventsRead, storing_alone,
          List.nil_append]
        rfl

end Call

end EnrollmentDiagnosis.Concurrent
