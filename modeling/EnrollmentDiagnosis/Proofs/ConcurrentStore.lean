import EnrollmentDiagnosis.Proofs.AnalysisLoop
import EnrollmentDiagnosis.Proofs.ConcurrentCalls
import EnrollmentDiagnosis.Proofs.SessionDiagnoses

set_option autoImplicit false

namespace EnrollmentDiagnosis.Concurrent

open SessionAnalysis

namespace Call

/-- The diagnoses that a call has still to store. -/
def pending (call : Call) : List Diagnosis :=
  match call.stage with
  | .storing pending _ => pending
  | _ => []

/-- The diagnoses that a call has stored. -/
def stored (call : Call) : List Diagnosis :=
  match call.stage with
  | .storing _ stored => stored
  | .finished (.ok stored) => stored
  | _ => []

/-- The diagnoses that a call returns; none before it does, or when it fails. -/
def answer (call : Call) : List Diagnosis :=
  match call.stage with
  | .finished (.ok diagnoses) => diagnoses
  | _ => []

/-- True for a call that has returned or failed. -/
def isFinished (call : Call) : Bool :=
  match call.stage with
  | .finished _ => true
  | _ => false

/-- All diagnoses of a call are of its session. -/
def Addressed (call : Call) : Prop :=
  ∀ d ∈ call.pending ++ call.stored, d.tenant = call.tenant ∧ d.session = call.session

theorem answer_of_finished {call : Call} (finished : call.isFinished = true) :
    call.answer = call.stored := by
  unfold isFinished at finished
  split at finished
  · rename_i result stage
    cases result <;> simp only [answer, stored, stage]
  · cases finished

theorem addressed_of_empty {call : Call} (pending : call.pending = []) (stored : call.stored = []) :
    call.Addressed := by
  intro d member
  rw [pending, stored] at member
  cases member

theorem addressed_diagnose (call : Call) (material : Material) :
    (call.withStage (.storing (diagnose call.engine material call.tenant call.session)
      [])).Addressed := by
  intro d member
  simp only [pending, stored, withStage, List.append_nil] at member
  exact mem_diagnose member

/-- A step of a call that adds the same diagnoses to the store and to those that it has stored. -/
structure Steps (call next : Call) (store after : DiagnosisStore) (added : List Diagnosis) :
    Prop where
  caller : next.toCaller = call.toCaller
  addressed : next.Addressed
  stored : next.stored = call.stored ++ added
  keyed : after.Keyed
  grown : after.diagnoses = store.diagnoses ++ added

theorem Steps.of_same {call next : Call} {store : DiagnosisStore} (keyed : store.Keyed)
    (caller : next.toCaller = call.toCaller) (addressed : next.Addressed)
    (stored : next.stored = call.stored) : Steps call next store store [] :=
  ⟨caller, addressed, by rw [stored, List.append_nil], keyed, (List.append_nil _).symm⟩

/-- A step of a call that has stored nothing, and has nothing to store then. -/
theorem steps_of_empty {call : Call} {stage : Stage} {store : DiagnosisStore}
    (keyed : store.Keyed) (before : call.stored = [])
    (pending : (call.withStage stage).pending = []) (stored : (call.withStage stage).stored = []) :
    ∃ added, Steps call (call.withStage stage) store store added :=
  ⟨[], .of_same keyed rfl (addressed_of_empty pending stored) (stored.trans before.symm)⟩

/-- A call that has something to store either finds its key taken, or stores it. -/
theorem storing_steps {call : Call} {d : Diagnosis} {rest kept : List Diagnosis}
    (stage : call.stage = .storing (d :: rest) kept) (addressed : call.Addressed) (view : View)
    {store : DiagnosisStore} (keyed : store.Keyed) :
    ∃ added, Steps call (call.advance view store).1 store (call.advance view store).2 added := by
  have all_stored : call.stored = kept := by simp only [stored, stage]
  simp only [Addressed, pending, stored, stage] at addressed
  have others : ∀ e ∈ rest ++ kept, e.tenant = call.tenant ∧ e.session = call.session :=
    fun e member => addressed e (List.mem_cons_of_mem _ member)
  simp only [advance, stage]
  by_cases taken : d.key ∈ store.keys
  · simp only [DiagnosisStore.insert_of_taken taken, Bool.false_eq_true, ↓reduceIte]
    exact ⟨[], .of_same keyed rfl others all_stored.symm⟩
  · have grown := DiagnosisStore.insert_keyed keyed d
    simp only [DiagnosisStore.insert_of_fresh taken, ↓reduceIte] at grown ⊢
    refine ⟨[d], rfl, fun e member => ?_, ?_, grown, rfl⟩
    · simp only [pending, stored, withStage, ← List.append_assoc, List.mem_append,
        List.mem_singleton] at member
      rcases member with other | rfl
      · exact others e (List.mem_append.mpr other)
      · exact addressed e List.mem_cons_self
    · rw [all_stored]
      rfl

theorem advance_steps (call : Call) (view : View) (store : DiagnosisStore)
    (addressed : call.Addressed) (keyed : store.Keyed) :
    ∃ added, Steps call (call.advance view store).1 store (call.advance view store).2 added := by
  cases stage : call.stage with
  | begun =>
    have none_stored : call.stored = [] := by simp only [stored, stage]
    simp only [advance, stage]
    split
    · exact steps_of_empty keyed none_stored rfl rfl
    · exact steps_of_empty keyed none_stored rfl rfl
  | rulesRead rules =>
    have none_stored : call.stored = [] := by simp only [stored, stage]
    simp only [advance, stage]
    split
    · exact steps_of_empty keyed none_stored rfl rfl
    · exact steps_of_empty keyed none_stored rfl rfl
    · exact steps_of_empty keyed none_stored rfl rfl
  | eventsRead rules events =>
    have none_stored : call.stored = [] := by simp only [stored, stage]
    simp only [advance, stage]
    exact steps_of_empty keyed none_stored rfl rfl
  | diagnosesRead material =>
    have none_stored : call.stored = [] := by simp only [stored, stage]
    simp only [advance, stage]
    exact ⟨[], .of_same keyed rfl (addressed_diagnose call material) none_stored.symm⟩
  | storing waiting kept =>
    cases waiting with
    | nil =>
      simp only [Addressed, pending, stored, stage] at addressed
      have all_stored : call.stored = kept := by simp only [stored, stage]
      simp only [advance, stage]
      exact ⟨[], .of_same keyed rfl addressed all_stored.symm⟩
    | cons d rest => exact storing_steps stage addressed view keyed
  | finished result =>
    simp only [advance, stage]
    exact ⟨[], .of_same keyed rfl addressed rfl⟩

end Call

/-- Calls in progress, and the store that they share. -/
structure World where
  calls : List Call
  store : DiagnosisStore

/-- The call whose turn it is, and what its rules and events are read as at that moment. -/
structure Turn where
  call : Nat
  view : View

namespace World

def start (callers : List Caller) (store : DiagnosisStore) : World :=
  ⟨callers.map Call.begin, store⟩

def step (world : World) (turn : Turn) : World :=
  match world.calls[turn.call]? with
  | none => world
  | some call =>
    let (next, store) := call.advance turn.view world.store
    ⟨world.calls.set turn.call next, store⟩

/-- The world after turns in any order. -/
def run (world : World) (schedule : List Turn) : World := schedule.foldl step world

def isFinished (world : World) : Bool := world.calls.all Call.isFinished

/-- What the call at a position returns. -/
def answer (world : World) (index : Nat) : List Diagnosis :=
  (world.calls[index]?.map Call.answer).getD []

/-- The store holds what it held at first and what the calls have stored, each key once. -/
structure Sound (callers : List Caller) (initial : DiagnosisStore) (world : World) : Prop where
  callers : world.calls.map Call.toCaller = callers
  addressed : ∀ call ∈ world.calls, call.Addressed
  keyed : world.store.Keyed
  accounted : world.store.diagnoses.Perm
    (initial.diagnoses ++ world.calls.flatMap Call.stored)

theorem start_sound (callers : List Caller) {initial : DiagnosisStore} (keyed : initial.Keyed) :
    (start callers initial).Sound callers initial := by
  have nothing : (start callers initial).calls.flatMap Call.stored = [] := by
    simp only [start, List.flatMap_eq_nil_iff, List.mem_map]
    rintro call ⟨caller, _, rfl⟩
    rfl
  refine ⟨?_, ?_, keyed, ?_⟩
  · simp only [start, List.map_map]
    exact List.map_id _
  · intro call member
    obtain ⟨caller, _, rfl⟩ := List.mem_map.mp member
    exact Call.addressed_of_empty rfl rfl
  · rw [nothing, List.append_nil]
    rfl

theorem set_callers {calls : List Call} {index : Nat} {call next : Call}
    (present : calls[index]? = some call) (caller : next.toCaller = call.toCaller) :
    (calls.set index next).map Call.toCaller = calls.map Call.toCaller := by
  induction calls generalizing index with
  | nil => rfl
  | cons first rest ih =>
    cases index with
    | zero =>
      cases present
      simp only [List.set_cons_zero, List.map_cons, caller]
    | succ index =>
      simp only [List.set_cons_succ, List.map_cons, ih present]

theorem set_stored_perm {calls : List Call} {index : Nat} {call next : Call}
    {added : List Diagnosis} (present : calls[index]? = some call)
    (grown : next.stored = call.stored ++ added) :
    ((calls.set index next).flatMap Call.stored).Perm (calls.flatMap Call.stored ++ added) := by
  induction calls generalizing index with
  | nil => cases present
  | cons first rest ih =>
    cases index with
    | zero =>
      cases present
      simp only [List.set_cons_zero, List.flatMap_cons, grown, List.append_assoc]
      exact List.Perm.append_left _ List.perm_append_comm
    | succ index =>
      simp only [List.set_cons_succ, List.flatMap_cons, List.append_assoc]
      exact List.Perm.append_left _ (ih present)

variable {callers : List Caller} {initial : DiagnosisStore} {world : World}

theorem step_sound (sound : world.Sound callers initial) (turn : Turn) :
    (world.step turn).Sound callers initial := by
  unfold step
  split
  · exact sound
  · rename_i call present
    have member := List.mem_of_getElem? present
    obtain ⟨added, steps⟩ := Call.advance_steps call turn.view world.store
      (sound.addressed call member) sound.keyed
    refine ⟨?_, ?_, steps.keyed, ?_⟩
    · exact (set_callers present steps.caller).trans sound.callers
    · intro other among
      rcases List.mem_or_eq_of_mem_set among with old | rfl
      · exact sound.addressed other old
      · exact steps.addressed
    · have stored := set_stored_perm present steps.stored
      have moved : (world.store.diagnoses ++ added).Perm
          (initial.diagnoses ++ (world.calls.flatMap Call.stored ++ added)) := by
        rw [← List.append_assoc]
        exact sound.accounted.append_right added
      exact (List.Perm.of_eq steps.grown).trans
        (moved.trans (stored.symm.append_left initial.diagnoses))

theorem step_extends (sound : world.Sound callers initial) (turn : Turn) :
    (world.step turn).store.Extends world.store := by
  unfold step
  split
  · exact DiagnosisStore.Extends.refl _
  · rename_i call present
    obtain ⟨added, steps⟩ := Call.advance_steps call turn.view world.store
      (sound.addressed call (List.mem_of_getElem? present)) sound.keyed
    exact ⟨added, steps.grown.symm⟩

/-- Whatever the order of the turns, the world stays sound and its store only grows. -/
theorem run_sound (sound : world.Sound callers initial) (schedule : List Turn) :
    (world.run schedule).Sound callers initial ∧
      (world.run schedule).store.Extends world.store := by
  induction schedule generalizing world with
  | nil => exact ⟨sound, DiagnosisStore.Extends.refl _⟩
  | cons turn rest ih =>
    obtain ⟨later, grown⟩ := ih (step_sound sound turn)
    exact ⟨later, grown.trans (step_extends sound turn)⟩

theorem run_append (world : World) (earlier later : List Turn) :
    world.run (earlier ++ later) = (world.run earlier).run later := List.foldl_append

/-- No key is stored by two calls, or was stored at first. -/
theorem Sound.keys_nodup (sound : world.Sound callers initial) :
    (initial.keys ++ world.calls.flatMap fun call => call.stored.map Diagnosis.key).Nodup := by
  have keys := (sound.accounted.map Diagnosis.key).nodup_iff.mp sound.keyed
  rwa [List.map_append, List.map_flatMap] at keys

theorem Sound.same_call (sound : world.Sound callers initial) {first second : Nat}
    {call other : Call} (present : world.calls[first]? = some call)
    (presentOther : world.calls[second]? = some other)
    {key : DiagnosisKey} (stored : key ∈ call.stored.map Diagnosis.key)
    (storedOther : key ∈ other.stored.map Diagnosis.key) : first = second := by
  have apart := (List.nodup_flatMap.mp (List.nodup_append.mp sound.keys_nodup).2.1).2
  have disjoint := List.pairwise_iff_getElem.mp apart
  obtain ⟨inside, rfl⟩ := List.getElem?_eq_some_iff.mp present
  obtain ⟨insideOther, rfl⟩ := List.getElem?_eq_some_iff.mp presentOther
  rcases Nat.lt_trichotomy first second with before | same | behind
  · exact absurd storedOther (disjoint first second inside insideOther before stored)
  · exact same
  · exact absurd stored (disjoint second first insideOther inside behind storedOther)

/-- A key that was not there at first was stored by a call. -/
theorem Sound.call_of_key (sound : world.Sound callers initial) {key : DiagnosisKey}
    (taken : key ∈ world.store.keys) (new : key ∉ initial.keys) :
    ∃ (index : Nat) (call : Call), world.calls[index]? = some call ∧
      key ∈ call.stored.map Diagnosis.key := by
  have among := (sound.accounted.map Diagnosis.key).mem_iff.mp taken
  rw [List.map_append, List.mem_append] at among
  have stored := among.resolve_left new
  rw [List.map_flatMap] at stored
  obtain ⟨call, member, keyOf⟩ := List.mem_flatMap.mp stored
  obtain ⟨index, present⟩ := List.mem_iff_getElem?.mp member
  exact ⟨index, call, present, keyOf⟩

/-- What a call has stored is new, and is what the store holds for its session. -/
theorem Sound.held (sound : world.Sound callers initial) {call : Call}
    (member : call ∈ world.calls) {d : Diagnosis} (stored : d ∈ call.stored) :
    d.key ∉ initial.keys ∧
      world.store.find? ⟨call.tenant, call.session, d.ruleId⟩ = some d := by
  constructor
  · intro old
    have apart := (List.nodup_append.mp sound.keys_nodup).2.2 d.key old d.key
    exact apart (List.mem_flatMap.mpr ⟨call, member, List.mem_map_of_mem stored⟩) rfl
  · have held := sound.accounted.mem_iff.mpr
      (List.mem_append_right _ (List.mem_flatMap.mpr ⟨call, member, stored⟩))
    obtain ⟨ofTenant, ofSession⟩ := sound.addressed call member d (List.mem_append_right _ stored)
    rw [← ofTenant, ← ofSession]
    exact (DiagnosisStore.find?_eq_some_iff sound.keyed d).mpr held

theorem Sound.caller_eq (sound : world.Sound callers initial) {index : Nat} {call : Call}
    {caller : Caller}
    (present : world.calls[index]? = some call) (called : callers[index]? = some caller) :
    call.toCaller = caller := by
  have there := congrArg (fun all : List Caller => all[index]?) sound.callers
  simpa only [List.getElem?_map, present, called, Option.map_some, Option.some.injEq] using there

theorem answer_of_finished (finished : world.isFinished = true) {index : Nat}
    {call : Call} (present : world.calls[index]? = some call) :
    world.answer index = call.stored := by
  simp only [answer, present, Option.map_some, Option.getD_some]
  exact Call.answer_of_finished (List.all_eq_true.mp finished call (List.mem_of_getElem? present))

/-- Where something is returned there is a call. -/
theorem call_of_answer {index : Nat} {d : Diagnosis}
    (returned : d ∈ world.answer index) : ∃ call, world.calls[index]? = some call := by
  cases present : world.calls[index]? with
  | none =>
    simp only [answer, present, Option.map_none, Option.getD_none] at returned
    cases returned
  | some call => exact ⟨call, rfl⟩

/-- In every order of the steps of any calls, the store keeps its keys distinct and what it holds.
When all calls have returned, every key that was added is in the answer of exactly one of them, and
everything that a call returns was added and is what the store holds for the session of the call. -/
theorem overlapping_calls_store_once (callers : List Caller) (initial : DiagnosisStore)
    (keyed : initial.Keyed) (schedule : List Turn) :
    (∀ earlier later : List Turn, schedule = earlier ++ later →
      ((start callers initial).run earlier).store.Keyed ∧
        ((start callers initial).run schedule).store.Extends
          ((start callers initial).run earlier).store) ∧
    (((start callers initial).run schedule).isFinished = true →
      (∀ key ∈ ((start callers initial).run schedule).store.keys, key ∉ initial.keys →
        ∃! index, key ∈ (((start callers initial).run schedule).answer index).map Diagnosis.key) ∧
      (∀ index caller, callers[index]? = some caller →
        ∀ d ∈ ((start callers initial).run schedule).answer index,
          d.key ∉ initial.keys ∧
            ((start callers initial).run schedule).store.find?
              ⟨caller.tenant, caller.session, d.ruleId⟩ = some d)) := by
  have sound := (run_sound (start_sound callers keyed) schedule).1
  refine ⟨?_, fun finished => ⟨?_, ?_⟩⟩
  · rintro earlier later rfl
    have between := (run_sound (start_sound callers keyed) earlier).1
    rw [run_append]
    exact ⟨between.keyed, (run_sound between later).2⟩
  · intro key taken new
    obtain ⟨index, call, present, keyOf⟩ := sound.call_of_key taken new
    refine ⟨index, ?_, ?_⟩
    · simp only [answer_of_finished finished present, keyOf]
    · intro other returned
      obtain ⟨d, ofOther, rfl⟩ := List.mem_map.mp returned
      obtain ⟨second, presentOther⟩ := call_of_answer ofOther
      rw [answer_of_finished finished presentOther] at ofOther
      exact sound.same_call presentOther present (List.mem_map_of_mem ofOther) keyOf
  · intro index caller called d returned
    obtain ⟨call, present⟩ := call_of_answer returned
    rw [answer_of_finished finished present] at returned
    rw [← sound.caller_eq present called]
    exact sound.held (List.mem_of_getElem? present) returned

/-- A caller whose first rule crashes, so that its second rule is not evaluated either. -/
def crashCaller : Caller := ⟨"t", "s", Analysis.crashingEngine⟩

/-- Turns of two calls, so that both have found a diagnosis before one of them stores it. -/
def crossedTurns : List Turn := (List.range 12).map fun moment =>
  ⟨moment % 2, .ok [Analysis.oneConditionRule "a" "crash", Analysis.oneConditionRule "a" "found",
    Analysis.oneConditionRule "b" "found"], .ok [default]⟩

def crossed : World := (start [crashCaller, crashCaller] .empty).run crossedTurns

theorem crossed_calls_store_once :
    DiagnosisStore.empty.Keyed ∧ crossed.isFinished = true ∧
      crossed.store.keys = [⟨"t", "s", "b"⟩] ∧
      ∃! index, ⟨"t", "s", "b"⟩ ∈ (crossed.answer index).map Diagnosis.key := by
  have finished : crossed.isFinished = true := by decide +kernel
  have keys : crossed.store.keys = [⟨"t", "s", "b"⟩] := by decide +kernel
  have once := overlapping_calls_store_once [crashCaller, crashCaller] .empty
    DiagnosisStore.empty_keyed crossedTurns
  refine ⟨DiagnosisStore.empty_keyed, finished, keys, ?_⟩
  refine (once.2 finished).1 ⟨"t", "s", "b"⟩ ?_ List.not_mem_nil
  exact keys ▸ List.mem_singleton_self _

end World

end EnrollmentDiagnosis.Concurrent
