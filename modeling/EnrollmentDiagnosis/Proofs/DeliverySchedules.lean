import EnrollmentDiagnosis.Proofs.LateEvents
import EnrollmentDiagnosis.Proofs.SessionRepetition
import EnrollmentDiagnosis.Proofs.SessionStore

set_option autoImplicit false

namespace EnrollmentDiagnosis

/-- What lets a rule fire for good once it fires: no condition is about installations, and the
factors add to the confidence and compare no durations. -/
structure Rule.Lasting (rule : Rule) : Prop where
  others : ∀ c ∈ rule.conditions, c.source ≠ .appInstallDuration
  weights : ∀ factor ∈ rule.factors, 0 ≤ factor.weight
  untimed : ∀ factor ∈ rule.factors, ∀ n, factor.expression.test ≠ .durationAbove n

namespace Analysis

variable {engine : Engine} {setting : DetectionSetting} {rules : List Rule}
  {events later : List Event}

/-- No rule fails on some events. -/
def Engine.ReturnsOn (engine : Engine) (rules : List Rule) (events : List Event) : Prop :=
  ∀ rule ∈ rules, ∃ verdict, engine.evaluate (Event.sort events) rule = .ok verdict

theorem Engine.diagnosis?_grow (builtin : engine.evaluator = Condition.evaluator setting)
    {rule : Rule} (lasting : rule.Lasting) (part : events.Subperm later)
    (returns : ∃ verdict, engine.evaluate later rule = .ok verdict) {d : Diagnosis}
    (fired : engine.diagnosis? events rule = some d) :
    ∃ found, engine.diagnosis? later rule = some found := by
  have verdict := Engine.diagnosis?_eq_some_iff.mp fired
  rw [Engine.evaluate, builtin] at verdict
  rcases Rule.evaluate_grow part lasting.others _ (engine.stampFor rule.id) lasting.weights
    lasting.untimed verdict with ⟨found, verdictLater, -⟩ | ⟨message, failed, -⟩
  · refine ⟨found, Engine.diagnosis?_eq_some_iff.mpr ?_⟩
    rw [Engine.evaluate, builtin]
    exact verdictLater
  · obtain ⟨verdictLater, returned⟩ := returns
    rw [Engine.evaluate, builtin, failed] at returned
    cases returned

/-- The rules that fire on some events fire on more events too, if none fails on those. -/
theorem ruleIds_grow (builtin : engine.evaluator = Condition.evaluator setting)
    (lasting : ∀ rule ∈ rules, rule.Lasting) (returns : engine.ReturnsOn rules later)
    (part : events.Subperm later) :
    (analyze engine rules events []).map (·.ruleId) ⊆
      (analyze engine rules later []).map (·.ruleId) := by
  intro ruleId member
  obtain ⟨d, diagnosed, rfl⟩ := List.mem_map.mp member
  obtain ⟨rule, picked, fired⟩ := mem_analyze diagnosed
  have nonempty : later ≠ [] := by
    rintro rfl
    have none : events = [] := List.subperm_nil.mp part
    subst none
    cases diagnosed
  have ordered : (Event.sort events).Subperm (Event.sort later) :=
    (Event.sort_perm events).subperm.trans (part.trans (Event.sort_perm later).symm.subperm)
  have reached := (selected_sublist rules []).subset picked
  obtain ⟨found, firedLater⟩ := Engine.diagnosis?_grow builtin (lasting rule reached) ordered
    (returns rule reached) fired
  rw [Engine.ruleId_of_diagnosis? fired, ← Engine.ruleId_of_diagnosis? firedLater,
    analyze_of_nonempty nonempty]
  exact List.mem_map_of_mem (List.mem_filterMap.mpr ⟨rule, picked, firedLater⟩)

/-- The rules that fire depend on the evaluator of an engine alone. -/
theorem ruleIds_congr {other : Engine} (evaluator : other.evaluator = engine.evaluator)
    (rules : List Rule) (events : List Event) (evaluated : List String) :
    (analyze other rules events evaluated).map (·.ruleId) =
      (analyze engine rules events evaluated).map (·.ruleId) := by
  have restamped : other = engine.withStamps other.stampFor := by
    rw [Engine.withStamps, ← evaluator]
  rw [restamped, analyze_ruleIds_withStamps]

theorem Engine.ReturnsOn.congr {other : Engine} (returns : engine.ReturnsOn rules events)
    (evaluator : other.evaluator = engine.evaluator) : other.ReturnsOn rules events := by
  intro rule member
  obtain ⟨verdict, returned⟩ := returns rule member
  refine ⟨verdict.map (·.stamped (other.stampFor rule.id)), ?_⟩
  rw [Engine.evaluate] at returned ⊢
  rw [evaluator, Rule.evaluate_stamped (engine.stampFor rule.id), returned]
  rfl

end Analysis

/-- The diagnoses in an answer. -/
def Answer.found : Answer → List Diagnosis
  | .diagnoses found => found
  | _ => []

namespace Request

def IsDelivery (request : Request) : Prop := ∃ events, request.operation = .addEvents events

/-- True for requests that deliver events. -/
def delivers (request : Request) : Bool :=
  match request.operation with
  | .addEvents _ => true
  | _ => false

/-- The events that a request delivers. -/
def delivered (request : Request) : List Event :=
  match request.operation with
  | .addEvents events => events
  | _ => []

theorem delivered_of_adds {request : Request} {events : List Event}
    (adds : request.operation = .addEvents events) : request.delivered = events := by
  simp only [delivered, adds]

theorem delivered_of_analysis {request : Request} {tenant session : String} {persist : Bool}
    (isAnalysis : request.operation = .analyze tenant session persist) :
    request.delivered = [] := by
  simp only [delivered, isAnalysis]

/-- Requests that deliver nothing can be left out. -/
theorem flatMap_delivered (requests : List Request) :
    (requests.filter (·.delivers)).flatMap delivered = requests.flatMap delivered := by
  induction requests with
  | nil => rfl
  | cons request rest ih =>
    rw [List.flatMap_cons, ← ih, List.filter_cons]
    cases operation : request.operation <;> simp [delivers, delivered, operation]

/-- A part of a session's schedule: a delivery, or an analysis of the session that stores. -/
def IsScheduled (tenant session : String) (request : Request) : Prop :=
  request.IsDelivery ∨ request.operation = .analyze tenant session true

theorem isScheduled_of_delivers {request : Request} (delivery : request.delivers = true)
    (tenant session : String) : request.IsScheduled tenant session := by
  unfold delivers at delivery
  split at delivery
  · rename_i events adds
    exact .inl ⟨events, adds⟩
  · cases delivery

end Request

namespace DiagnosisStore

theorem ofSession_append_own {tenant session : String} (store : DiagnosisStore)
    {diagnoses : List Diagnosis}
    (own : ∀ d ∈ diagnoses, d.tenant = tenant ∧ d.session = session) :
    (⟨store.diagnoses ++ diagnoses⟩ : DiagnosisStore).ofSession tenant session =
      store.ofSession tenant session ++ diagnoses := by
  have kept : (⟨diagnoses⟩ : DiagnosisStore).ofSession tenant session = diagnoses := by
    apply List.filter_eq_self.mpr
    intro d member
    simpa using own d member
  rw [ofSession, List.filter_append]
  exact congrArg (_ ++ ·) kept

end DiagnosisStore

namespace Deployment

/-- All diagnoses that requests return in turn, or the error of the first one that fails. -/
def returned : Deployment → List Request → Except OperationError (List Diagnosis)
  | _, [] => .ok []
  | state, request :: rest =>
    let step := state.serve request
    match step.result with
    | .error e => .error e
    | .ok answer => (returned step.state rest).map (answer.found ++ ·)

theorem returned_cons {state : Deployment} {request : Request} {answer : Answer}
    (success : (state.serve request).result = .ok answer) (rest : List Request) :
    state.returned (request :: rest) =
      ((state.serve request).state.returned rest).map (answer.found ++ ·) := by
  simp only [returned, success]

theorem serveAll_cons (state : Deployment) (request : Request) (rest : List Request) :
    state.serveAll (request :: rest) = (state.serve request).state.serveAll rest := rfl

theorem serveAll_append (state : Deployment) (first second : List Request) :
    state.serveAll (first ++ second) = (state.serveAll first).serveAll second :=
  List.foldl_append

/-- The identities of the rules that fire on all that has arrived of a session. -/
def firing (state : Deployment) (rules : List Rule) (tenant session : String) : List String :=
  (Analysis.analyze state.engine rules (state.events.sessionEvents tenant session) []).map
    (·.ruleId)

/-- The identities of the rules that have a diagnosis of a session. -/
def diagnosed (state : Deployment) (tenant session : String) : List String :=
  (state.diagnoses.ofSession tenant session).map (·.ruleId)

section Session

variable {setting : DetectionSetting} {rules : List Rule} {tenant session : String}
  {state later : Deployment}

theorem firing_congr (evaluator : later.engine.evaluator = state.engine.evaluator)
    (events : later.events.sessionEvents tenant session =
      state.events.sessionEvents tenant session) :
    later.firing rules tenant session = state.firing rules tenant session := by
  rw [firing, firing, events]
  exact Analysis.ruleIds_congr evaluator rules _ []

/-- Deliveries only add to the events of a session. -/
theorem sessionEvents_subperm_add (store : EventStore) (events : List Event)
    (tenant session : String) :
    (store.sessionEvents tenant session).Subperm
      ((store.add events).sessionEvents tenant session) := by
  have arrived : (store.arrivals tenant session).Subperm
      ((store.add events).arrivals tenant session) := by
    rw [EventStore.arrivals_add]
    exact (List.sublist_append_left _ _).subperm
  exact (Event.sort_perm _).subperm.trans (arrived.trans (Event.sort_perm _).symm.subperm)

/-- What is found anew are the rules that fire and have no diagnosis. -/
theorem newDiagnoses_ruleIds (state : Deployment) (rules : List Rule) (tenant session : String) :
    (state.newDiagnoses rules tenant session).map (·.ruleId) =
      (state.firing rules tenant session).filter (· ∉ state.diagnosed tenant session) := by
  have split := Analysis.analyze_of_subset state.engine rules
    (state.events.sessionEvents tenant session)
    (List.nil_subset (state.diagnosed tenant session))
  simp only [newDiagnoses, SessionAnalysis.diagnose, List.map_map]
  change List.map (·.ruleId) (Analysis.analyze _ _ _ (state.diagnosed tenant session)) = _
  rw [split, firing, List.filter_map]
  rfl

/-- What holds at any moment of a schedule that comes to some events: the session is read as it is,
by rules that stay, and only rules that fire on all those events have a diagnosis, at most one each.
-/
structure OnSchedule (setting : DetectionSetting) (rules : List Rule) (tenant session : String)
    (whole : List Event) (state : Deployment) : Prop where
  current : state.ReadsCurrent
  builtin : state.engine.evaluator = Condition.evaluator setting
  read : state.rules.readNow state.files tenant = some (.ok rules)
  justified : state.diagnosed tenant session ⊆
    (Analysis.analyze state.engine rules whole []).map (·.ruleId)
  distinct : (state.diagnosed tenant session).Nodup

variable {whole : List Event}

/-- A delivery only adds events. -/
theorem OnSchedule.deliver (on : state.OnSchedule setting rules tenant session whole)
    {request : Request} {events : List Event} (adds : request.operation = .addEvents events) :
    (state.serve request).result = .ok .done ∧
      (state.serve request).state.diagnoses = state.diagnoses ∧
      (state.serve request).state.events = state.events.add events ∧
      (state.serve request).state.OnSchedule setting rules tenant session whole := by
  have after : state.serve request =
      changed { state.withStamps request.stampFor with events := state.events.add events } := by
    rw [serve, adds]
    rfl
  rw [after]
  refine ⟨rfl, rfl, rfl, ⟨?_, on.builtin, on.read, ?_, on.distinct⟩⟩
  · exact ⟨on.current.events, on.current.diagnoses, on.current.seen⟩
  · have restamped :=
      Analysis.analyze_ruleIds_withStamps state.engine request.stampFor rules whole []
    exact fun ruleId member => restamped ▸ on.justified member

/-- An analysis returns what it stores for the session, and leaves the events as they are. -/
theorem OnSchedule.stores (on : state.OnSchedule setting rules tenant session whole)
    {request : Request} (isAnalysis : request.operation = .analyze tenant session true) :
    ∃ found, found = (state.withStamps request.stampFor).newDiagnoses rules tenant session ∧
      (state.serve request).result = .ok (.diagnoses found) ∧
      (state.serve request).state.diagnoses.ofSession tenant session =
        state.diagnoses.ofSession tenant session ++ found ∧
      (state.serve request).state.events = state.events := by
  obtain ⟨result, stored⟩ := serve_of_current on.current on.read isAnalysis
  rw [if_pos rfl] at stored
  refine ⟨_, rfl, result, ?_, ?_⟩
  · rw [stored]
    exact DiagnosisStore.ofSession_append_own _ fun d member => SessionAnalysis.mem_diagnose member
  · obtain ⟨provider, -, -, after⟩ := analyze_spec (state.withStamps request.stampFor)
      request.elapsed tenant session true
    rw [serve, isAnalysis, perform, after]
    rfl

/-- An analysis adds the rules that fire and have no diagnosis to those that have one. -/
theorem OnSchedule.diagnosed_serve (on : state.OnSchedule setting rules tenant session whole)
    {request : Request} (isAnalysis : request.operation = .analyze tenant session true) :
    (state.serve request).state.diagnosed tenant session =
      state.diagnosed tenant session ++
        (state.firing rules tenant session).filter (· ∉ state.diagnosed tenant session) := by
  obtain ⟨found, rfl, -, stored, -⟩ := on.stores isAnalysis
  have restamped : (state.withStamps request.stampFor).firing rules tenant session =
      state.firing rules tenant session := firing_congr rfl rfl
  rw [diagnosed, stored, List.map_append, newDiagnoses_ruleIds, restamped]
  rfl

/-- An analysis stores a diagnosis of the rules that fire on what has arrived, and these fire on
all events too. -/
theorem OnSchedule.analyze (on : state.OnSchedule setting rules tenant session whole)
    (lasting : ∀ rule ∈ rules, rule.Lasting) (returns : state.engine.ReturnsOn rules whole)
    (arrived : (state.events.sessionEvents tenant session).Subperm whole) {request : Request}
    (isAnalysis : request.operation = .analyze tenant session true) :
    (state.serve request).state.OnSchedule setting rules tenant session whole := by
  have reading : (state.serve request).state.SameReading state tenant session :=
    serveAll_sameReading on.current [request]
      (fun r member => ⟨tenant, session, true, List.mem_singleton.mp member ▸ isAnalysis⟩)
      tenant session
  have evaluator := (serve_follows state request).evaluator
  have firing : state.firing rules tenant session ⊆
      (Analysis.analyze state.engine rules whole []).map (·.ruleId) :=
    Analysis.ruleIds_grow on.builtin lasting returns arrived
  refine ⟨reading.current, evaluator.trans on.builtin, reading.rules.trans on.read, ?_, ?_⟩
  · rw [Analysis.ruleIds_congr evaluator, on.diagnosed_serve isAnalysis]
    intro ruleId member
    rcases List.mem_append.mp member with old | new
    · exact on.justified old
    · exact firing (List.mem_of_mem_filter new)
  · rw [on.diagnosed_serve isAnalysis]
    have firingOnce : (state.firing rules tenant session).Nodup :=
      Analysis.analyze_ruleIds_nodup _ _ _ _
    refine List.Nodup.append on.distinct (firingOnce.filter _) fun ruleId old new => ?_
    have fresh := (List.mem_filter.mp new).2
    simp [old] at fresh

/-- What is stored for the session during a schedule is what its requests return, and the schedule
leads from one moment of that kind to another. -/
theorem OnSchedule.run (on : state.OnSchedule setting rules tenant session whole)
    (lasting : ∀ rule ∈ rules, rule.Lasting) (returns : state.engine.ReturnsOn rules whole)
    {schedule : List Request} (parts : ∀ request ∈ schedule, request.IsScheduled tenant session)
    (comes : ((state.events.add (schedule.flatMap Request.delivered)).sessionEvents tenant
      session).Subperm whole) :
    ∃ found, state.returned schedule = .ok found ∧
      (state.serveAll schedule).diagnoses.ofSession tenant session =
        state.diagnoses.ofSession tenant session ++ found ∧
      (state.serveAll schedule).events = state.events.add (schedule.flatMap Request.delivered) ∧
      (state.serveAll schedule).OnSchedule setting rules tenant session whole := by
  induction schedule generalizing state with
  | nil =>
    refine ⟨[], rfl, (List.append_nil _).symm, ?_, on⟩
    simp only [serveAll, List.foldl_nil, EventStore.add, List.flatMap_nil, List.append_nil]
  | cons request rest ih =>
    have partsRest : ∀ r ∈ rest, r.IsScheduled tenant session :=
      fun r member => parts r (List.mem_cons_of_mem _ member)
    have arrived : (state.events.sessionEvents tenant session).Subperm whole :=
      (sessionEvents_subperm_add _ _ _ _).trans comes
    have returnsNext : (state.serve request).state.engine.ReturnsOn rules whole :=
      returns.congr (serve_follows state request).evaluator
    rw [List.flatMap_cons] at comes ⊢
    rw [serveAll_cons]
    rcases parts request List.mem_cons_self with ⟨events, adds⟩ | isAnalysis
    · obtain ⟨result, stored, added, onNext⟩ := on.deliver adds
      have comesNext : ((state.serve request).state.events.add
          (rest.flatMap Request.delivered)) =
            state.events.add (request.delivered ++ rest.flatMap Request.delivered) := by
        rw [added, Request.delivered_of_adds adds]
        simp only [EventStore.add, List.append_assoc]
      rw [← comesNext] at comes ⊢
      obtain ⟨found, returnedRest, storedRest, arrivedRest, onLast⟩ :=
        ih onNext returnsNext partsRest comes
      refine ⟨found, ?_, by rw [storedRest, stored], arrivedRest, onLast⟩
      rw [returned_cons result, returnedRest]
      rfl
    · obtain ⟨new, -, result, stored, kept⟩ := on.stores isAnalysis
      have onNext := on.analyze lasting returns arrived isAnalysis
      have comesNext : ((state.serve request).state.events.add
          (rest.flatMap Request.delivered)) =
            state.events.add (request.delivered ++ rest.flatMap Request.delivered) := by
        rw [kept, Request.delivered_of_analysis isAnalysis, List.nil_append]
      rw [← comesNext] at comes ⊢
      obtain ⟨found, returnedRest, storedRest, arrivedRest, onLast⟩ :=
        ih onNext returnsNext partsRest comes
      refine ⟨new ++ found, ?_, by rw [storedRest, stored, List.append_assoc], arrivedRest, onLast⟩
      rw [returned_cons result, returnedRest]
      rfl

/-- When an analysis closes a schedule, the rules with a diagnosis are those that fire on all
events. -/
theorem OnSchedule.close (on : state.OnSchedule setting rules tenant session whole)
    (lasting : ∀ rule ∈ rules, rule.Lasting) (returns : state.engine.ReturnsOn rules whole)
    {schedule : List Request} (parts : ∀ request ∈ schedule, request.IsScheduled tenant session)
    (comes : (state.events.add (schedule.flatMap Request.delivered)).sessionEvents tenant session =
      whole)
    {last : Request} (isLast : last.operation = .analyze tenant session true) :
    ∃ found, state.returned (schedule ++ [last]) = .ok found ∧
      (state.serveAll (schedule ++ [last])).diagnoses.ofSession tenant session =
        state.diagnoses.ofSession tenant session ++ found ∧
      ((state.serveAll (schedule ++ [last])).diagnosed tenant session).Nodup ∧
      ∀ ruleId, ruleId ∈ (state.serveAll (schedule ++ [last])).diagnosed tenant session ↔
        ruleId ∈ (Analysis.analyze state.engine rules whole []).map (·.ruleId) := by
  have all : ∀ request ∈ schedule ++ [last], request.IsScheduled tenant session := by
    intro request member
    rcases List.mem_append.mp member with earlier | closing
    · exact parts request earlier
    · exact .inr (List.mem_singleton.mp closing ▸ isLast)
  have delivers : (schedule ++ [last]).flatMap Request.delivered =
      schedule.flatMap Request.delivered := by
    rw [List.flatMap_append, List.flatMap_singleton, Request.delivered_of_analysis isLast,
      List.append_nil]
  obtain ⟨found, returned, stored, -, onLast⟩ := on.run lasting returns all (by
    rw [delivers, comes])
  obtain ⟨-, -, -, arrived, onClose⟩ := on.run lasting returns parts (by rw [comes])
  have closed : state.serveAll (schedule ++ [last]) =
      ((state.serveAll schedule).serve last).state := serveAll_append state schedule [last]
  have evaluator : (state.serveAll schedule).engine.evaluator = state.engine.evaluator :=
    onClose.builtin.trans on.builtin.symm
  have firing : (state.serveAll schedule).firing rules tenant session =
      (Analysis.analyze state.engine rules whole []).map (·.ruleId) := by
    rw [Deployment.firing, arrived, comes, Analysis.ruleIds_congr evaluator]
  refine ⟨found, returned, stored, onLast.distinct, fun ruleId => ?_⟩
  have old := @onClose.justified ruleId
  rw [Analysis.ruleIds_congr evaluator] at old
  rw [closed, onClose.diagnosed_serve isLast, List.mem_append, List.mem_filter, firing,
    decide_eq_true_eq]
  tauto

end Session

/-- The events of a session when all requests are served. -/
def finalEvents (state : Deployment) (tenant session : String) (schedule : List Request) :
    List Event :=
  (state.events.add (schedule.flatMap Request.delivered)).sessionEvents tenant session

/-- For rules that keep firing, it does not matter when a session is analyzed, as long as an
analysis comes last and no rule fails on all that has arrived by then. No request of a schedule
fails; what is stored for the session is what the analyses returned, and these are the rules, each
of them once, for which one analysis after all deliveries returns and stores a diagnosis: those that
fire on what has arrived in the end. -/
theorem schedule_irrelevant (state : Deployment) (setting : DetectionSetting) (rules : List Rule)
    (tenant session : String) (current : state.ReadsCurrent)
    (builtin : state.engine.evaluator = Condition.evaluator setting)
    (read : state.rules.readNow state.files tenant = some (.ok rules))
    (lasting : ∀ rule ∈ rules, rule.Lasting)
    (unstored : state.diagnoses.ofSession tenant session = []) (schedule : List Request)
    (parts : ∀ request ∈ schedule, request.IsScheduled tenant session)
    (returns : state.engine.ReturnsOn rules (state.finalEvents tenant session schedule))
    (last single : Request) (isLast : last.operation = .analyze tenant session true)
    (isSingle : single.operation = .analyze tenant session true) :
    ∃ found once,
      state.returned (schedule ++ [last]) = .ok found ∧
      (state.serveAll (schedule ++ [last])).diagnoses.ofSession tenant session = found ∧
      state.returned (schedule.filter (·.delivers) ++ [single]) = .ok once ∧
      (state.serveAll (schedule.filter (·.delivers) ++ [single])).diagnoses.ofSession tenant
        session = once ∧
      (found.map (·.ruleId)).Perm (once.map (·.ruleId)) ∧
      (found.map (·.ruleId)).Nodup ∧
      ∀ ruleId, ruleId ∈ found.map (·.ruleId) ↔
        ruleId ∈ (state.serveAll schedule).firing rules tenant session := by
  have start : state.OnSchedule setting rules tenant session
      (state.finalEvents tenant session schedule) := by
    refine ⟨current, builtin, read, ?_, ?_⟩
    · rw [diagnosed, unstored]
      exact List.nil_subset _
    · rw [diagnosed, unstored]
      exact List.nodup_nil
  have deliveries : ∀ request ∈ schedule.filter (·.delivers),
      request.IsScheduled tenant session :=
    fun request member =>
      Request.isScheduled_of_delivers (List.mem_filter.mp member).2 tenant session
  -- Both runs come to the same events, so the same rules fire at the last analysis.
  have comesOnce : (state.events.add ((schedule.filter (·.delivers)).flatMap
      Request.delivered)).sessionEvents tenant session =
        state.finalEvents tenant session schedule := by
    rw [Request.flatMap_delivered, finalEvents]
  obtain ⟨found, returned, stored, distinct, exactly⟩ :=
    start.close lasting returns parts rfl isLast
  obtain ⟨once, returnedOnce, storedOnce, distinctOnce, exactlyOnce⟩ :=
    start.close lasting returns deliveries comesOnce isSingle
  rw [unstored, List.nil_append] at stored storedOnce
  rw [diagnosed, stored] at distinct exactly
  rw [diagnosed, storedOnce] at distinctOnce exactlyOnce
  have firing : (state.serveAll schedule).firing rules tenant session =
      (Analysis.analyze state.engine rules (state.finalEvents tenant session schedule) []).map
        (·.ruleId) := by
    obtain ⟨-, -, -, arrived, on⟩ := start.run lasting returns parts (List.Subperm.refl _)
    rw [Deployment.firing, arrived, ← finalEvents,
      Analysis.ruleIds_congr (on.builtin.trans builtin.symm)]
  refine ⟨found, once, returned, stored, returnedOnce, storedOnce, ?_, distinct, ?_⟩
  · apply (List.perm_ext_iff_of_nodup distinct distinctOnce).mpr
    intro ruleId
    rw [exactly, exactlyOnce]
  · intro ruleId
    rw [exactly, firing]

/-- A rule about two stalls or more. -/
def repeatedStallRule : Rule :=
  { Analysis.stallRule with
    id := "repeated"
    conditions := [{ (default : Condition) with
      signal := "repeated", source := .eventCount, eventType := some "stall",
      operator := some .countGte, value := some "2", required := true }] }

/-- Rules about stalls, the last of which has the identity of the first. -/
def stallRules : List Rule :=
  [Analysis.stallRule, repeatedStallRule, { repeatedStallRule with id := "stalled" }]

/-- A deployment with rules about stalls. -/
def stalling : Deployment where
  engine := ⟨Condition.evaluator default, fun _ => default⟩
  maxEvents := 0
  rules := .memory (.ofGlobal stallRules)
  files := []
  events := .empty
  diagnoses := .empty
  eventOutage := none
  diagnosisOutage := none
  isStale := false

def sessionAnalysis : Request := ⟨"", fun _ => default, .analyze "" "" true⟩

def stallDelivery (sequence : Int) : Request :=
  ⟨"", fun _ => default, .addEvents [Analysis.stall sequence]⟩

/-- Two stalls, the earlier one delivered last, with an analysis before each of them. -/
def stallSchedule : List Request :=
  [sessionAnalysis, stallDelivery 2, sessionAnalysis, stallDelivery 1]

/-- The first stall is diagnosed before the second one arrives, and in the end the schedule has
found the rules that one analysis of both stalls finds. -/
theorem stalls_found_once :
    (∀ rule ∈ stallRules, rule.Lasting) ∧
      (∀ request ∈ stallSchedule, request.IsScheduled "" "") ∧
      stalling.engine.ReturnsOn stallRules (stalling.finalEvents "" "" stallSchedule) ∧
      (stalling.serveAll (stallSchedule.take 3)).diagnosed "" "" = ["stalled"] ∧
      ∃ found once, stalling.returned (stallSchedule ++ [sessionAnalysis]) = .ok found ∧
        stalling.returned [stallDelivery 2, stallDelivery 1, sessionAnalysis] = .ok once ∧
        (found.map (·.ruleId)).Perm (once.map (·.ruleId)) ∧ (found.map (·.ruleId)).Nodup := by
  have lasting : ∀ rule ∈ stallRules, rule.Lasting := by
    simp only [stallRules, List.forall_mem_cons, List.not_mem_nil, false_imp_iff, implies_true,
      and_true]
    refine ⟨⟨by decide, by decide, ?_⟩, ⟨by decide, by decide, ?_⟩, ⟨by decide, by decide, ?_⟩⟩ <;>
      simp [repeatedStallRule, Analysis.stallRule]
  have parts : ∀ request ∈ stallSchedule, request.IsScheduled "" "" := by
    simp only [stallSchedule, List.forall_mem_cons, List.not_mem_nil, false_imp_iff, implies_true,
      and_true]
    exact ⟨.inr rfl, .inl ⟨_, rfl⟩, .inr rfl, .inl ⟨_, rfl⟩⟩
  have returns : stalling.engine.ReturnsOn stallRules
      (stalling.finalEvents "" "" stallSchedule) := by
    have swapped : (Analysis.stall 2).inOrder (Analysis.stall 1) = false := by decide +kernel
    have final : stalling.finalEvents "" "" stallSchedule =
        Event.sort [Analysis.stall 2, Analysis.stall 1] := rfl
    have arrived : Event.sort [Analysis.stall 2, Analysis.stall 1] =
        [Analysis.stall 1, Analysis.stall 2] := by
      simp [Event.sort, List.mergeSort, swapped]
    have answers : ∀ rule ∈ stallRules, (stalling.engine.evaluate
        [Analysis.stall 1, Analysis.stall 2] rule).toOption.isSome = true := by decide +kernel
    intro rule member
    have answered := answers rule member
    rw [final, arrived, Analysis.sort_stalls]
    cases evaluated : stalling.engine.evaluate [Analysis.stall 1, Analysis.stall 2] rule with
    | ok verdict => exact ⟨verdict, rfl⟩
    | error e =>
      rw [evaluated] at answered
      cases answered
  obtain ⟨found, once, returned, -, returnedOnce, -, same, distinct, -⟩ :=
    schedule_irrelevant stalling default stallRules "" "" ⟨rfl, rfl, rfl⟩ rfl rfl lasting rfl
      stallSchedule parts returns sessionAnalysis sessionAnalysis rfl rfl
  exact ⟨lasting, parts, returns, by decide +kernel, found, once, returned, returnedOnce, same,
    distinct⟩

end Deployment

end EnrollmentDiagnosis
