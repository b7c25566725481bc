import EnrollmentDiagnosis.Proofs.MatchedConditions
import EnrollmentDiagnosis.RuleBook.Validation

set_option autoImplicit false

namespace EnrollmentDiagnosis

open RuleBook

/-- An operator that is unknown, or that needs a value where there is none. -/
def Operator.isMalformed (operator : Option Operator) (value : Option String) : Bool :=
  operator == some .unknown || (lacksValue operator value).isSome

theorem Operator.accepts_of_isMalformed {operator : Option Operator} {value : Option String}
    (malformed : isMalformed operator value = true) (matcher : Matcher) (field : Option String) :
    accepts matcher operator field value = false := by
  cases operator with
  | none => cases malformed
  | some operator =>
    cases field with
    | none => cases operator <;> rfl
    | some field =>
      cases value with
      | none =>
        cases operator with
        | «exists» => cases malformed
        | _ => rfl
      | some value =>
        cases operator with
        | unknown => rfl
        | _ => cases malformed

namespace Condition

def isMalformed (c : Condition) : Bool :=
  c.source == .unknown || Operator.isMalformed c.operator c.value

/-- True unless a condition matches on its events alone, without a comparison by its operator. -/
def compares (c : Condition) : Bool :=
  match c.source with
  | .eventType | .eventCorrelation => (nonempty? c.dataField).isSome
  | .phaseDuration => false
  | _ => true

/-- The condition as it is without its operator. -/
def withoutOperator (c : Condition) : Condition := { c with operator := none }

variable {c : Condition}

theorem acceptsField_of_isMalformed (malformed : Operator.isMalformed c.operator c.value = true)
    (matcher : Matcher) (e : Event) : c.acceptsField matcher e = false :=
  Operator.accepts_of_isMalformed malformed matcher _

/-- A malformed threshold is none. -/
theorem countThreshold?_of_isMalformed
    (malformed : Operator.isMalformed c.operator c.value = true) : c.countThreshold? = none := by
  unfold countThreshold?
  split
  · rename_i counts
    cases value : c.value with
    | none => rfl
    | some _ =>
      rw [counts, value] at malformed
      cases malformed
  · rfl

theorem filterB_of_isMalformed (malformed : Operator.isMalformed c.operator c.value = true)
    (named : (nonempty? c.dataField).isSome = true) (matcher : Matcher) (e : Event) :
    c.filterB.passes matcher e = false := by
  obtain ⟨field, found⟩ := Option.isSome_iff_exists.mp named
  have sameField : nonempty? c.filterB.field = some field := found
  rw [Filter.passes, sameField]
  exact Operator.accepts_of_isMalformed malformed matcher _

/-- A malformed condition that makes a comparison never matches. -/
theorem isMatch_of_compares (malformed : Operator.isMalformed c.operator c.value = true)
    (compared : c.compares = true) (setting : DetectionSetting) (events : List Event) :
    (c.detect setting events).isMatch = false := by
  rw [Bool.eq_false_iff]
  intro matched
  unfold compares at compared
  unfold detect at matched
  cases source : c.source with
  | eventType =>
    rw [source] at compared matched
    obtain ⟨e, -, accepted⟩ := (detectOccurrence_isMatch_iff _ c events).mp matched
    exact Bool.false_ne_true ((acceptsField_of_isMalformed malformed _ e).symm.trans
      (accepted compared))
  | eventData =>
    rw [source] at matched
    obtain ⟨e, -, accepted⟩ := (detectData_isMatch_iff _ c events).mp matched
    exact Bool.false_ne_true ((acceptsField_of_isMalformed malformed _ e).symm.trans accepted)
  | eventCount =>
    rw [source] at matched
    obtain ⟨threshold, limit, -⟩ := (detectCount_isMatch_iff c events).mp matched
    rw [countThreshold?_of_isMalformed malformed] at limit
    cases limit
  | phaseDuration =>
    rw [source] at compared
    cases compared
  | appInstallDuration =>
    rw [source] at matched
    obtain ⟨completion, -, -, installed⟩ := (detectInstall_isMatch_iff _ c events).mp matched
    obtain ⟨_, _, -, -, accepted⟩ := (installOf?_isSome _ c _ completion).mp installed
    exact Bool.false_ne_true ((Operator.accepts_of_isMalformed malformed _ _).symm.trans accepted)
  | eventCorrelation =>
    rw [source] at compared matched
    obtain ⟨_, _, _, -, -, -, a, -, b, -, pair⟩ :=
      (detectCorrelation_isMatch_iff _ c events).mp matched
    exact Bool.false_ne_true ((filterB_of_isMalformed malformed compared _ b).symm.trans
      pair.2.1.2)
  | unknown =>
    rw [source] at matched
    cases matched

/-- Without a comparison the operator of a condition does not matter. -/
theorem evaluate_withoutOperator (plain : c.compares = false) (setting : DetectionSetting)
    (events : List Event) :
    c.withoutOperator.evaluate setting events = c.evaluate setting events := by
  have sameSource : c.withoutOperator.source = c.source := rfl
  unfold compares at plain
  unfold evaluate
  rw [sameSource]
  cases source : c.source with
  | eventType =>
    rw [source] at plain
    have sameField : (nonempty? c.withoutOperator.dataField).isSome = false := plain
    simp only [evaluateOccurrence, plain, sameField, Bool.false_eq_true, ↓reduceIte]
    rfl
  | phaseDuration => rfl
  | eventCorrelation =>
    rw [source] at plain
    have unnamed : nonempty? c.dataField = none := by simpa using plain
    have sameFilter : c.withoutOperator.filterB.check setting.matcher =
        c.filterB.check setting.matcher := by
      funext e
      have sameField : nonempty? c.withoutOperator.filterB.field = none := unnamed
      have field : nonempty? c.filterB.field = none := unnamed
      simp only [Filter.check, field, sameField]
    simp only [evaluateCorrelation, sameFilter]
    rfl
  | eventData | eventCount | appInstallDuration | unknown => simp [source] at plain

/-- No condition without problems is malformed. -/
theorem problems_of_isMalformed (malformed : c.isMalformed = true) : c.problems ≠ [] := by
  intro none_found
  simp only [problems, List.append_eq_nil_iff] at none_found
  obtain ⟨⟨⟨⟨known, operator⟩, value⟩, -⟩, -⟩ := none_found
  simp only [isMalformed, Operator.isMalformed, Bool.or_eq_true, beq_iff_eq] at malformed
  rcases malformed with unknown | unknown | lacks
  · rw [if_pos unknown] at known
    cases known
  · rw [if_pos unknown] at operator
    cases operator
  · obtain ⟨missing, found⟩ := Option.isSome_iff_exists.mp lacks
    rw [found] at value
    cases value

/-- A malformed condition matches nothing where it makes a comparison, or where its source is
unknown. Otherwise it has the outcome that it has without its operator. In any case validation finds
a problem in it. -/
theorem matches_of_isMalformed (c : Condition) (malformed : c.isMalformed = true) :
    (∀ setting events, c.Matches setting events ↔
      c.compares = false ∧ c.withoutOperator.Matches setting events) ∧ c.problems ≠ [] := by
  refine ⟨fun setting events => ?_, problems_of_isMalformed malformed⟩
  constructor
  · rintro ⟨evidence, returned⟩
    have matched : (c.detect setting events).isMatch = true := by
      rw [detect_of_evaluate returned]
      rfl
    cases compared : c.compares with
    | false =>
      refine ⟨rfl, evidence, ?_⟩
      rw [evaluate_withoutOperator compared, returned]
    | true =>
      simp only [isMalformed, Bool.or_eq_true, beq_iff_eq] at malformed
      rcases malformed with unknown | malformed
      · rw [detect, unknown] at matched
        cases matched
      · rw [isMatch_of_compares malformed compared setting events] at matched
        cases matched
  · rintro ⟨plain, evidence, returned⟩
    refine ⟨evidence, ?_⟩
    rw [← evaluate_withoutOperator plain, returned]

/-- A condition on an event type, with an operator that there is not. -/
def resembling : Condition :=
  { (default : Condition) with
    signal := "s", source := .eventType, eventType := some "boot", operator := some .unknown }

def boot : Event := { (default : Event) with id := "e", type := "boot" }

theorem resembling_detected :
    resembling.isMalformed = true ∧ resembling.problems = [.unknownOperator "s"] ∧
      (resembling.Matches default [boot] ↔
        resembling.compares = false ∧ resembling.withoutOperator.Matches default [boot]) :=
  ⟨by decide, by decide, (matches_of_isMalformed resembling (by decide)).1 default [boot]⟩

/-- The condition is malformed and matches. -/
theorem resembling_matches :
    ¬∀ (c : Condition) (setting : DetectionSetting) (events : List Event),
      c.isMalformed = true → ¬c.Matches setting events := by
  intro never
  have matched : resembling.Matches default [boot] := ⟨_, rfl⟩
  exact never resembling default [boot] (by decide) matched

end Condition

end EnrollmentDiagnosis
