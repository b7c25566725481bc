import EnrollmentDiagnosis.Proofs.GroundedEvidence
import EnrollmentDiagnosis.RuleBook.Validation

set_option autoImplicit false

namespace EnrollmentDiagnosis

open RuleBook

theorem isPart_self (part : List Char) : isPart part part = true := by
  cases part with
  | nil => rfl
  | cons c rest =>
    rw [isPart, Bool.or_eq_true]
    exact .inl (List.isPrefixOf_iff_prefix.mpr List.prefix_rfl)

theorem Number.Binary64.order_self {x : Number.Binary64} (finite : x.isFinite = true) :
    x.order x = some .eq := by
  cases x with
  | finite negative mantissa exponent =>
    simp only [order, Std.ReflCmp.compare_self]
  | infinite | nan => cases finite

theorem Text.isFinite_of_finiteDecimal? {text : String} {x : Number.Binary64}
    (number : finiteDecimal? text = some x) : x.isFinite = true := by
  simp only [finiteDecimal?, Option.bind_eq_bind, Option.bind_eq_some_iff,
    Option.ite_none_right_eq_some, Option.some.injEq] at number
  obtain ⟨_, -, finite, rfl⟩ := number
  exact finite

/-- A number compares with itself where equal numbers are accepted. -/
theorem numbersCompare_self {accepted : Ordering → Bool} (equal : accepted .eq = true)
    {text : String} (number : (Text.finiteDecimal? text).isSome = true) :
    numbersCompare accepted text text = true := by
  obtain ⟨x, found⟩ := Option.isSome_iff_exists.mp number
  have finite := Text.isFinite_of_finiteDecimal? found
  simp only [numbersCompare, found, Number.Binary64.order_self finite, Option.map_some, equal,
    Option.getD_some]

theorem isSome_of_numbersCompare {left right : String} {accepted : Ordering → Bool}
    (holds : numbersCompare accepted left right = true) :
    (Text.finiteDecimal? right).isSome = true := by
  unfold numbersCompare at holds
  split at holds
  · rename_i found
    rw [found]
    rfl
  · cases holds

namespace Operator

/-- Some field satisfies the operator with a value: the pattern occurs in it, or it is a number that
compares with the value. -/
def Meetable (matcher : Matcher) (operator : Operator) (value : String) : Prop :=
  match operator with
  | .equals | .contains | .exists => True
  | .regex => ∃ field, matcher.occurs value field = true
  | .gt => ∃ field, numbersCompare (· == .gt) field value = true
  | .lt => ∃ field, numbersCompare (· == .lt) field value = true
  | .gte | .lte => (Text.finiteDecimal? value).isSome = true
  | .countGte | .unknown => False

variable {matcher : Matcher}

theorem exists_holds_iff (operator : Operator) (value : String) :
    (∃ field, operator.holds matcher field value = true) ↔ operator.Meetable matcher value := by
  unfold holds Meetable
  cases operator with
  | equals => exact iff_of_true ⟨value, beq_self_eq_true _⟩ trivial
  | contains => exact iff_of_true ⟨value, isPart_self _⟩ trivial
  | «exists» => exact iff_of_true ⟨"present", rfl⟩ trivial
  | regex | gt | lt => exact Iff.rfl
  | gte | lte =>
    constructor
    · rintro ⟨field, compares⟩
      exact isSome_of_numbersCompare compares
    · intro number
      exact ⟨value, numbersCompare_self rfl number⟩
  | countGte | unknown => simp

/-- An operator that does not lack its value accepts the fields that it holds for. -/
theorem accepts_of_stated {operator : Operator} {value : Option String}
    (stated : lacksValue (some operator) value = none) (field : String) :
    accepts matcher (some operator) (some field) value =
      operator.holds matcher field (value.getD "") := by
  cases value with
  | none =>
    cases operator with
    | «exists» | unknown => rfl
    | _ => cases stated
  | some value => cases operator <;> rfl

/-- Some field is accepted if and only if an operator is given that can be met, unless the operator
lacks its value. -/
theorem exists_accepts_iff {operator : Option Operator} {value : Option String}
    (stated : lacksValue operator value = none) :
    (∃ field, accepts matcher operator (some field) value = true) ↔
      ∃ given, operator = some given ∧ given.Meetable matcher (value.getD "") := by
  cases operator with
  | none => simp [accepts]
  | some given =>
    simp only [accepts_of_stated stated, exists_holds_iff, Option.some.injEq, exists_eq_left']

end Operator

namespace Event

/-- True for names of one text of any event: the same name twice, or two names of the message. -/
def sameField (first second : String) : Bool :=
  first == second || Text.lower first == messageField && Text.lower second == messageField

theorem field?_of_sameField {first second : String} (namedFirst : first ≠ "")
    (namedSecond : second ≠ "") (same : sameField first second = true) (e : Event) :
    e.field? first = e.field? second := by
  simp only [sameField, Bool.or_eq_true, Bool.and_eq_true, beq_iff_eq] at same
  rcases same with rfl | ⟨messageFirst, messageSecond⟩
  · rfl
  · simp only [field?, namedFirst, namedSecond, messageFirst, messageSecond, ↓reduceIte]

/-- An event has its own type, unless that is empty. -/
theorem hasType_self {e : Event} (named : e.type ≠ "") : e.hasType e.type = true := by
  simp only [hasType, Text.sameFold, bne_iff_ne, ne_eq, named, not_false_eq_true,
    beq_self_eq_true, Bool.and_true]

/-- The text of the first field that names the message. -/
def messageIn : List (String × String) → String
  | [] => ""
  | (name, text) :: rest => if Text.lower name = messageField then text else messageIn rest

/-- An event of a type that has texts in fields. -/
def bearing (id type : String) (fields : List (String × String)) : Event :=
  { (default : Event) with
    id := id
    type := type
    message := messageIn fields
    payload := fields.map fun field => (field.1, .text field.2) }

theorem field?_bearing {name : String} (named : name ≠ "") (id type text : String)
    (rest : List (String × String)) :
    (bearing id type ((name, text) :: rest)).field? name = some text := by
  by_cases message : Text.lower name = messageField
  · simp only [field?, bearing, named, message, ↓reduceIte, messageIn]
  · simp only [field?, bearing, named, message, ↓reduceIte, Payload.text?, Payload.datum?,
      Payload.find?, List.map_cons, Payload.exactDatum?]
    rfl

theorem field?_bearing_next {first second : String} (named : second ≠ "")
    (apart : sameField second first = false) (id type textFirst textSecond : String) :
    (bearing id type [(first, textFirst), (second, textSecond)]).field? second =
      some textSecond := by
  simp only [sameField, Bool.or_eq_false_iff, beq_eq_false_iff_ne] at apart
  obtain ⟨other, notBoth⟩ := apart
  by_cases message : Text.lower second = messageField
  · have notMessage : Text.lower first ≠ messageField := by simpa [message] using notBoth
    simp only [field?, bearing, named, message, notMessage, ↓reduceIte, messageIn]
  · simp only [field?, bearing, named, message, ↓reduceIte, Payload.text?, Payload.datum?,
      Payload.find?, List.map_cons, Payload.exactDatum?, Ne.symm other]
    rfl

theorem isLegible_bearing (id type : String) (fields : List (String × String)) (name : String) :
    (bearing id type fields).isLegible name = true := by
  apply isLegible_of_isWritable
  show (Datum.group (fields.map fun field => (field.1, .text field.2))).isWritable = true
  induction fields with
  | nil => rfl
  | cons field rest ih =>
    rw [List.map_cons, Payload.isWritable_group_cons, ih, Bool.and_true]
    rfl

end Event

theorem Matcher.ok_of_occurs {matcher : Matcher} {pattern text : String}
    (occurs : matcher.occurs pattern text = true) : ∃ occursIn, matcher pattern = .ok occursIn := by
  unfold Matcher.occurs at occurs
  split at occurs
  · exact ⟨_, ‹_›⟩
  · cases occurs

/-- A pattern that is accepted can be searched for. -/
theorem Operator.ok_of_accepts {matcher : Matcher} {field : Option String} {pattern : String}
    (accepted : accepts matcher (some .regex) field (some pattern) = true) :
    ∃ occursIn, matcher pattern = .ok occursIn := by
  cases field with
  | none => cases accepted
  | some text => exact Matcher.ok_of_occurs accepted

namespace Filter

/-- Some text passes. -/
def Meetable (matcher : Matcher) (f : Filter) : Prop :=
  ∃ operator, f.operator = some operator ∧ operator.Meetable matcher (f.value.getD "")

/-- Some event passes that has a text in a field. -/
def Fits (matcher : Matcher) (f : Filter) (name text : String) : Prop :=
  ∀ field, nonempty? f.field = some field →
    if Event.sameField field name = true then
      Operator.accepts matcher f.operator (some text) f.value = true
    else f.Meetable matcher

variable {matcher : Matcher} {f : Filter} {e : Event} {name text : String}

theorem passes_of_named {field : String} (named : nonempty? f.field = some field) (e : Event) :
    f.passes matcher e = Operator.accepts matcher f.operator (e.field? field) f.value := by
  rw [passes, named]

theorem passes_of_unnamed (unnamed : nonempty? f.field = none) (e : Event) :
    f.passes matcher e = true := by
  rw [passes, unnamed]

/-- A filter that an event passes can be met. -/
theorem meetable_of_passes (stated : lacksValue f.operator f.value = none)
    (named : (nonempty? f.field).isSome = true) (passes : f.passes matcher e = true) :
    f.Meetable matcher := by
  obtain ⟨field, found⟩ := Option.isSome_iff_exists.mp named
  rw [passes_of_named found] at passes
  cases text : e.field? field with
  | none =>
    rw [text, Operator.accepts_absent] at passes
    cases passes
  | some text =>
    rw [text] at passes
    exact (Operator.exists_accepts_iff stated).mp ⟨_, passes⟩

/-- An event passes that has suitable texts in its fields, if the filter can be met. -/
theorem exists_passes (stated : lacksValue f.operator f.value = none)
    (meetable : (nonempty? f.field).isSome = true → f.Meetable matcher) :
    ∃ fields, ∀ id type, f.passes matcher (Event.bearing id type fields) = true := by
  cases found : nonempty? f.field with
  | none => exact ⟨[], fun id type => passes_of_unnamed found _⟩
  | some field =>
    have named : (nonempty? f.field).isSome = true := by
      rw [found]
      rfl
    obtain ⟨text, accepted⟩ := (Operator.exists_accepts_iff stated).mpr (meetable named)
    refine ⟨[(field, text)], fun id type => ?_⟩
    rw [passes_of_named found, Event.field?_bearing (nonempty?_ne_empty found), accepted]

/-- A filter that an event passes fits the texts that the event has. -/
theorem fits_of_passes (stated : lacksValue f.operator f.value = none) (namedField : name ≠ "")
    (has : e.field? name = some text) (passes : f.passes matcher e = true) :
    f.Fits matcher name text := by
  intro field found
  split
  · rename_i same
    rw [passes_of_named found,
      Event.field?_of_sameField (nonempty?_ne_empty found) namedField same, has] at passes
    exact passes
  · exact meetable_of_passes stated (by rw [found]; rfl) passes

/-- An event passes that has a text which the filter fits, and a suitable text in another field. -/
theorem Fits.exists_passes (fits : f.Fits matcher name text)
    (stated : lacksValue f.operator f.value = none) (namedField : name ≠ "") :
    ∃ rest, ∀ id type, f.passes matcher (Event.bearing id type ((name, text) :: rest)) = true := by
  cases found : nonempty? f.field with
  | none => exact ⟨[], fun id type => passes_of_unnamed found _⟩
  | some field =>
    have namedFilter := nonempty?_ne_empty found
    have fit := fits field found
    split at fit
    · rename_i same
      refine ⟨[], fun id type => ?_⟩
      rw [passes_of_named found, Event.field?_of_sameField namedFilter namedField same,
        Event.field?_bearing namedField, fit]
    · rename_i apart
      obtain ⟨other, accepted⟩ := (Operator.exists_accepts_iff stated).mpr fit
      refine ⟨[(field, other)], fun id type => ?_⟩
      rw [passes_of_named found,
        Event.field?_bearing_next namedFilter (Bool.eq_false_iff.mpr apart), accepted]

/-- A filter that can be met searches for no pattern that cannot be searched for. -/
theorem Meetable.ok (meetable : f.Meetable matcher) {pattern : String}
    (searches : f.SearchesFor pattern) : ∃ occursIn, matcher pattern = .ok occursIn := by
  obtain ⟨operator, given, met⟩ := meetable
  obtain ⟨-, regex, value⟩ := searches
  cases given.symm.trans regex
  rw [value] at met
  obtain ⟨field, occurs⟩ := met
  exact Matcher.ok_of_occurs occurs

/-- A filter that fits a text searches for no pattern that cannot be searched for. -/
theorem Fits.ok (fits : f.Fits matcher name text) {pattern : String}
    (searches : f.SearchesFor pattern) : ∃ occursIn, matcher pattern = .ok occursIn := by
  obtain ⟨field, found⟩ := Option.isSome_iff_exists.mp searches.1
  have fit := fits field found
  split at fit
  · rw [searches.2.1, searches.2.2] at fit
    exact Operator.ok_of_accepts fit
  · exact fit.ok searches

end Filter

end EnrollmentDiagnosis
