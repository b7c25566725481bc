import EnrollmentDiagnosis.Proofs.DetectionCriteria
import EnrollmentDiagnosis.Proofs.FactorGrammar
import EnrollmentDiagnosis.Rule.Record
import EnrollmentDiagnosis.Confidence

set_option autoImplicit false

namespace EnrollmentDiagnosis

namespace Text

variable {s : List Char} {n : Int}

theorem trimmed_eq_self_of_forall {drop : Char → Bool} (kept : ∀ c ∈ s, drop c = false) :
    trimmed drop s = s := by
  have front : s.dropWhile drop = s :=
    dropWhile_eq_self fun c found => kept c (List.mem_of_mem_head? found)
  have back : s.reverse.dropWhile drop = s.reverse :=
    dropWhile_eq_self fun c found => kept c (List.mem_reverse.mp (List.mem_of_mem_head? found))
  rw [trimmed, front, back, List.reverse_reverse]

theorem IsNumeral.unspaced (numeral : IsNumeral s n) : ∀ c ∈ s, isWhiteSpace c = false := by
  intro c member
  have unblank := numeral.unblank c member
  rw [isBlank, Bool.or_eq_false_iff] at unblank
  exact unblank.2

theorem baseDigit?_of_isDigit {c : Char} (digit : c.isDigit = true) :
    baseDigit? 10 c = some (c.toNat - 48) := by
  have high : c.toNat ≤ 0x39 := (Char.isDigit_iff_toNat.mp digit).2
  have value : c.toNat - 48 < 10 := by omega
  simp only [baseDigit?, digit?_of_isDigit digit, if_pos value]

theorem digitRun?_decimal (decimal : ∀ c ∈ s, c.isDigit = true) :
    digitRun? 10 true s = some (s.map fun c => c.toNat - 48, []) := by
  induction s with
  | nil => rfl
  | cons c rest ih =>
    obtain ⟨first, later⟩ := List.forall_mem_cons.mp decimal
    have noUnderscore : c ≠ '_' := by
      rintro rfl
      exact absurd first (by decide)
    rw [digitRun?, if_neg noUnderscore, baseDigit?_of_isDigit first]
    dsimp only
    rw [ih later]
    rfl

theorem digits?_decimal (decimal : ∀ c ∈ s, c.isDigit = true) :
    digits? 10 s = some (s.map fun c => c.toNat - 48, []) := by
  cases s with
  | nil => rfl
  | cons c rest =>
    obtain ⟨first, later⟩ := List.forall_mem_cons.mp decimal
    have noUnderscore : c ≠ '_' := by
      rintro rfl
      exact absurd first (by decide)
    have found := baseDigit?_of_isDigit first
    rw [digits?, if_pos (.inr (by rw [found]; rfl)), digitRun?, if_neg noUnderscore, found]
    dsimp only
    rw [digitRun?_decimal later]
    rfl

theorem dropBaseMark_ten (s : List Char) : dropBaseMark 10 s = s := by
  unfold dropBaseMark
  split
  · exact if_neg (by omega)
  · rfl

theorem signOf_decimal (decimal : ∀ c ∈ s, c.isDigit = true) : signOf s = (false, s) := by
  unfold signOf
  split
  · exact absurd (decimal '-' List.mem_cons_self) (by decide)
  · exact absurd (decimal '+' List.mem_cons_self) (by decide)
  · rfl

theorem integer_of_decimal {text : String} {negative : Bool}
    (spaceless : ∀ c ∈ text.toList, isWhiteSpace c = false)
    (signed : signOf text.toList = (negative, s)) (nonempty : s ≠ [])
    (decimal : ∀ c ∈ s, c.isDigit = true) (few : s.length ≤ maxIntegerDigits) :
    integer 10 text = .ok (if negative then -(Nat.ofDigitChars 10 s 0 : Int)
      else Nat.ofDigitChars 10 s 0) := by
  have someDigit : s.isEmpty = false := List.isEmpty_eq_false_iff.mpr nonempty
  have value := digitsValue_map s
  rw [digitsValue] at value
  simp only [integer, trimmed_eq_self_of_forall spaceless, signed, dropBaseMark_ten,
    digits?_decimal decimal, List.length_map, and_true, if_neg (Nat.not_lt.mpr few),
    List.isEmpty_map, someDigit, List.isEmpty_nil, Bool.not_true, Bool.or_self,
    Bool.false_eq_true, if_false, value]

/-- A numeral that fits is read as the integer that it denotes. -/
theorem integer_of_isNumeral {text : String} (chars : text.toList = s) (numeral : IsNumeral s n)
    (fit : NumbersFit s) : integer 10 text = .ok n := by
  have spaceless : ∀ c ∈ text.toList, isWhiteSpace c = false := by
    rw [chars]
    exact numeral.unspaced
  cases numeral with
  | positive nonempty decimal =>
    have few := fit s List.infix_rfl decimal
    exact integer_of_decimal spaceless (by rw [chars, signOf_decimal decimal]) nonempty decimal few
  | @negative digits nonempty decimal =>
    have few := fit digits (List.suffix_cons '-' digits).isInfix decimal
    exact integer_of_decimal spaceless (by rw [chars]; rfl) nonempty decimal few

/-- A numeral has no blanks to drop. -/
theorem strip_of_isNumeral {text : String} (numeral : IsNumeral text.toList n) :
    strip text = text := by
  rw [strip, trimmed_eq_self_of_forall numeral.unblank, String.ofList_toList]

end Text

open FactorTest Text

variable {d : String} {n : Int}

theorem Event.countOfType_eq_length (events : List Event) (type : String) :
    Event.countOfType events type = (Event.ofType events (some type)).length := by
  rw [Event.countOfType, Event.ofType_some, List.countP_eq_length_filter]

namespace Condition

theorem countThreshold?_of_isNumeral {c : Condition} (operator : c.operator = some .countGte)
    (value : c.value = some d) (numeral : IsNumeral d.toList n) (fit : NumbersFit d.toList) :
    c.countThreshold? = some n := by
  rw [countThreshold?, if_pos operator, value, Option.getD_some, strip_of_isNumeral numeral,
    integer_of_isNumeral rfl numeral fit]
  rfl

/-- A condition on a number of events matches when the events of its type are as many. -/
theorem detectCount_isMatch_of_isNumeral {c : Condition} {type : String}
    (typed : c.eventType = some type) (operator : c.operator = some .countGte)
    (value : c.value = some d) (numeral : IsNumeral d.toList n) (fit : NumbersFit d.toList)
    (events : List Event) :
    (c.detectCount events).isMatch = decide (n ≤ (Event.countOfType events type : Int)) := by
  rw [Bool.eq_iff_iff, detectCount_isMatch_iff, decide_eq_true_iff, typed,
    countThreshold?_of_isNumeral operator value numeral fit, Event.countOfType_eq_length]
  constructor
  · rintro ⟨threshold, same, enough⟩
    cases same
    exact enough
  · intro enough
    exact ⟨n, rfl, enough⟩

end Condition

namespace ConfidenceFactor

theorem parse_countAtLeast (numeral : IsNumeral d.toList n) (fit : NumbersFit d.toList) :
    FactorExpression.parse (some ("count >= " ++ d)) = .ok ⟨.countAtLeast n, "count >= " ++ d⟩ := by
  have blank : ∀ c ∈ [' '], isBlank c = true := List.forall_mem_singleton.mpr rfl
  have compares : Compares .count d.toList ("count >= " ++ d).toList := by
    rw [String.toList_append]
    exact @Compares.intro .count d.toList countWord [' '] [' '] rfl blank blank
  have read := @FactorExpression.parse_padded .count d.toList _ [] [] n compares numeral fit
    nofun nofun
  rw [List.nil_append, List.append_nil, String.ofList_toList] at read
  exact read

/-- A factor on a number of events of its signal and a condition on that number of events of that
type agree, whatever numeral the number is written as: the factor is always made, and for any
evidence and any events it applies exactly when the condition matches. -/
theorem counters_agree (type : String) (weight : Int) (numeral : IsNumeral d.toList n)
    (fit : d.toList.countP Char.isDigit ≤ maxIntegerDigits) :
    ∃ factor, make (type, "count >= " ++ d, weight) = .ok factor ∧
      ∀ c : Condition, c.eventType = some type → c.operator = some .countGte →
        c.value = some d → ∀ (m : MatchedEvidence) (events : List Event),
          factor.applies m events = .ok (c.detectCount events).isMatch := by
  have numbersFit := numbersFit_of_countP fit
  have parsed := parse_countAtLeast numeral numbersFit
  refine ⟨⟨type, "count >= " ++ d, weight, ⟨.countAtLeast n, "count >= " ++ d⟩⟩, ?_, ?_⟩
  · rw [make, parsed]
  · intro c typed operator value m events
    rw [Condition.detectCount_isMatch_of_isNumeral typed operator value numeral numbersFit, applies]

/-- The condition that a boot was seen at least once. -/
def bootCondition : Condition :=
  { (default : Condition) with
    source := .eventCount
    eventType := some "boot"
    operator := some .countGte
    value := some "001" }

/-- A boot whose type is written in capitals is counted by the factor and by the condition. -/
theorem capital_boot_counted :
    let boot : Event := { (default : Event) with type := "BOOT" }
    ∃ factor, make ("boot", "count >= " ++ "001", 10) = .ok factor ∧
      factor.applies [] [boot] = .ok true ∧ (bootCondition.detectCount [boot]).isMatch = true := by
  intro boot
  have numeral : IsNumeral "001".toList 1 := .positive nofun (List.all_eq_true.mp rfl)
  obtain ⟨factor, made, agree⟩ := counters_agree "boot" 10 numeral (by decide)
  have found : (bootCondition.detectCount [boot]).isMatch = true := by decide +kernel
  refine ⟨factor, made, ?_, found⟩
  rw [agree bootCondition rfl rfl rfl, found]

end ConfidenceFactor

end EnrollmentDiagnosis
