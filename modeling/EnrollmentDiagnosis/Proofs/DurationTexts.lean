import EnrollmentDiagnosis.Time.Duration
import Mathlib.Algebra.Order.Field.Power
import Mathlib.Algebra.Order.Floor.Semifield
import Mathlib.Data.Rat.Floor
import Mathlib.Tactic.NormNum
import Mathlib.Tactic.Positivity

set_option autoImplicit false

namespace EnrollmentDiagnosis

/-- The value of a finite number. -/
def Number.Binary64.rational? : Number.Binary64 → Option ℚ
  | .finite negative m e => some (if negative then -(m * 2 ^ e) else m * 2 ^ e)
  | _ => none

/-- Without its fraction, a positive number is the largest integer that is not above it. -/
theorem Number.Binary64.truncate?_finite (m : Nat) (e : Int) :
    (Binary64.finite false m e).truncate? = some ((⌊(m * 2 ^ e : ℚ)⌋₊ : Nat) : Int) := by
  simp only [truncate?, twoTo, Nat.pow_eq, Bool.false_eq_true, ↓reduceIte, Option.some.injEq,
    Nat.cast_inj]
  split
  · rename_i nonneg
    have whole : (m * 2 ^ e : ℚ) = ((m * 2 ^ e.toNat : Nat) : ℚ) := by
      have power : (2 : ℚ) ^ e = 2 ^ e.toNat := by
        rw [← zpow_natCast, Int.toNat_of_nonneg nonneg]
      rw [power]
      push_cast
      ring
    rw [whole, Nat.floor_natCast]
  · rename_i negative
    have quotient : (m * 2 ^ e : ℚ) = (m : ℚ) / ((2 ^ (-e).toNat : Nat) : ℚ) := by
      have power : (2 : ℚ) ^ e = (2 ^ (-e).toNat)⁻¹ := by
        rw [← zpow_natCast, Int.toNat_of_nonneg (by omega), zpow_neg, inv_inv]
      rw [power]
      push_cast
      exact (div_eq_mul_inv _ _).symm
    rw [quotient, Nat.floor_div_eq_div]

namespace Time

theorem wholeSeconds_eq {x : Number.Binary64} {p : ℚ} (finite : x.rational? = some p) :
    wholeSeconds x = .ok ⌊max p 0⌋₊ := by
  cases x with
  | nan => cases finite
  | infinite negative => cases finite
  | finite negative m e =>
    have size : (0 : ℚ) ≤ m * 2 ^ e := by positivity
    cases negative with
    | true =>
      have value : p = -(m * 2 ^ e) := (Option.some.inj finite).symm
      have none : max p 0 = 0 := max_eq_right (by linarith)
      rw [none, Nat.floor_zero]
      rfl
    | false =>
      have value : p = m * 2 ^ e := (Option.some.inj finite).symm
      rw [value, max_eq_left size, wholeSeconds, Number.Binary64.truncate?_finite]
      rfl

namespace HoursMinutesSeconds

/-- All of a duration in seconds. -/
def total (d : HoursMinutesSeconds) : Nat := 3600 * d.hours + 60 * d.minutes + d.seconds

theorem total_ofSeconds (n : Nat) : (ofSeconds n).total = n := by
  simp only [total, ofSeconds]
  omega

theorem ofSeconds_minutes_lt (n : Nat) : (ofSeconds n).minutes < 60 := by
  simp only [ofSeconds]
  omega

theorem ofSeconds_seconds_lt (n : Nat) : (ofSeconds n).seconds < 60 := by
  simp only [ofSeconds]
  omega

theorem ofSeconds_injective : Function.Injective ofSeconds :=
  Function.LeftInverse.injective total_ofSeconds

/-- The numbers that a text names for a duration, each with its unit: the hours unless there are
none, the minutes unless there are neither hours nor minutes, and the seconds. -/
def named (d : HoursMinutesSeconds) : List (Nat × Char) :=
  (if d.hours = 0 then [] else [(d.hours, 'h')]) ++
    (if d.hours = 0 ∧ d.minutes = 0 then [] else [(d.minutes, 'm')]) ++ [(d.seconds, 's')]

/-- A number in decimal with its unit behind it. -/
def written (part : Nat × Char) : List Char := Nat.toDigits 10 part.1 ++ [part.2]

/-- True for the text that names a duration, with blanks between the numbers. -/
def NamedBy (d : HoursMinutesSeconds) (text : String) : Prop :=
  text.toList = [' '].intercalate (d.named.map written)

theorem namedBy_text (d : HoursMinutesSeconds) : d.NamedBy d.text := by
  unfold NamedBy text named written
  by_cases noHours : d.hours = 0
  · by_cases noMinutes : d.minutes = 0
    · simp [noHours, noMinutes, Number.digitsOf]
    · simp [noHours, noMinutes, Number.digitsOf]
  · simp [noHours, Number.digitsOf]

theorem written_injective : Function.Injective written := by
  rintro ⟨n, unit⟩ ⟨k, other⟩ same
  obtain ⟨digits, units⟩ := List.append_inj' same rfl
  have numbers : n = k := by
    calc n = Nat.ofDigitChars 10 (Nat.toDigits 10 n) 0 := Nat.ofDigitChars_ten_toDigits.symm
      _ = Nat.ofDigitChars 10 (Nat.toDigits 10 k) 0 := by rw [digits]
      _ = k := Nat.ofDigitChars_ten_toDigits
  have sameUnit : unit = other := List.singleton_inj.mp units
  rw [numbers, sameUnit]

theorem blank_not_mem_written {part : Nat × Char} (unit : part.2 ≠ ' ') : ' ' ∉ written part := by
  intro member
  rcases List.mem_append.mp member with digit | last
  · have decimal : ' '.isDigit = true := Nat.isDigit_of_mem_toDigits (by decide) (by decide) digit
    exact absurd decimal (by decide)
  · exact unit (List.mem_singleton.mp last).symm

theorem unit_of_mem_named {d : HoursMinutesSeconds} {part : Nat × Char} (member : part ∈ d.named) :
    part.2 ≠ ' ' := by
  have units : ∀ unit ∈ d.named.map Prod.snd, unit ∈ ['h', 'm', 's'] := by
    unfold named
    split_ifs <;> simp
  have listed := units part.2 (List.mem_map_of_mem member)
  intro blank
  rw [blank] at listed
  exact absurd listed (by decide)

theorem splitOn_of_namedBy {d : HoursMinutesSeconds} {text : String} (names : d.NamedBy text) :
    text.toList.splitOn ' ' = d.named.map written := by
  have unblank : ∀ part ∈ d.named.map written, ' ' ∉ part := by
    intro part member
    obtain ⟨named, listed, rfl⟩ := List.mem_map.mp member
    exact blank_not_mem_written (unit_of_mem_named listed)
  have some : d.named.map written ≠ [] := by
    simp [named]
  rw [names]
  exact List.splitOn_intercalate ' ' unblank some

/-- The number that stands before a unit, zero if the unit is not there. -/
def amount (parts : List (Nat × Char)) (unit : Char) : Nat :=
  ((parts.find? fun part => part.2 == unit).map Prod.fst).getD 0

/-- The duration whose numbers are named. -/
def ofNamed (parts : List (Nat × Char)) : HoursMinutesSeconds :=
  ⟨amount parts 'h', amount parts 'm', amount parts 's'⟩

theorem ofNamed_named (d : HoursMinutesSeconds) : ofNamed d.named = d := by
  obtain ⟨hours, minutes, seconds⟩ := d
  unfold ofNamed amount named
  by_cases noHours : hours = 0
  · by_cases noMinutes : minutes = 0
    · simp [noHours, noMinutes]
    · simp [noHours, noMinutes]
  · simp [noHours]

theorem named_injective : Function.Injective named := Function.LeftInverse.injective ofNamed_named

/-- A text names one duration only. -/
theorem NamedBy.unique {d e : HoursMinutesSeconds} {text : String} (first : d.NamedBy text)
    (second : e.NamedBy text) : d = e := by
  have parts : d.named.map written = e.named.map written := by
    rw [← splitOn_of_namedBy first, splitOn_of_namedBy second]
  exact named_injective (List.map_injective_iff.mpr written_injective parts)

theorem text_ofSeconds_inj {n k : Nat} : (ofSeconds n).text = (ofSeconds k).text ↔ n = k := by
  constructor
  · intro same
    have first := namedBy_text (ofSeconds n)
    rw [same] at first
    exact ofSeconds_injective (first.unique (namedBy_text (ofSeconds k)))
  · intro same
    rw [same]

end HoursMinutesSeconds

/-- Every finite number of seconds has a text. It names hours, minutes below sixty and seconds below
sixty, which together are the whole seconds of the number, none if it is negative. Two numbers have
the same text if and only if they have the same whole seconds. -/
theorem durationText_names_whole_seconds {x y : Number.Binary64} {p q : ℚ}
    (finite : x.rational? = some p) (finiteToo : y.rational? = some q) :
    (∃ text, durationText x = .ok text ∧
      ∃ d : HoursMinutesSeconds, d.NamedBy text ∧ d.minutes < 60 ∧ d.seconds < 60 ∧
        3600 * d.hours + 60 * d.minutes + d.seconds = ⌊max p 0⌋₊) ∧
    (durationText x = durationText y ↔ ⌊max p 0⌋₊ = ⌊max q 0⌋₊) := by
  have written : durationText x = .ok (HoursMinutesSeconds.ofSeconds ⌊max p 0⌋₊).text := by
    rw [durationText, wholeSeconds_eq finite]
    rfl
  have writtenToo : durationText y = .ok (HoursMinutesSeconds.ofSeconds ⌊max q 0⌋₊).text := by
    rw [durationText, wholeSeconds_eq finiteToo]
    rfl
  constructor
  · refine ⟨_, written, HoursMinutesSeconds.ofSeconds ⌊max p 0⌋₊, ?_, ?_, ?_, ?_⟩
    · exact HoursMinutesSeconds.namedBy_text _
    · exact HoursMinutesSeconds.ofSeconds_minutes_lt _
    · exact HoursMinutesSeconds.ofSeconds_seconds_lt _
    · exact HoursMinutesSeconds.total_ofSeconds _
  · rw [written, writtenToo, Except.ok.injEq]
    exact HoursMinutesSeconds.text_ofSeconds_inj

/-- Half a second before the hour is up the text still has no hours. -/
theorem durationText_around_hour :
    durationText (.finite false 7199 (-1)) = .ok "59m 59s" ∧
      durationText (.finite false 3600 0) = .ok "1h 0m 0s" ∧
      durationText (.finite false 7199 (-1)) ≠ durationText (.finite false 3600 0) := by
  have before : (Number.Binary64.finite false 7199 (-1)).rational? = some (7199 / 2) := by
    norm_num [Number.Binary64.rational?]
  have after : (Number.Binary64.finite false 3600 0).rational? = some 3600 := by
    norm_num [Number.Binary64.rational?]
  have seconds : ⌊max (7199 / 2 : ℚ) 0⌋₊ = 3599 := by
    rw [max_eq_left (by norm_num), Nat.floor_eq_iff (by norm_num)]
    norm_num
  have secondsAfter : ⌊max (3600 : ℚ) 0⌋₊ = 3600 := by
    rw [max_eq_left (by norm_num), Nat.floor_ofNat]
  obtain ⟨-, sameText⟩ := durationText_names_whole_seconds before after
  refine ⟨by decide +kernel, by decide +kernel, ?_⟩
  rw [Ne, sameText, seconds, secondsAfter]
  decide

end Time

end EnrollmentDiagnosis
