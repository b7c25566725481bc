import EnrollmentDiagnosis.Time.Calendar
import Mathlib

set_option autoImplicit false

namespace EnrollmentDiagnosis.Time

/-- The number of days of a year. -/
def yearLength (year : Nat) : Nat := if isLeapYear year then 366 else 365

theorem isLeapYear_iff (year : Nat) :
    isLeapYear year = true ↔ year % 4 = 0 ∧ (year % 100 ≠ 0 ∨ year % 400 = 0) := by
  simp only [isLeapYear, Bool.and_eq_true, Bool.or_eq_true, beq_iff_eq, bne_iff_ne]

/-- The days before a year that lies in a given cycle of a given century of an era. -/
theorem daysBeforeYear_eq {e c k y : Nat} (centuries : c ≤ 3) (cycles : k ≤ 24) (years : y ≤ 3) :
    daysBeforeYear (e * 400 + c * 100 + k * 4 + y + 1) =
      146097 * e + 36524 * c + 1461 * k + 365 * y := by
  have quarters : (e * 400 + c * 100 + k * 4 + y) / 4 = 100 * e + 25 * c + k := by omega
  have hundreds : (e * 400 + c * 100 + k * 4 + y) / 100 = 4 * e + c := by omega
  have eras : (e * 400 + c * 100 + k * 4 + y) / 400 = e := by omega
  simp only [daysBeforeYear, Nat.add_sub_cancel, quarters, hundreds, eras]
  omega

/-- A year is found with a day of it that exists. -/
theorem yearAndDay_spec (n : Nat) :
    1 ≤ (yearAndDay n).1 ∧ daysBeforeYear (yearAndDay n).1 + (yearAndDay n).2 = n ∧
      (yearAndDay n).2 < yearLength (yearAndDay n).1 := by
  unfold yearAndDay
  dsimp only
  generalize era : n / 146097 = e
  generalize inEra : n % 146097 = r
  generalize century : min (r / 36524) 3 = c
  generalize inCentury : r - c * 36524 = s
  generalize cycle : s / 1461 = k
  generalize inCycle : s % 1461 = t
  generalize year : min (t / 365) 3 = y
  have days : n = 146097 * e + 36524 * c + 1461 * k + t := by omega
  have cycles : k ≤ 24 := by omega
  have years : y ≤ 3 := by omega
  have centuries : c ≤ 3 := by omega
  refine ⟨by omega, ?_, ?_⟩
  · rw [daysBeforeYear_eq centuries cycles years]
    omega
  · unfold yearLength
    split
    · omega
    · rename_i common
      -- Only the last year of a cycle could have one day more, and then it is a leap year.
      rw [isLeapYear_iff] at common
      by_cases last : y = 3
      · have fourth : (e * 400 + c * 100 + k * 4 + y + 1) % 4 = 0 := by omega
        have hundredth : (e * 400 + c * 100 + k * 4 + y + 1) % 100 = 0 ∧
            (e * 400 + c * 100 + k * 4 + y + 1) % 400 ≠ 0 := by
          omega
        have lastCycle : k = 24 := by omega
        have early : c ≤ 2 := by omega
        omega
      · omega

/-- A month is found among given ones, with a day of it that exists. -/
theorem monthAndDay_spec {lengths : List Nat} {n : Nat} (within : n < lengths.sum) (month : Nat) :
    ∃ k < lengths.length, (monthAndDay lengths month n).1 = month + k ∧
      1 ≤ (monthAndDay lengths month n).2 ∧
      (monthAndDay lengths month n).2 ≤ lengths[k]?.getD 0 ∧
      (lengths.take k).sum + ((monthAndDay lengths month n).2 - 1) = n := by
  induction lengths generalizing month n with
  | nil => exact absurd within (Nat.not_lt_zero n)
  | cons length rest ih =>
    unfold monthAndDay
    rw [List.sum_cons] at within
    split
    · rename_i here
      refine ⟨0, Nat.zero_lt_succ _, rfl, Nat.le_add_left 1 n, here, ?_⟩
      simp only [List.take_zero, List.sum_nil, Nat.add_sub_cancel, Nat.zero_add]
    · rename_i later
      have rests : n - length < rest.sum := by omega
      obtain ⟨k, among, found, least, most, days⟩ := ih rests (month + 1)
      refine ⟨k + 1, Nat.succ_lt_succ among, by omega, least, ?_, ?_⟩
      · rwa [List.getElem?_cons_succ]
      · rw [List.take_succ_cons, List.sum_cons]
        omega

theorem sum_monthLengths (leap : Bool) :
    (monthLengths leap).sum = if leap then 366 else 365 := by
  cases leap <;> rfl

theorem daysBeforeMonth_eq (leap : Bool) (month : Nat) :
    daysBeforeMonth leap month = ((monthLengths leap).take (month - 1)).sum :=
  List.sum_eq_foldl.symm

theorem monthLength_succ (leap : Bool) (k : Nat) :
    monthLength leap (k + 1) = (monthLengths leap)[k]?.getD 0 := by
  rw [monthLength, if_neg (Nat.succ_ne_zero k), Nat.add_sub_cancel]

/-- No month has more than two digits of days. -/
theorem monthLength_le (leap : Bool) (month : Nat) : monthLength leap month ≤ 31 := by
  have among : ∀ length ∈ monthLengths leap, length ≤ 31 := by
    revert leap
    decide
  cases month with
  | zero => exact Nat.zero_le 31
  | succ k =>
    rw [monthLength_succ]
    cases found : (monthLengths leap)[k]? with
    | none => exact Nat.zero_le 31
    | some length => exact among length (List.mem_of_getElem? found)

variable {n : Nat}

/-- The years of the calendar end with its days. -/
theorem year_le_of_days {year : Nat} (within : daysBeforeYear year < calendarDays) :
    year ≤ maxYear := by
  simp only [daysBeforeYear, calendarDays] at within
  unfold maxYear
  omega

/-- The parts of the date with a number: the year with a day of it, and the month of that day. -/
theorem ofDayNumber_spec (n : Nat) :
    ∃ year inYear k day, yearAndDay n = (year, inYear) ∧ k < 12 ∧
      Date.ofDayNumber n = ⟨year, k + 1, day⟩ ∧
      1 ≤ day ∧ day ≤ (monthLengths (isLeapYear year))[k]?.getD 0 ∧
      ((monthLengths (isLeapYear year)).take k).sum + (day - 1) = inYear := by
  obtain ⟨-, -, within⟩ := yearAndDay_spec n
  rw [yearLength, ← sum_monthLengths] at within
  rcases found : yearAndDay n with ⟨year, inYear⟩
  rw [found] at within
  obtain ⟨k, among, month, parts⟩ := monthAndDay_spec within 1
  refine ⟨year, inYear, k, _, rfl, among, ?_, parts⟩
  simp only [Date.ofDayNumber, found, month, Nat.add_comm 1 k]

/-- The date with a number of the calendar exists. -/
theorem ofDayNumber_isValid (within : n < calendarDays) : (Date.ofDayNumber n).isValid = true := by
  obtain ⟨first, days, -⟩ := yearAndDay_spec n
  obtain ⟨year, inYear, k, day, found, among, date, least, most, -⟩ := ofDayNumber_spec n
  rw [found] at first days
  have last : year ≤ maxYear :=
    year_le_of_days (Nat.lt_of_le_of_lt (days ▸ Nat.le_add_right _ _) within)
  simp only [Date.isValid, Bool.and_eq_true, decide_eq_true_eq, date, monthLength_succ]
  exact ⟨⟨⟨⟨⟨first, last⟩, Nat.le_add_left 1 k⟩, among⟩, least⟩, most⟩

/-- The date with a number has that number. -/
theorem dayNumber_ofDayNumber (n : Nat) : (Date.ofDayNumber n).dayNumber = n := by
  obtain ⟨-, days, -⟩ := yearAndDay_spec n
  obtain ⟨year, inYear, k, day, found, -, date, -, -, before⟩ := ofDayNumber_spec n
  rw [found] at days
  rw [date, Date.dayNumber, daysBeforeMonth_eq, Nat.add_sub_cancel, Nat.add_assoc, before]
  exact days

end EnrollmentDiagnosis.Time
