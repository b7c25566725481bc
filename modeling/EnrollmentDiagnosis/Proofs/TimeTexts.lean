import EnrollmentDiagnosis.Proofs.CalendarDates
import EnrollmentDiagnosis.Time.Reading

set_option autoImplicit false

namespace EnrollmentDiagnosis

namespace Text

theorem filterMap_asciiDigit? {s : List Char} (digits : ∀ c ∈ s, c.isDigit = true) :
    s.filterMap asciiDigit? = s.map fun c => c.toNat - 48 := by
  induction s with
  | nil => rfl
  | cons c rest ih =>
    have first : asciiDigit? c = some (c.toNat - 48) := if_pos (digits c List.mem_cons_self)
    rw [List.filterMap_cons_some first, List.map_cons,
      ih fun d member => digits d (List.mem_cons_of_mem c member)]

/-- Two ways to read a number off its digits. -/
theorem digitsValue_map (s : List Char) :
    digitsValue (s.map fun c => c.toNat - 48) = Nat.ofDigitChars 10 s 0 := by
  rw [digitsValue, List.foldl_map, Nat.ofDigitChars_eq_foldl]
  congr 1
  funext total c
  rw [Nat.mul_comm]
  rfl

end Text

namespace Time

variable {width n : Nat}

theorem isDigit_of_mem_paddedNumber :
    ∀ c ∈ paddedNumber width n, c.isDigit = true := by
  intro c member
  rcases List.mem_append.mp member with zero | digit
  · rw [List.eq_of_mem_replicate zero]
    rfl
  · exact Nat.isDigit_of_mem_toDigits (by decide) (by decide) digit

theorem length_paddedNumber (positive : 0 < width) (fits : n < 10 ^ width) :
    (paddedNumber width n).length = width := by
  have short : (Number.digitsOf n).length ≤ width :=
    (Nat.length_toDigits_le_iff (by decide) positive).mpr fits
  rw [paddedNumber, Number.padded, List.length_append, List.length_replicate]
  omega

theorem ofDigitChars_paddedNumber (width n : Nat) :
    Nat.ofDigitChars 10 (paddedNumber width n) 0 = n := by
  rw [paddedNumber, Number.padded, Nat.ofDigitChars_append, Nat.ofDigitChars_replicate_zero,
    Nat.mul_zero]
  exact Nat.ofDigitChars_ten_toDigits

theorem digits_paddedNumber (width n : Nat) :
    (paddedNumber width n).filterMap Text.asciiDigit? =
      (paddedNumber width n).map fun c => c.toNat - 48 :=
  Text.filterMap_asciiDigit? isDigit_of_mem_paddedNumber

/-- A number is read back from its digits, whatever follows them. -/
theorem fixedNumber?_paddedNumber (positive : 0 < width) (fits : n < 10 ^ width)
    (rest : List Char) :
    fixedNumber? width (paddedNumber width n ++ rest) = some (n, rest) := by
  have length := length_paddedNumber positive fits
  simp only [fixedNumber?]
  rw [List.take_left' length, List.drop_left' length, digits_paddedNumber, List.length_map,
    if_pos length, Text.digitsValue_map, ofDigitChars_paddedNumber]

/-- A number of two digits is read back. -/
theorem fixedNumber?_two (fits : n < 100) (rest : List Char) :
    fixedNumber? 2 (paddedNumber 2 n ++ rest) = some (n, rest) :=
  fixedNumber?_paddedNumber (by decide) fits rest

theorem expect?_cons (c : Char) (rest : List Char) : expect? c (c :: rest) = some rest :=
  if_pos rfl

/-- A date that exists is read back from its text, whatever follows it. -/
theorem date?_isoChars {date : Date} (valid : date.isValid = true) (rest : List Char) :
    date? (date.isoChars ++ rest) = some (date, rest) := by
  have bounds := valid
  simp only [Date.isValid, Bool.and_eq_true, decide_eq_true_eq] at bounds
  obtain ⟨⟨⟨⟨⟨-, year⟩, -⟩, month⟩, -⟩, day⟩ := bounds
  have years : date.year < 10 ^ 4 := Nat.lt_succ_of_le year
  have months : date.month < 100 := by omega
  have days : date.day < 100 := by
    have := monthLength_le (isLeapYear date.year) date.month
    omega
  have yearRead (s : List Char) := fixedNumber?_paddedNumber (by decide) years s
  simp only [date?, Date.isoChars, List.append_assoc, List.cons_append, Option.bind_eq_bind,
    yearRead, fixedNumber?_two months, fixedNumber?_two days, expect?_cons, Option.bind_some,
    if_pos valid]

/-- A fraction of six digits is read back as microseconds when no further digit follows. -/
theorem fraction?_point {c : Char} (ends : c.isDigit = false) (fits : n < 1000000)
    (rest : List Char) :
    fraction? ('.' :: (paddedNumber 6 n ++ c :: rest)) = some (n, c :: rest) := by
  have length : (paddedNumber 6 n).length = 6 := length_paddedNumber (by decide) fits
  have taken : (paddedNumber 6 n ++ c :: rest).takeWhile Char.isDigit = paddedNumber 6 n := by
    rw [List.takeWhile_append_of_pos isDigit_of_mem_paddedNumber,
      List.takeWhile_cons_of_neg (by rw [ends]; decide), List.append_nil]
  have dropped : (paddedNumber 6 n ++ c :: rest).dropWhile Char.isDigit = c :: rest := by
    rw [List.dropWhile_append_of_pos isDigit_of_mem_paddedNumber,
      List.dropWhile_cons_of_neg (by rw [ends]; decide)]
  have digits : ((paddedNumber 6 n).map fun c => c.toNat - 48).length = 6 :=
    (List.length_map _).trans length
  have unit : Number.tenTo 0 = 1 := rfl
  simp only [fraction?, taken, dropped, digits_paddedNumber]
  rw [List.isEmpty_eq_false_iff.mpr (List.ne_nil_of_length_eq_add_one digits),
    List.take_of_length_le (Nat.le_of_eq digits), digits, Text.digitsValue_map,
    ofDigitChars_paddedNumber, Nat.sub_self, unit, Nat.mul_one]
  rfl

theorem offsetChars_start (offset : Int) :
    ∃ sign rest, offsetChars offset = sign :: rest ∧ sign.isDigit = false := by
  refine ⟨_, _, rfl, ?_⟩
  split <;> rfl

/-- No fraction is read where an offset starts. -/
theorem fraction?_offsetChars (offset : Int) :
    fraction? (offsetChars offset) = some (0, offsetChars offset) := by
  unfold offsetChars
  split <;> rfl

/-- The fraction of a clock time, which is not written if it is zero, is read back in front of an
offset. -/
theorem fraction?_written (fits : n < 1000000) (offset : Int) :
    fraction? ((if n = 0 then [] else '.' :: paddedNumber 6 n) ++ offsetChars offset) =
      some (n, offsetChars offset) := by
  split
  · rename_i whole
    rw [List.nil_append, whole]
    exact fraction?_offsetChars offset
  · obtain ⟨sign, rest, start, ends⟩ := offsetChars_start offset
    rw [start]
    exact fraction?_point ends fits rest

/-- Universal time is written as an offset of zero. -/
theorem offset?_universal : offset? (offsetChars 0) = some (some 0) := by
  decide +kernel

/-- A clock reading is read back from its parts. -/
theorem wallClock_parts {t : Timestamp} (started : 0 ≤ t.wall) :
    wallClock t.parts.date t.parts.hour t.parts.minute t.parts.second t.parts.microsecond =
      t.wall := by
  simp only [wallClock, Timestamp.parts, dayNumber_ofDayNumber, microsecondsPerDay,
    microsecondsPerSecond]
  omega

variable {t : Instant}

theorem inCalendar_iff :
    t.inCalendar = true ↔
      0 ≤ t.microseconds ∧ t.microseconds < calendarDays * microsecondsPerDay := by
  simp only [Instant.inCalendar, Bool.and_eq_true, decide_eq_true_eq]

/-- The date of an instant of the calendar exists. -/
theorem date_isValid (within : t.inCalendar = true) : t.timestamp.parts.date.isValid = true := by
  obtain ⟨started, ended⟩ := inCalendar_iff.mp within
  refine ofDayNumber_isValid ?_
  simp only [Instant.timestamp, microsecondsPerDay, calendarDays] at ended ⊢
  omega

/-- An instant of the calendar is read back from its text. -/
theorem isoTimestamp?_isoChars (within : t.inCalendar = true) :
    isoTimestamp? (t.timestamp.isoChars 'T') = some t.timestamp := by
  have started : 0 ≤ t.timestamp.wall := (inCalendar_iff.mp within).1
  have wall := wallClock_parts started
  have inDay : (t.timestamp.wall % microsecondsPerDay).toNat < 86400000000 := by
    simp only [microsecondsPerDay]
    omega
  have hour : t.timestamp.parts.hour < 24 := by
    simp only [Timestamp.parts]
    omega
  have minute : t.timestamp.parts.minute < 60 := Nat.mod_lt _ (by decide)
  have second : t.timestamp.parts.second < 60 := Nat.mod_lt _ (by decide)
  have microsecond : t.timestamp.parts.microsecond < 1000000 := Nat.mod_lt _ (by decide)
  have offset : t.timestamp.offset = some 0 := rfl
  simp only [isoTimestamp?, Timestamp.isoChars, offset, List.append_assoc, List.cons_append,
    date?_isoChars (date_isValid within), Option.bind_eq_bind, Option.bind_some]
  rw [if_pos (by decide)]
  simp only [fixedNumber?_two (Nat.lt_trans hour (by decide : 24 < 100)),
    fixedNumber?_two (Nat.lt_trans minute (by decide : 60 < 100)),
    fixedNumber?_two (Nat.lt_trans second (by decide : 60 < 100)), Option.bind_eq_bind,
    expect?_cons, seconds?, fraction?_written microsecond, offset?_universal, Option.bind_some]
  rw [if_pos ⟨hour, minute, second⟩, wall]
  rfl

/-- An instant of the calendar stands for itself on a clock of universal time. -/
theorem instant?_timestamp (within : t.inCalendar = true) : t.timestamp.instant? = some t := by
  have shifted : t.timestamp.wall - t.timestamp.offset.getD 0 * microsecondsPerSecond =
      t.microseconds := by
    simp only [Instant.timestamp, Option.getD_some, Int.zero_mul, Int.sub_zero]
  simp only [Timestamp.instant?, shifted]
  exact if_pos within

/-- A reading has an instant only within the calendar. -/
theorem inCalendar_of_instant? {reading : Timestamp} (found : reading.instant? = some t) :
    t.inCalendar = true := by
  simp only [Timestamp.instant?] at found
  split at found
  · rename_i within
    rw [← Option.some.inj found]
    exact within
  · cases found

theorem ofText?_isoText (within : t.inCalendar = true) :
    Timestamp.ofText? t.isoText = some t.timestamp := by
  rw [Timestamp.ofText?, Instant.isoText, Timestamp.isoText, String.toList_ofList,
    isoTimestamp?_isoChars within]

end Time

end EnrollmentDiagnosis
