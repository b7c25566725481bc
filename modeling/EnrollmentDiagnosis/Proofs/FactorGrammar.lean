import EnrollmentDiagnosis.Proofs.AsciiTexts
import EnrollmentDiagnosis.Rule.Factor

set_option autoImplicit false

namespace EnrollmentDiagnosis

namespace FactorTest

/-- The word for a signal that was matched. -/
def existsWord : List Char := ['e', 'x', 'i', 's', 't', 's']

/-- What is compared with a number. -/
inductive Measure where
  | count
  | duration

namespace Measure

def word : Measure → List Char
  | count => countWord
  | duration => durationWord

/-- The sign of comparison behind the word. -/
def sign : Measure → List Char
  | count => ['>', '=']
  | duration => ['>']

/-- The test that a comparison with a number stands for. -/
def test : Measure → Int → FactorTest
  | count => countAtLeast
  | duration => durationAbove

/-- The letter that the word starts with. -/
def initial : Measure → Char
  | count => 'c'
  | duration => 'p'

end Measure

/-- The texts that compare a measure with a written number: the word in any case, the sign and the
number, with any blanks before and after the sign. -/
inductive Compares (measure : Measure) (number : List Char) : List Char → Prop where
  | intro {word before after : List Char} (cased : word.map Char.toLower = measure.word)
      (blankBefore : ∀ c ∈ before, Text.isBlank c = true)
      (blankAfter : ∀ c ∈ after, Text.isBlank c = true) :
      Compares measure number (word ++ (before ++ (measure.sign ++ (after ++ number))))

/-- The tests that texts describe: a word in any case, or a comparison with a numeral. -/
inductive Describes : List Char → FactorTest → Prop where
  | matched {s : List Char} (cased : s.map Char.toLower = existsWord) : Describes s .matched
  | compared {s number : List Char} {n : Int} (measure : Measure)
      (compares : Compares measure number s) (numeral : Text.IsNumeral number n) :
      Describes s (measure.test n)

variable {letter c : Char} {word s rest : List Char}

theorem standsFor_of_toLower (same : c.toLower = letter) : standsFor letter c = true := by
  by_cases upper : c.isUpper = true
  · simp only [standsFor, upper, same, beq_self_eq_true, Bool.and_self, Bool.or_true, Bool.true_or]
  · have own : c = letter := by rw [← same, Text.toLower_of_not_isUpper upper]
    simp only [standsFor, own, beq_self_eq_true, Bool.true_or]

theorem toLower_of_standsFor (plain : letter.isUpper = false) (ascii : c.toNat < 0x80)
    (stands : standsFor letter c = true) : c.toLower = letter := by
  simp only [standsFor, Bool.or_eq_true, Bool.and_eq_true, beq_iff_eq] at stands
  rcases stands with ((own | ⟨-, lower⟩) | ⟨-, foreign⟩) | ⟨-, foreign | foreign⟩
  · rw [own, Text.toLower_of_not_isUpper (by rw [plain]; exact Bool.false_ne_true)]
  · exact lower
  all_goals
    rw [foreign] at ascii
    exact absurd ascii (by decide)

theorem afterWord?_append {written : List Char} (cased : written.map Char.toLower = word)
    (rest : List Char) : afterWord? word (written ++ rest) = some rest := by
  induction written generalizing word with
  | nil =>
    subst cased
    rfl
  | cons c written ih =>
    subst cased
    rw [List.map_cons, List.cons_append, afterWord?, if_pos (standsFor_of_toLower rfl)]
    exact ih rfl

theorem written_of_afterWord? (plain : ∀ letter ∈ word, letter.isUpper = false)
    (ascii : Text.IsAscii s) (found : afterWord? word s = some rest) :
    ∃ written, s = written ++ rest ∧ written.map Char.toLower = word := by
  induction word generalizing s with
  | nil =>
    cases found
    exact ⟨[], rfl, rfl⟩
  | cons letter word ih =>
    obtain ⟨plainFirst, plainLater⟩ := List.forall_mem_cons.mp plain
    cases s with
    | nil => cases found
    | cons c s =>
      obtain ⟨asciiFirst, asciiLater⟩ := List.forall_mem_cons.mp ascii
      unfold afterWord? at found
      split at found
      · rename_i stands
        obtain ⟨written, rfl, cased⟩ := ih plainLater asciiLater found
        refine ⟨c :: written, rfl, ?_⟩
        rw [List.map_cons, cased, toLower_of_standsFor plainFirst asciiFirst stands]
      · cases found

theorem map_toLower_of_noLetters {sign written : List Char}
    (noLetters : ∀ c ∈ sign, c.isAlpha = false) (cased : written.map Char.toLower = sign) :
    written = sign := by
  subst cased
  induction written with
  | nil => rfl
  | cons c written ih =>
    obtain ⟨first, later⟩ := List.forall_mem_cons.mp noLetters
    rw [List.map_cons, ← ih later, ← (Text.toLower_eq_iff_of_not_isAlpha first).mp rfl]

open Text

variable {n : Int} {number : List Char} {result : Except NumeralError Int}

/-- The number that digits behind a sign denote, unless there are too many of them. -/
def ofDigits? (negative : Bool) (digits : List Char) : Option (Except NumeralError Int) :=
  let values := digits.filterMap digit?
  if digits.isEmpty || values.length != digits.length then none
  else if maxIntegerDigits < values.length then some (.error (.tooManyDigits values.length))
  else
    let size : Int := digitsValue values
    some (.ok (if negative then -size else size))

theorem signedDigits?_minus (digits : List Char) :
    signedDigits? ('-' :: digits) = ofDigits? true digits := rfl

theorem signedDigits?_plain (unsigned : ∀ rest, s ≠ '-' :: rest) :
    signedDigits? s = ofDigits? false s := by
  unfold signedDigits?
  split
  rename_i parts
  split at parts
  · exact absurd rfl (unsigned _)
  · cases parts
    rfl

theorem ofDigits?_decimal {digits : List Char} (nonempty : digits ≠ [])
    (decimal : ∀ c ∈ digits, c.isDigit = true) (few : digits.length ≤ maxIntegerDigits)
    (negative : Bool) :
    ofDigits? negative digits = some (.ok (if negative then -(Nat.ofDigitChars 10 digits 0 : Int)
      else Nat.ofDigitChars 10 digits 0)) := by
  have someDigit : digits.isEmpty = false := List.isEmpty_eq_false_iff.mpr nonempty
  simp only [ofDigits?, filterMap_digit? decimal, List.length_map, someDigit, bne_self_eq_false,
    Bool.or_false, Bool.false_eq_true, if_false, if_neg (Nat.not_lt.mpr few), digitsValue_map]

theorem decimal_of_ofDigits? {digits : List Char} {negative : Bool} (ascii : IsAscii digits)
    (found : ofDigits? negative digits = some result) :
    digits ≠ [] ∧ ∀ c ∈ digits, c.isDigit = true := by
  unfold ofDigits? at found
  dsimp only at found
  split at found
  · cases found
  · rename_i whole
    simp only [Bool.or_eq_true, List.isEmpty_iff, bne_iff_ne, not_or, not_not] at whole
    obtain ⟨nonempty, all⟩ := whole
    refine ⟨nonempty, fun c member => ?_⟩
    exact isDigit_of_digit? (ascii c member) (List.filterMap_length_eq_length.mp all c member)

theorem signedDigits?_of_isNumeral (numeral : IsNumeral number n) (fit : NumbersFit number) :
    signedDigits? number = some (.ok n) := by
  cases numeral with
  | positive nonempty decimal =>
    have few := fit number List.infix_rfl decimal
    have unsigned : ∀ rest, number ≠ '-' :: rest := by
      rintro rest rfl
      exact absurd (decimal '-' List.mem_cons_self) (by decide)
    rw [signedDigits?_plain unsigned, ofDigits?_decimal nonempty decimal few]
    rfl
  | @negative digits nonempty decimal =>
    have few := fit digits (List.suffix_cons '-' digits).isInfix decimal
    rw [signedDigits?_minus, ofDigits?_decimal nonempty decimal few]
    rfl

theorem isNumeral_of_signedDigits? (ascii : IsAscii number)
    (found : signedDigits? number = some result) : ∃ n, IsNumeral number n := by
  by_cases signed : ∃ digits, number = '-' :: digits
  · obtain ⟨digits, rfl⟩ := signed
    rw [signedDigits?_minus] at found
    obtain ⟨nonempty, decimal⟩ := decimal_of_ofDigits? (List.forall_mem_cons.mp ascii).2 found
    exact ⟨_, .negative nonempty decimal⟩
  · rw [signedDigits?_plain fun rest equal => signed ⟨rest, equal⟩] at found
    obtain ⟨nonempty, decimal⟩ := decimal_of_ofDigits? ascii found
    exact ⟨_, .positive nonempty decimal⟩

variable {measure : Measure}

theorem Measure.word_plain (measure : Measure) :
    ∀ letter ∈ measure.word, letter.isUpper = false := by
  have all : (measure.word.all fun letter => !letter.isUpper) = true := by cases measure <;> rfl
  simpa using all

theorem Measure.sign_plain (measure : Measure) : ∀ c ∈ measure.sign, c.isUpper = false := by
  have all : (measure.sign.all fun c => !c.isUpper) = true := by cases measure <;> rfl
  simpa using all

theorem Measure.sign_ne_nil (measure : Measure) : measure.sign ≠ [] := by
  cases measure <;> nofun

theorem Measure.sign_noLetters (measure : Measure) : ∀ c ∈ measure.sign, c.isAlpha = false := by
  have all : (measure.sign.all fun c => !c.isAlpha) = true := by cases measure <;> rfl
  simpa using all

theorem Measure.word_initial (measure : Measure) :
    ∃ later, measure.word = measure.initial :: later := by
  cases measure <;> exact ⟨_, rfl⟩

theorem Measure.initial_injective {other : Measure} (same : measure.initial = other.initial) :
    measure = other := by
  cases measure <;> cases other <;> first | rfl | exact absurd same (by decide)

theorem Measure.initial_plain (measure : Measure) :
    measure.initial.toNat < 0x80 ∧ measure.initial.isUpper = false ∧ measure.initial ≠ 'e' := by
  cases measure <;> decide

theorem Measure.ascii_of_initial (initial : c.toLower = measure.initial) : c.toNat < 0x80 :=
  ascii_of_toLower initial measure.initial_plain.1

theorem Measure.sign_unblank (measure : Measure) :
    ∀ c ∈ measure.sign.head?, isBlank c = false := by
  cases measure <;> rintro c ⟨⟩ <;> rfl

theorem Compares.exists_initial (compares : Compares measure number s) :
    ∃ c rest, s = c :: rest ∧ c.toLower = measure.initial := by
  obtain ⟨cased, -, -⟩ := compares
  obtain ⟨later, word_eq⟩ := measure.word_initial
  rw [word_eq] at cased
  obtain ⟨c, rest, rfl, initial, -⟩ := List.map_eq_cons_iff.mp cased
  exact ⟨c, _, rfl, initial⟩

theorem Compares.number_suffix (compares : Compares measure number s) : number <:+ s := by
  obtain ⟨-, -, -⟩ := compares
  rename_i word before after
  exact ⟨word ++ (before ++ (measure.sign ++ after)), by simp only [List.append_assoc]⟩

/-- A comparison with a numeral has no blanks at its ends. -/
theorem Compares.isBare (compares : Compares measure number s) (numeral : IsNumeral number n) :
    IsBare s where
  first := by
    obtain ⟨c, rest, rfl, initial⟩ := compares.exists_initial
    intro d found
    cases found
    have letters : c.toLower.isAlpha = true → isBlank c = false :=
      forall_ascii (P := fun c => c.toLower.isAlpha = true → isBlank c = false) (by decide +kernel)
        (Measure.ascii_of_initial initial)
    apply letters
    rw [initial]
    cases measure <;> rfl
  last := by
    obtain ⟨front, rfl⟩ := compares.number_suffix
    intro d found
    rw [List.getLast?_append_of_ne_nil _ numeral.ne_nil] at found
    exact numeral.unblank d (List.mem_of_mem_getLast? found)

/-- A comparison with a numeral that fits is read as one. -/
theorem comparison?_of_compares (compares : Compares measure number s)
    (numeral : IsNumeral number n) (fit : NumbersFit number) :
    comparison? measure.word measure.sign s = some (.ok n) := by
  obtain ⟨cased, blankBefore, blankAfter⟩ := compares
  rename_i word before after
  have signCased : measure.sign.map Char.toLower = measure.sign := by cases measure <;> rfl
  have signAhead : (before ++ (measure.sign ++ (after ++ number))).dropWhile isBlank =
      measure.sign ++ (after ++ number) := by
    rw [List.dropWhile_append_of_pos blankBefore]
    apply dropWhile_eq_self
    rw [List.head?_append_of_ne_nil _ measure.sign_ne_nil]
    exact measure.sign_unblank
  have numberAhead : (after ++ number).dropWhile isBlank = number := by
    rw [List.dropWhile_append_of_pos blankAfter]
    exact dropWhile_eq_self fun c found => numeral.unblank c (List.mem_of_mem_head? found)
  simp only [comparison?, afterWord?_append cased, signAhead, afterWord?_append signCased,
    numberAhead, signedDigits?_of_isNumeral numeral fit, Option.bind_eq_bind, Option.bind_some]

/-- What is read as a comparison is one with a numeral. -/
theorem compares_of_comparison? (ascii : IsAscii s)
    (found : comparison? measure.word measure.sign s = some result) :
    ∃ number n, Compares measure number s ∧ IsNumeral number n := by
  simp only [comparison?, Option.bind_eq_bind, Option.bind_eq_some_iff] at found
  obtain ⟨behindWord, wordFound, behindSign, signFound, numberFound⟩ := found
  obtain ⟨word, rfl, cased⟩ := written_of_afterWord? measure.word_plain ascii wordFound
  have asciiBehind : IsAscii behindWord := fun c member =>
    ascii c (List.mem_append_right _ member)
  obtain ⟨sign, sign_eq, signCased⟩ := written_of_afterWord? measure.sign_plain
    (fun c member => asciiBehind c (List.dropWhile_subset _ member)) signFound
  have sign_same : sign = measure.sign := map_toLower_of_noLetters measure.sign_noLetters signCased
  have asciiNumber : IsAscii (behindSign.dropWhile isBlank) := by
    intro c member
    refine asciiBehind c (List.dropWhile_subset isBlank ?_)
    rw [sign_eq]
    exact List.mem_append_right _ (List.dropWhile_subset _ member)
  obtain ⟨n, numeral⟩ := isNumeral_of_signedDigits? asciiNumber numberFound
  have compares : Compares measure (behindSign.dropWhile isBlank)
      (word ++ (behindWord.takeWhile isBlank ++
        (measure.sign ++ (behindSign.takeWhile isBlank ++ behindSign.dropWhile isBlank)))) :=
    .intro cased (fun c member => List.mem_takeWhile_imp member)
      fun c member => List.mem_takeWhile_imp member
  rw [List.takeWhile_append_dropWhile, ← sign_same, ← sign_eq,
    List.takeWhile_append_dropWhile] at compares
  exact ⟨_, n, compares, numeral⟩

/-- A text that starts like one comparison is not read as another. -/
theorem comparison?_of_initial {other : Measure} (initial : c.toLower = measure.initial)
    (apart : other ≠ measure) : comparison? other.word other.sign (c :: rest) = none := by
  have unread : afterWord? other.word (c :: rest) = none := by
    obtain ⟨later, word_eq⟩ := other.word_initial
    rw [word_eq, afterWord?]
    apply if_neg
    intro stands
    have lower := toLower_of_standsFor other.initial_plain.2.1 (Measure.ascii_of_initial initial)
      stands
    exact apart (Measure.initial_injective (lower.symm.trans initial))
  simp only [comparison?, unread, Option.bind_eq_bind, Option.bind_none]

theorem lower_ne_exists {s : String} (s_eq : s.toList = c :: rest)
    (initial : c.toLower = measure.initial) : Text.lower s ≠ "exists" := by
  intro lower_eq
  have ascii := Measure.ascii_of_initial initial
  have chars : lowerAfter [] (c :: rest) = existsWord := by
    rw [← s_eq, ← String.toList_ofList (l := lowerAfter [] s.toList), ← lower, lower_eq]
    rfl
  rw [lowerAfter, if_neg (ne_sigma_of_ascii ascii), lowerChar_of_ascii ascii, initial] at chars
  exact measure.initial_plain.2.2 (List.cons.inj chars).1

theorem parse_of_compares {s : String} (compares : Compares measure number s.toList)
    (numeral : IsNumeral number n) (fit : NumbersFit number) : parse s = .ok (measure.test n) := by
  obtain ⟨c, rest, s_eq, initial⟩ := compares.exists_initial
  have found := comparison?_of_compares compares numeral fit
  rw [parse, if_neg (lower_ne_exists s_eq initial)]
  cases measure with
  | count =>
    have count : comparison? countWord ['>', '='] s.toList = some (.ok n) := found
    rw [count]
    rfl
  | duration =>
    have apart : Measure.count ≠ Measure.duration := nofun
    have count : comparison? countWord ['>', '='] s.toList = none := by
      rw [s_eq]
      exact comparison?_of_initial initial apart
    have duration : comparison? durationWord ['>'] s.toList = some (.ok n) := found
    rw [count, duration]
    rfl

theorem lower_eq_exists_iff {s : String} (ascii : IsAscii s.toList) :
    Text.lower s = "exists" ↔ s.toList.map Char.toLower = existsWord := by
  have lower_eq : Text.lower s = String.ofList (s.toList.map Char.toLower) := by
    rw [lower, lowerAfter_of_ascii ascii]
  have word_eq : "exists" = String.ofList existsWord := rfl
  rw [lower_eq, word_eq, String.ofList_inj]

theorem ascii_of_map_toLower {lowered : List Char} (cased : s.map Char.toLower = lowered)
    (ascii : IsAscii lowered) : IsAscii s := by
  subst cased
  exact fun c member => ascii_of_toLower rfl (ascii _ (List.mem_map_of_mem member))

/-- Texts are read as the tests that they describe. -/
theorem parse_of_describes {s : String} {test : FactorTest} (described : Describes s.toList test)
    (fit : NumbersFit s.toList) : parse s = .ok test := by
  cases described with
  | matched cased =>
    have ascii : IsAscii s.toList := ascii_of_map_toLower cased (by decide)
    exact if_pos ((lower_eq_exists_iff ascii).mpr cased)
  | compared measure compares numeral =>
    exact parse_of_compares compares numeral (fit.of_infix compares.number_suffix.isInfix)

theorem describes_ne_unsupported {test : FactorTest} (described : Describes s test) :
    test ≠ .unsupported := by
  cases described with
  | matched cased => nofun
  | compared measure compares numeral => cases measure <;> nofun

/-- A text that describes no test is read as none that is supported. -/
theorem parse_of_undescribed {s : String} (ascii : IsAscii s.toList)
    (undescribed : ∀ test, ¬Describes s.toList test) : parse s = .ok .unsupported := by
  have noWord : Text.lower s ≠ "exists" := fun same =>
    undescribed _ (.matched ((lower_eq_exists_iff ascii).mp same))
  have unread (measure : Measure) : comparison? measure.word measure.sign s.toList = none := by
    cases found : comparison? measure.word measure.sign s.toList with
    | none => rfl
    | some result =>
      obtain ⟨number, n, compares, numeral⟩ := compares_of_comparison? ascii found
      exact absurd (.compared measure compares numeral) (undescribed (measure.test n))
  have count : comparison? countWord ['>', '='] s.toList = none := unread .count
  have duration : comparison? durationWord ['>'] s.toList = none := unread .duration
  rw [parse, if_neg noWord, count, duration]

end FactorTest

namespace Text

theorem trimmed_infix (s : List Char) : trimmed isBlank s <:+: s := by
  have front := List.dropWhile_suffix isBlank (l := s)
  have back := List.dropWhile_suffix isBlank (l := (s.dropWhile isBlank).reverse)
  have ended := List.reverse_prefix.mpr back
  rw [List.reverse_reverse] at ended
  exact ended.isInfix.trans front.isInfix

/-- Blanks around a text that has none at its ends are dropped. -/
theorem IsBare.trimmed_padded {core left right : List Char} (bare : IsBare core)
    (nonempty : core ≠ []) (blankLeft : ∀ c ∈ left, isBlank c = true)
    (blankRight : ∀ c ∈ right, isBlank c = true) :
    trimmed isBlank (left ++ core ++ right) = core := by
  have front : (left ++ core ++ right).dropWhile isBlank = core ++ right := by
    rw [List.append_assoc, List.dropWhile_append_of_pos blankLeft]
    apply dropWhile_eq_self
    rw [List.head?_append_of_ne_nil _ nonempty]
    exact bare.first
  have back : (core ++ right).reverse.dropWhile isBlank = core.reverse := by
    rw [List.reverse_append, List.dropWhile_append_of_pos fun c member =>
      blankRight c (List.mem_reverse.mp member)]
    apply dropWhile_eq_self
    rw [List.head?_reverse]
    exact bare.last
  rw [trimmed, front, back, List.reverse_reverse]

end Text

namespace FactorExpression

open FactorTest Text

/-- An expression is read as the test of its text without the blanks at its ends. -/
theorem parse_of_test {s : String} {test : FactorTest}
    (parsed : FactorTest.parse (strip s) = .ok test) :
    FactorExpression.parse (some s) = .ok ⟨test, strip s⟩ := by
  rw [FactorExpression.parse, Option.getD_some, parsed]
  rfl

/-- A comparison is read with any blanks around it. -/
theorem parse_padded {measure : Measure} {number text left right : List Char} {n : Int}
    (compares : Compares measure number text) (numeral : IsNumeral number n)
    (fit : NumbersFit number) (blankLeft : ∀ c ∈ left, isBlank c = true)
    (blankRight : ∀ c ∈ right, isBlank c = true) :
    FactorExpression.parse (some (String.ofList (left ++ text ++ right))) =
      .ok ⟨measure.test n, String.ofList text⟩ := by
  obtain ⟨c, rest, text_eq, -⟩ := compares.exists_initial
  have nonempty : text ≠ [] := by
    rw [text_eq]
    exact List.cons_ne_nil c rest
  have stripped : strip (String.ofList (left ++ text ++ right)) = String.ofList text := by
    rw [strip, String.toList_ofList,
      (compares.isBare numeral).trimmed_padded nonempty blankLeft blankRight]
  have parsed : FactorTest.parse (String.ofList text) = .ok (measure.test n) := by
    refine parse_of_compares ?_ numeral fit
    rw [String.toList_ofList]
    exact compares
  rw [← stripped] at parsed ⊢
  exact parse_of_test parsed

/-- An expression in ASCII, with numbers that fit, is always read, and as the test that its text
without the blanks at its ends describes; an expression that describes no test is unsupported. So
each integer that can be written is read back from a comparison with it, in any case and with any
blanks. -/
theorem parse_accepts_grammar :
    (∀ s : String, IsAscii s.toList → NumbersFit s.toList →
      ∃ test, FactorExpression.parse (some s) = .ok ⟨test, strip s⟩ ∧
        (∀ t, t ≠ .unsupported → (test = t ↔ Describes (strip s).toList t)) ∧
        (test = .unsupported ↔ ∀ t, ¬Describes (strip s).toList t)) ∧
      ∀ (measure : Measure) (n : Int) (text left right : List Char),
        Value.integerIsWritable n = true → Compares measure (integerText n).toList text →
        (∀ c ∈ left, isBlank c = true) → (∀ c ∈ right, isBlank c = true) →
        FactorExpression.parse (some (String.ofList (left ++ text ++ right))) =
          .ok ⟨measure.test n, String.ofList text⟩ := by
  constructor
  · intro s ascii fit
    have inside : (strip s).toList <:+: s.toList := by
      rw [strip, String.toList_ofList]
      exact trimmed_infix s.toList
    have asciiText : IsAscii (strip s).toList := fun c member => ascii c (inside.subset member)
    have fitText : NumbersFit (strip s).toList := fit.of_infix inside
    by_cases described : ∃ test, Describes (strip s).toList test
    · obtain ⟨test, described⟩ := described
      have parsed := parse_of_describes described fitText
      refine ⟨test, parse_of_test parsed, fun t _ => ⟨?_, ?_⟩, ?_, ?_⟩
      · rintro rfl
        exact described
      · intro other
        exact Except.ok.inj (parsed.symm.trans (parse_of_describes other fitText))
      · intro unsupported
        exact absurd unsupported (describes_ne_unsupported described)
      · intro undescribed
        exact absurd described (undescribed test)
    · have undescribed : ∀ t, ¬Describes (strip s).toList t := not_exists.mp described
      refine ⟨.unsupported, parse_of_test (parse_of_undescribed asciiText undescribed), ?_,
        fun _ => undescribed, fun _ => rfl⟩
      intro t supported
      exact ⟨fun same => absurd same.symm supported, fun other => absurd other (undescribed t)⟩
  · intro measure n text left right writable compares blankLeft blankRight
    exact parse_padded compares (isNumeral_integerText n) (numbersFit_integerText writable)
      blankLeft blankRight

/-- A count with padding, a line break inside and leading zeros is read, and a plus sign in front of
the number describes no test. -/
theorem padded_count_read :
    FactorExpression.parse (some "\t Count >=\n-007 ") =
        .ok ⟨.countAtLeast (-7), "Count >=\n-007"⟩ ∧
      (∀ t, ¬Describes "count >= +5".toList t) ∧
      FactorExpression.parse (some " phase_duration>90") =
        .ok ⟨.durationAbove 90, "phase_duration>90"⟩ := by
  obtain ⟨accepted, written⟩ := parse_accepts_grammar
  refine ⟨?_, ?_, ?_⟩
  · have stripped : strip "\t Count >=\n-007 " = "Count >=\n-007" := by decide
    obtain ⟨test, parsed, described, -⟩ := accepted "\t Count >=\n-007 " (by decide)
      (numbersFit_of_countP (by decide))
    have compares : Compares .count ['-', '0', '0', '7'] "Count >=\n-007".toList :=
      @Compares.intro .count _ ['C', 'o', 'u', 'n', 't'] [' '] ['\n'] rfl
        (List.all_eq_true.mp rfl) (List.all_eq_true.mp rfl)
    have numeral : IsNumeral ['-', '0', '0', '7'] (-7) := .negative nofun (List.all_eq_true.mp rfl)
    rw [stripped] at parsed described
    rw [parsed, (described (.countAtLeast (-7)) nofun).mpr (.compared .count compares numeral)]
  · have stripped : strip "count >= +5" = "count >= +5" := by decide
    obtain ⟨test, parsed, -, unsupported⟩ := accepted "count >= +5" (by decide)
      (numbersFit_of_countP (by decide))
    have read : FactorExpression.parse (some "count >= +5") =
        .ok ⟨.unsupported, "count >= +5"⟩ := by
      decide +kernel
    rw [stripped] at parsed unsupported
    have same := Except.ok.inj (parsed.symm.trans read)
    exact unsupported.mp (congrArg FactorExpression.test same)
  · have compares : Compares .duration (integerText 90).toList "phase_duration>90".toList :=
      @Compares.intro .duration _ durationWord [] [] rfl nofun nofun
    have read := written .duration 90 _ [' '] [] (by decide) compares
      (List.all_eq_true.mp rfl) nofun
    have padded : String.ofList ([' '] ++ "phase_duration>90".toList ++ []) =
        " phase_duration>90" := by decide
    rw [padded, String.ofList_toList] at read
    exact read

end FactorExpression

end EnrollmentDiagnosis
