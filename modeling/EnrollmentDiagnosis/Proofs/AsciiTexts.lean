import EnrollmentDiagnosis.Proofs.PlainLabels
import EnrollmentDiagnosis.Proofs.TimeTexts
import EnrollmentDiagnosis.Value.Text

set_option autoImplicit false

namespace EnrollmentDiagnosis

namespace Text

variable {c letter : Char} {s : List Char}

/-- A text of ASCII characters. -/
def IsAscii (s : List Char) : Prop := ∀ c ∈ s, c.toNat < 0x80

instance (s : List Char) : Decidable (IsAscii s) :=
  decidable_of_iff (s.all fun c => Nat.blt c.toNat 0x80) (by simp [IsAscii])

theorem forall_ascii {P : Char → Prop} (all : ∀ n < 0x80, P (Char.ofNat n))
    (ascii : c.toNat < 0x80) : P c := by
  have here := all c.toNat ascii
  rwa [Char.ofNat_toNat] at here

theorem ascii_of_isUpper (upper : c.isUpper = true) : c.toNat < 0x80 := by
  simp only [Char.isUpper, decide_eq_true_eq, UInt32.le_iff_toNat_le] at upper
  have high : c.toNat ≤ 90 := upper.2
  omega

theorem toLower_of_not_isUpper (lower : ¬c.isUpper = true) : c.toLower = c := by
  unfold Char.toLower
  apply dif_neg
  simpa [Char.isUpper] using lower

theorem isAlpha_toLower_of_isUpper (upper : c.isUpper = true) : c.toLower.isAlpha = true := by
  have letters : c.isUpper = true → c.toLower.isAlpha = true :=
    forall_ascii (P := fun c => c.isUpper = true → c.toLower.isAlpha = true) (by decide +kernel)
      (ascii_of_isUpper upper)
  exact letters upper

/-- No other character has a lowercase that is no letter. -/
theorem toLower_eq_iff_of_not_isAlpha (sign : letter.isAlpha = false) :
    c.toLower = letter ↔ c = letter := by
  have lower (same : c.toLower = letter) : ¬c.isUpper = true := by
    intro upper
    have alpha := isAlpha_toLower_of_isUpper upper
    rw [same, sign] at alpha
    cases alpha
  constructor
  · intro same
    rw [← toLower_of_not_isUpper (lower same), same]
  · rintro rfl
    apply toLower_of_not_isUpper
    intro upper
    rw [Char.isAlpha, upper] at sign
    cases sign

theorem ascii_of_toLower (same : c.toLower = letter) (ascii : letter.toNat < 0x80) :
    c.toNat < 0x80 := by
  by_cases upper : c.isUpper = true
  · exact ascii_of_isUpper upper
  · rw [← toLower_of_not_isUpper upper, same]
    exact ascii

theorem lowerChar_of_ascii (ascii : c.toNat < 0x80) : lowerChar c = [c.toLower] :=
  forall_ascii (P := fun c => lowerChar c = [c.toLower]) (by decide +kernel) ascii

theorem ne_sigma_of_ascii (ascii : c.toNat < 0x80) : c ≠ 'Σ' := by
  rintro rfl
  exact absurd ascii (by decide)

theorem lowerAfter_of_ascii (ascii : IsAscii s) (before : List Char) :
    lowerAfter before s = s.map Char.toLower := by
  induction s generalizing before with
  | nil => rfl
  | cons c rest ih =>
    obtain ⟨first, later⟩ := List.forall_mem_cons.mp ascii
    rw [lowerAfter, if_neg (ne_sigma_of_ascii first), lowerChar_of_ascii first, ih later]
    rfl

/-- A numeral: digits with an optional minus sign, and the integer that they denote. -/
inductive IsNumeral : List Char → Int → Prop where
  | positive {digits : List Char} (nonempty : digits ≠ [])
      (decimal : ∀ c ∈ digits, c.isDigit = true) :
      IsNumeral digits (Nat.ofDigitChars 10 digits 0)
  | negative {digits : List Char} (nonempty : digits ≠ [])
      (decimal : ∀ c ∈ digits, c.isDigit = true) :
      IsNumeral ('-' :: digits) (-(Nat.ofDigitChars 10 digits 0 : Int))

/-- Numbers in a text have few enough digits to be converted. -/
def NumbersFit (s : List Char) : Prop :=
  ∀ run, run <:+: s → (∀ c ∈ run, c.isDigit = true) → run.length ≤ maxIntegerDigits

theorem NumbersFit.of_infix {part : List Char} (fit : NumbersFit s) (inside : part <:+: s) :
    NumbersFit part :=
  fun run within decimal => fit run (within.trans inside) decimal

theorem numbersFit_of_countP (few : s.countP Char.isDigit ≤ maxIntegerDigits) : NumbersFit s := by
  intro run inside decimal
  have all := List.countP_eq_length.mpr decimal
  have part := inside.sublist.countP_le (p := Char.isDigit)
  omega

theorem ascii_of_isDigit (digit : c.isDigit = true) : c.toNat < 0x80 := by
  have high : c.toNat ≤ 0x39 := (Char.isDigit_iff_toNat.mp digit).2
  omega

theorem digit?_of_isDigit (digit : c.isDigit = true) : digit? c = some (c.toNat - 48) := by
  have digits : c.isDigit = true → digit? c = some (c.toNat - 48) :=
    forall_ascii (P := fun c => c.isDigit = true → digit? c = some (c.toNat - 48))
      (by decide +kernel) (ascii_of_isDigit digit)
  exact digits digit

theorem isDigit_of_digit? (ascii : c.toNat < 0x80) (found : (digit? c).isSome = true) :
    c.isDigit = true := by
  have digits : (digit? c).isSome = true → c.isDigit = true :=
    forall_ascii (P := fun c => (digit? c).isSome = true → c.isDigit = true) (by decide +kernel)
      ascii
  exact digits found

theorem isBlank_of_isDigit (digit : c.isDigit = true) : isBlank c = false := by
  have digits : c.isDigit = true → isBlank c = false :=
    forall_ascii (P := fun c => c.isDigit = true → isBlank c = false) (by decide +kernel)
      (ascii_of_isDigit digit)
  exact digits digit

theorem filterMap_digit? {digits : List Char} (decimal : ∀ c ∈ digits, c.isDigit = true) :
    digits.filterMap digit? = digits.map fun c => c.toNat - 48 := by
  induction digits with
  | nil => rfl
  | cons c rest ih =>
    obtain ⟨first, later⟩ := List.forall_mem_cons.mp decimal
    rw [List.filterMap_cons_some (digit?_of_isDigit first), List.map_cons, ih later]

variable {number : List Char} {n : Int}

theorem IsNumeral.ne_nil (numeral : IsNumeral number n) : number ≠ [] := by
  cases numeral with
  | positive nonempty decimal => exact nonempty
  | negative nonempty decimal => exact List.cons_ne_nil _ _

theorem IsNumeral.unblank (numeral : IsNumeral number n) : ∀ c ∈ number, isBlank c = false := by
  cases numeral with
  | positive nonempty decimal => exact fun c member => isBlank_of_isDigit (decimal c member)
  | negative nonempty decimal =>
    refine List.forall_mem_cons.mpr ⟨by decide, ?_⟩
    exact fun c member => isBlank_of_isDigit (decimal c member)

/-- An integer is written as a numeral that denotes it. -/
theorem isNumeral_integerText (n : Int) : IsNumeral (integerText n).toList n := by
  have nonempty : Number.digitsOf n.natAbs ≠ [] := Nat.toDigits_ne_nil
  have decimal : ∀ c ∈ Number.digitsOf n.natAbs, c.isDigit = true := fun c member =>
    Nat.isDigit_of_mem_toDigits (by decide) (by decide) member
  have size : Nat.ofDigitChars 10 (Number.digitsOf n.natAbs) 0 = n.natAbs :=
    Nat.ofDigitChars_ten_toDigits
  rw [integerText, String.toList_ofList]
  by_cases negative : n < 0
  · have value : -(n.natAbs : Int) = n := by omega
    have numeral := IsNumeral.negative nonempty decimal
    rw [size, value] at numeral
    rw [if_pos negative]
    exact numeral
  · have value : (n.natAbs : Int) = n := by omega
    have numeral := IsNumeral.positive nonempty decimal
    rw [size, value] at numeral
    rw [if_neg negative]
    exact numeral

theorem numbersFit_integerText (writable : Value.integerIsWritable n = true) :
    NumbersFit (integerText n).toList := by
  apply numbersFit_of_countP
  have few : (Number.digitsOf n.natAbs).length ≤ maxIntegerDigits := of_decide_eq_true writable
  have digits := List.countP_le_length (p := Char.isDigit) (l := Number.digitsOf n.natAbs)
  have sign : ('-' : Char).isDigit = false := by decide
  rw [integerText, String.toList_ofList]
  split
  · rw [List.countP_cons_of_neg (by rw [sign]; exact Bool.false_ne_true)]
    omega
  · omega

end Text

end EnrollmentDiagnosis
