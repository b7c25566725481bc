import EnrollmentDiagnosis.Number.Binary64
import Mathlib.Algebra.Order.Field.Rat
import Mathlib.Algebra.Order.Field.Power
import Mathlib.Tactic.FieldSimp
import Mathlib.Tactic.Linarith
import Mathlib.Tactic.Positivity
import Mathlib.Tactic.Ring

set_option autoImplicit false

namespace EnrollmentDiagnosis.Number

theorem nearestQuotient_mono {num larger : Nat} (least : num ≤ larger) (den : Nat) :
    nearestQuotient num den ≤ nearestQuotient larger den := by
  have quotients : num / den ≤ larger / den := Nat.div_le_div_right least
  have split := Nat.div_add_mod num den
  have splitLarger := Nat.div_add_mod larger den
  unfold nearestQuotient
  by_cases same : num / den = larger / den
  · -- Under equal quotients the rests are in the order of the numerators.
    rw [same] at split ⊢
    have rests : num % den ≤ larger % den := by omega
    dsimp only
    split_ifs <;> omega
  · dsimp only
    split_ifs <;> omega

theorem nearestQuotient_mul (n : Nat) {den : Nat} (positive : 0 < den) :
    nearestQuotient (n * den) den = n := by
  have none : n * den % den = 0 := Nat.mul_mod_left n den
  have exact : n * den / den = n := Nat.mul_div_cancel n positive
  simp only [nearestQuotient, none, exact, Nat.mul_zero, positive, ↓reduceIte]

theorem nearestQuotient_le {num den n : Nat} (positive : 0 < den) (most : num ≤ n * den) :
    nearestQuotient num den ≤ n := by
  have mono := nearestQuotient_mono most den
  rwa [nearestQuotient_mul n positive] at mono

theorem le_nearestQuotient {num den n : Nat} (positive : 0 < den) (least : n * den ≤ num) :
    n ≤ nearestQuotient num den := by
  have mono := nearestQuotient_mono least den
  rwa [nearestQuotient_mul n positive] at mono

namespace Binary64

/-- A finite number exceeds the integers below its exact value. -/
theorem finite_exceeds_iff (m : Nat) (e n : Int) :
    (finite false m e).exceeds n = true ↔ (n : ℚ) < m * 2 ^ e := by
  have shifted : ∀ k : Int, min e 0 ≤ k →
      ((twoTo (k - min e 0).toNat : Nat) : ℚ) = 2 ^ k * 2 ^ (-min e 0) := by
    intro k least
    have size : ((k - min e 0).toNat : Int) = k - min e 0 := Int.toNat_of_nonneg (by omega)
    rw [twoTo, Nat.pow_eq, Nat.cast_pow, Nat.cast_ofNat, ← zpow_natCast, size,
      ← zpow_add₀ two_ne_zero, Int.sub_eq_add_neg]
  have positive : (0 : ℚ) < 2 ^ (-min e 0) := by positivity
  have compared : (finite false m e).exceeds n = true ↔
      n * (twoTo (0 - min e 0).toNat : Nat) < ((m * twoTo (e - min e 0).toNat : Nat) : Int) := by
    simp only [exceeds, orderInt, aligned, beq_iff_eq, Option.some.injEq, compare_gt_iff_gt,
      Bool.false_eq_true, ↓reduceIte]
  rw [compared]
  have cast : n * (twoTo (0 - min e 0).toNat : Nat) <
      ((m * twoTo (e - min e 0).toNat : Nat) : Int) ↔
      (n : ℚ) * (twoTo (0 - min e 0).toNat : Nat) < m * (twoTo (e - min e 0).toNat : Nat) := by
    exact_mod_cast Iff.rfl
  rw [cast, shifted 0 (by omega), shifted e (by omega), zpow_zero, one_mul, ← mul_assoc]
  exact mul_lt_mul_iff_left₀ positive

theorem infinite_exceeds (n : Int) : (infinite false).exceeds n = true := rfl

section Scaled

variable {num den : Nat}

theorem scaled_positive (positive : 0 < den) (e : Int) : 0 < (scaled num den e).2 := by
  unfold scaled twoTo
  split
  · exact Nat.mul_pos positive (Nat.two_pow_pos _)
  · exact positive

/-- Scaling divides a quotient by the power of two. -/
theorem scaled_eq (positive : 0 < den) (e : Int) :
    ((scaled num den e).1 : ℚ) = num / den / 2 ^ e * (scaled num den e).2 := by
  have nonzero : (den : ℚ) ≠ 0 := by positivity
  have power : (2 : ℚ) ^ e ≠ 0 := by positivity
  unfold scaled twoTo
  split
  · rename_i nonneg
    have size : (2 : ℚ) ^ e.toNat = 2 ^ e := by
      rw [← zpow_natCast, Int.toNat_of_nonneg nonneg]
    simp only [Nat.pow_eq, Nat.cast_mul, Nat.cast_pow, Nat.cast_ofNat, size]
    field_simp
  · rename_i negative
    have size : (2 : ℚ) ^ (-e).toNat = (2 ^ e)⁻¹ := by
      rw [← zpow_natCast, Int.toNat_of_nonneg (by omega), zpow_neg]
    simp only [Nat.pow_eq, Nat.cast_mul, Nat.cast_pow, Nat.cast_ofNat, size]
    field_simp

/-- A scaled quotient compared with an integer. -/
theorem scaled_lt_iff (positive : 0 < den) (e : Int) (n : Nat) :
    (scaled num den e).1 < n * (scaled num den e).2 ↔ (num : ℚ) / den < n * 2 ^ e := by
  have bottom : (0 : ℚ) < (scaled num den e).2 := by
    exact_mod_cast scaled_positive positive e
  have power : (0 : ℚ) < 2 ^ e := by positivity
  have cast : (scaled num den e).1 < n * (scaled num den e).2 ↔
      ((scaled num den e).1 : ℚ) < n * (scaled num den e).2 := by
    exact_mod_cast Iff.rfl
  rw [cast, scaled_eq positive e, mul_lt_mul_iff_left₀ bottom, div_lt_iff₀ power]

/-- The guess at an exponent is right or one too large. -/
theorem quotient_near_logs (nonzero : num ≠ 0) (positive : 0 < den) :
    (2 : ℚ) ^ ((num.log2 : Int) - den.log2 - 1) ≤ num / den ∧
      (num : ℚ) / den < 2 ^ ((num.log2 : Int) - den.log2 + 1) := by
  have two : (2 : ℚ) ≠ 0 := two_ne_zero
  have bottom : (0 : ℚ) < den := by exact_mod_cast positive
  have numLeast : (2 : ℚ) ^ num.log2 ≤ num := by exact_mod_cast Nat.log2_self_le nonzero
  have numMost : (num : ℚ) < 2 ^ (num.log2 + 1) := by exact_mod_cast Nat.lt_log2_self
  have denLeast : (2 : ℚ) ^ den.log2 ≤ den := by
    exact_mod_cast Nat.log2_self_le (Nat.ne_of_gt positive)
  have denMost : (den : ℚ) < 2 ^ (den.log2 + 1) := by exact_mod_cast Nat.lt_log2_self
  constructor
  · rw [le_div_iff₀ bottom]
    calc (2 : ℚ) ^ ((num.log2 : Int) - den.log2 - 1) * den
        ≤ 2 ^ ((num.log2 : Int) - den.log2 - 1) * 2 ^ (den.log2 + 1) := by gcongr
      _ = 2 ^ num.log2 := by
        rw [← zpow_natCast, ← zpow_add₀ two, ← zpow_natCast]
        congr 1
        push_cast
        omega
      _ ≤ num := numLeast
  · rw [div_lt_iff₀ bottom]
    calc (num : ℚ) < 2 ^ (num.log2 + 1) := numMost
      _ = 2 ^ ((num.log2 : Int) - den.log2 + 1) * 2 ^ den.log2 := by
        rw [← zpow_natCast, ← zpow_natCast 2 den.log2, ← zpow_add₀ two]
        congr 1
        push_cast
        omega
      _ ≤ 2 ^ ((num.log2 : Int) - den.log2 + 1) * den := by gcongr

/-- The exponent gives a quotient 53 bits, but is kept from falling below the smallest one. -/
theorem exponentOf_eq_max (nonzero : num ≠ 0) (positive : 0 < den) :
    ∃ e : Int, exponentOf num den = max minExponent e ∧
      (2 : ℚ) ^ (e + 52) ≤ num / den ∧ (num : ℚ) / den < 2 ^ (e + 53) := by
  obtain ⟨least, most⟩ := quotient_near_logs nonzero positive
  have threshold : ((2 ^ 52 : Nat) : ℚ) * 2 ^ ((num.log2 : Int) - den.log2 - 52) =
      2 ^ ((num.log2 : Int) - den.log2) := by
    rw [Nat.cast_pow, Nat.cast_ofNat, ← zpow_natCast, ← zpow_add₀ two_ne_zero]
    congr 1
    push_cast
    omega
  have small := @scaled_lt_iff num den positive ((num.log2 : Int) - den.log2 - 52) (2 ^ 52)
  rw [threshold] at small
  by_cases below : (num : ℚ) / den < 2 ^ ((num.log2 : Int) - den.log2)
  · refine ⟨(num.log2 : Int) - den.log2 - 52 - 1, ?_, ?_, ?_⟩
    · simp only [exponentOf, twoTo, Nat.pow_eq, small.mpr below, ↓reduceIte]
    · convert least using 2
      omega
    · convert below using 2
      omega
  · refine ⟨(num.log2 : Int) - den.log2 - 52, ?_, ?_, ?_⟩
    · have no := mt small.mp below
      simp only [exponentOf, twoTo, Nat.pow_eq, no, ↓reduceIte]
    · rw [Int.sub_add_cancel]
      exact not_lt.mp below
    · convert most using 2
      omega

/-- Every positive quotient lies below `2 ^ 53` units of its exponent and, above the smallest
exponent, not below `2 ^ 52` of them. -/
theorem exponentOf_bounds (nonzero : num ≠ 0) (positive : 0 < den) :
    minExponent ≤ exponentOf num den ∧ (num : ℚ) / den < 2 ^ (exponentOf num den + 53) ∧
      (exponentOf num den = minExponent ∨
        (2 : ℚ) ^ (exponentOf num den + 52) ≤ num / den) := by
  obtain ⟨e, chosen, least, most⟩ := exponentOf_eq_max nonzero positive
  rw [chosen]
  refine ⟨le_max_left _ _, lt_of_lt_of_le most ?_, ?_⟩
  · exact zpow_le_zpow_right₀ one_le_two (by omega)
  · rcases max_choice minExponent e with bounded | above
    · exact .inl bounded
    · exact .inr (by rwa [above])

/-- A larger quotient has no smaller exponent. -/
theorem exponentOf_mono {larger : Nat} (nonzero : num ≠ 0) (positive : 0 < den)
    (least : num ≤ larger) : exponentOf num den ≤ exponentOf larger den := by
  obtain ⟨-, -, kept⟩ := exponentOf_bounds nonzero positive
  have nonzeroLarger : larger ≠ 0 := by omega
  obtain ⟨smallest, most, -⟩ := exponentOf_bounds nonzeroLarger positive
  rcases kept with bounded | above
  · rw [bounded]
    exact smallest
  · have bottom : (0 : ℚ) < den := by exact_mod_cast positive
    have quotients : (num : ℚ) / den ≤ larger / den := by gcongr
    have powers := lt_of_le_of_lt (above.trans quotients) most
    have exponents := (zpow_lt_zpow_iff_right₀ one_lt_two).mp powers
    omega

/-- The mantissa of a quotient before a carry. -/
def mantissaOf (num den : Nat) : Nat :=
  let quotient := scaled num den (exponentOf num den)
  nearestQuotient quotient.1 quotient.2

theorem mantissaOf_le (nonzero : num ≠ 0) (positive : 0 < den) : mantissaOf num den ≤ 2 ^ 53 := by
  have below := (exponentOf_bounds nonzero positive).2.1
  rw [zpow_add₀ two_ne_zero, mul_comm] at below
  have compared := (scaled_lt_iff positive (exponentOf num den) (2 ^ 53)).mpr
    (by exact_mod_cast below)
  exact nearestQuotient_le (scaled_positive positive _) (Nat.le_of_lt compared)

/-- Above the smallest exponent a mantissa has 53 bits. -/
theorem le_mantissaOf (nonzero : num ≠ 0) (positive : 0 < den)
    (above : exponentOf num den ≠ minExponent) : 2 ^ 52 ≤ mantissaOf num den := by
  have least := ((exponentOf_bounds nonzero positive).2.2).resolve_left above
  rw [zpow_add₀ two_ne_zero, mul_comm] at least
  have compared := (not_congr (scaled_lt_iff positive (exponentOf num den) (2 ^ 52))).mpr
    (not_lt.mpr (by exact_mod_cast least))
  exact le_nearestQuotient (scaled_positive positive _) (Nat.le_of_not_lt compared)

/-- The value of a rounded quotient, when the exponents have no largest one. -/
def roundedValue (num den : Nat) : ℚ := mantissaOf num den * 2 ^ exponentOf num den

theorem roundedValue_mono {larger : Nat} (nonzero : num ≠ 0) (positive : 0 < den)
    (least : num ≤ larger) : roundedValue num den ≤ roundedValue larger den := by
  have exponents := exponentOf_mono nonzero positive least
  unfold roundedValue
  rcases lt_or_eq_of_le exponents with smaller | same
  · -- The larger quotient has a mantissa of 53 bits, and that of the smaller one has no more.
    have most : (mantissaOf num den : ℚ) ≤ 2 ^ 53 := by
      exact_mod_cast mantissaOf_le nonzero positive
    have smallest := (exponentOf_bounds nonzero positive).1
    have full : (2 : ℚ) ^ 52 ≤ mantissaOf larger den := by
      exact_mod_cast le_mantissaOf (by omega) positive (by omega)
    calc (mantissaOf num den : ℚ) * 2 ^ exponentOf num den
        ≤ 2 ^ 53 * 2 ^ exponentOf num den := by gcongr
      _ = 2 ^ 52 * 2 ^ (exponentOf num den + 1) := by
        rw [zpow_add₀ two_ne_zero, zpow_one]
        ring
      _ ≤ 2 ^ 52 * 2 ^ exponentOf larger den := by
        gcongr
        · exact one_le_two
        · omega
      _ ≤ mantissaOf larger den * 2 ^ exponentOf larger den := by gcongr
  · -- Under one exponent both are scaled by the same power.
    have tops : mantissaOf num den ≤ mantissaOf larger den := by
      unfold mantissaOf
      rw [← same]
      unfold scaled
      split
      · exact nearestQuotient_mono least _
      · exact nearestQuotient_mono (Nat.mul_le_mul_right _ least) _
    rw [same]
    gcongr

end Scaled

/-- A number that is infinite above the largest exponent exceeds the integers below its value, and
all of them where that value is too large for a finite number. -/
theorem limited_exceeds_iff {m : Nat} {e : Int} (most : m < 2 ^ 53)
    (full : maxExponent < e → 2 ^ 52 ≤ m) (n : Int) :
    (if maxExponent < e then infinite false else finite false m e).exceeds n = true ↔
      2 ^ 1024 ≤ (m : ℚ) * 2 ^ e ∨ (n : ℚ) < m * 2 ^ e := by
  have limit : (2 : ℚ) ^ 1024 = 2 ^ 53 * 2 ^ maxExponent := by
    rw [maxExponent, ← zpow_natCast, ← zpow_natCast, ← zpow_add₀ two_ne_zero]
    rfl
  split
  · rename_i above
    have mantissa : (2 : ℚ) ^ 52 ≤ m := by exact_mod_cast full above
    have large : (2 : ℚ) ^ 1024 ≤ m * 2 ^ e := by
      calc (2 : ℚ) ^ 1024 = 2 ^ 52 * 2 ^ (maxExponent + 1) := by
            rw [limit, zpow_add₀ two_ne_zero, zpow_one]
            ring
        _ ≤ 2 ^ 52 * 2 ^ e := by
            gcongr
            · exact one_le_two
            · exact above
        _ ≤ m * 2 ^ e := by gcongr
    exact ⟨fun _ => .inl large, fun _ => infinite_exceeds n⟩
  · rename_i within
    have mantissa : (m : ℚ) < 2 ^ 53 := by exact_mod_cast most
    have small : (m : ℚ) * 2 ^ e < 2 ^ 1024 := by
      calc (m : ℚ) * 2 ^ e < 2 ^ 53 * 2 ^ e := by gcongr
        _ ≤ 2 ^ 53 * 2 ^ maxExponent := by
            gcongr
            · exact one_le_two
            · exact Int.not_lt.mp within
        _ = 2 ^ 1024 := limit.symm
    rw [finite_exceeds_iff]
    exact ⟨.inr, fun exceeded => exceeded.resolve_left (not_le.mpr small)⟩

/-- A rounded quotient exceeds the integers below its rounded value, and all of them where that
value is too large for a finite number. -/
theorem ofRatio_exceeds_iff {num den : Nat} (nonzero : num ≠ 0) (positive : 0 < den) (n : Int) :
    (ofRatio false num den).exceeds n = true ↔
      2 ^ 1024 ≤ roundedValue num den ∨ (n : ℚ) < roundedValue num den := by
  have most := mantissaOf_le nonzero positive
  by_cases carry : mantissaOf num den = 2 ^ 53
  · have value : roundedValue num den = ((2 ^ 52 : Nat) : ℚ) * 2 ^ (exponentOf num den + 1) := by
      rw [roundedValue, carry, zpow_add₀ two_ne_zero, zpow_one]
      push_cast
      ring
    have rounded : ofRatio false num den =
        if maxExponent < exponentOf num den + 1 then infinite false
        else finite false (2 ^ 52) (exponentOf num den + 1) := by
      unfold mantissaOf at carry
      simp only [ofRatio, nonzero, carry, twoTo, Nat.pow_eq, ↓reduceIte]
    rw [rounded, value]
    exact limited_exceeds_iff (by decide) (fun _ => Nat.le_refl _) n
  · have rounded : ofRatio false num den =
        if maxExponent < exponentOf num den then infinite false
        else finite false (mantissaOf num den) (exponentOf num den) := by
      unfold mantissaOf at carry ⊢
      simp only [ofRatio, nonzero, carry, twoTo, Nat.pow_eq, ↓reduceIte]
    rw [rounded, roundedValue]
    refine limited_exceeds_iff (by omega) (fun above => ?_) n
    exact le_mantissaOf nonzero positive (fun smallest => by
      rw [smallest] at above
      exact absurd above (by decide))

/-- A larger quotient exceeds whatever a smaller one exceeds. -/
theorem ofRatio_exceeds_mono {num larger den : Nat} (positive : 0 < den) (least : num ≤ larger)
    {n : Int} (above : (ofRatio false num den).exceeds n = true) :
    (ofRatio false larger den).exceeds n = true := by
  by_cases none : larger = 0
  · have same : num = larger := by omega
    rwa [← same]
  · rw [ofRatio_exceeds_iff none positive]
    by_cases zero : num = 0
    · -- Zero exceeds the negative integers only, and no rounded value is negative.
      have negative : (n : ℚ) < 0 := by
        subst zero
        have zeroAbove : (finite false 0 minExponent).exceeds n = true := above
        simpa only [finite_exceeds_iff, Nat.cast_zero, zero_mul] using zeroAbove
      have nonneg : 0 ≤ roundedValue larger den := by
        unfold roundedValue
        positivity
      exact .inr (lt_of_lt_of_le negative nonneg)
    · have values := roundedValue_mono zero positive least
      rcases (ofRatio_exceeds_iff zero positive n).mp above with infinite | below
      · exact .inl (infinite.trans values)
      · exact .inr (lt_of_lt_of_le below values)

end Binary64

end EnrollmentDiagnosis.Number
