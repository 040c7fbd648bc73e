import Mathlib
import NoteBase.Number.Binary

/-!
# Integral doubles

A double is determined by its bits, so an integral double below `2 ^ 53` is the one that is nearest
to its integral part. Only the sign of zero is lost on the way through the integer.

How doubles are packed into bits, and what their equality is, are facts of the library that none of
its parts brings along, so all of it is imported here.
-/

namespace NoteBase.Number

/-! ## A double and its bits -/

theorem ofMagnitude_magnitudeOf (number : Float) :
    ofMagnitude (isNegative number) (magnitudeOf number) = number := by
  have bound := number.toBits.toNat_lt
  have bits : (if isNegative number then Nat.pow 2 63 + magnitudeOf number
      else magnitudeOf number) = number.toBits.toNat := by
    unfold isNegative magnitudeOf
    split
    · next sign =>
      have high := of_decide_eq_true sign
      simp only [Nat.pow_eq] at high ⊢
      omega
    · next sign =>
      have low : ¬ Nat.pow 2 63 ≤ number.toBits.toNat := fun high => sign (decide_eq_true high)
      exact Nat.mod_eq_of_lt (Nat.lt_of_not_le low)
  rw [ofMagnitude, bits, UInt64.ofNat_toNat, Float.ofBits_toBits]

/-! ## The double nearest to an integer -/

theorem finite_of_mantissa (shift : Nat) {mantissa : Nat} (bound : mantissa < 2 ^ 53) :
    (1074 - shift) * Nat.pow 2 52 + mantissa ≤ infinityMagnitude := by
  simp only [infinityMagnitude, Nat.pow_eq]
  omega

/-- An integer whose leading bit moves to the implicit one by a shift is a double as it is. -/
theorem nearestMagnitude_of_shift {value shift : Nat} (low : 2 ^ 52 ≤ value * 2 ^ shift)
    (high : value * 2 ^ shift < 2 ^ 53) (short : shift ≤ 52) :
    nearestMagnitude value 1 = (1074 - shift) * 2 ^ 52 + value * 2 ^ shift := by
  have positive : value ≠ 0 := by
    rintro rfl
    simp at low
  have split : (2 : Nat) ^ 52 = 2 ^ (52 - shift) * 2 ^ shift := by
    rw [← Nat.pow_add, Nat.sub_add_cancel short]
  have splitNext : (2 : Nat) ^ 53 = 2 ^ (52 - shift + 1) * 2 ^ shift := by
    rw [← Nat.pow_add]
    congr 1
    omega
  have log : value.log2 = 52 - shift := by
    rw [Nat.log2_eq_iff positive]
    exact ⟨Nat.le_of_mul_le_mul_right (split ▸ low) (Nat.two_pow_pos shift),
      Nat.lt_of_mul_lt_mul_right (splitNext ▸ high)⟩
  have exponent : unitExponent value 1 = -shift := by
    have estimate : max ((value.log2 : Int) - (1 : Nat).log2 - 53) (-1074) =
        -((shift + 1 : Nat) : Int) := by
      rw [log, show (1 : Nat).log2 = 0 from rfl]
      omega
    have above : Nat.pow 2 53 * (1 * Nat.pow 2 (-((shift + 1 : Nat) : Int)).toNat) ≤
        value * Nat.pow 2 (- -((shift + 1 : Nat) : Int)).toNat := by
      have doubled : value * Nat.pow 2 (shift + 1) = value * 2 ^ shift * 2 :=
        (Nat.mul_assoc value (2 ^ shift) 2).symm
      rw [Int.neg_neg, Int.toNat_natCast, Int.toNat_of_nonpos (by omega), doubled]
      simp only [Nat.pow_eq]
      omega
    unfold unitExponent scaleDown
    simp only [estimate]
    rw [if_pos above]
    omega
  have scaled : scaleDown value 1 (-(shift : Int)) = (value * 2 ^ shift, 1) := by
    rw [scaleDown, Int.neg_neg, Int.toNat_natCast, Int.toNat_of_nonpos (by omega)]
    rfl
  have rounded : roundHalfEven (value * 2 ^ shift) 1 = value * 2 ^ shift := by
    simp [roundHalfEven, Nat.mod_one]
  have offset : (-(shift : Int) + 1074).toNat = 1074 - shift := by omega
  have finite : (1074 - shift) * Nat.pow 2 52 + value * 2 ^ shift ≤ infinityMagnitude :=
    finite_of_mantissa _ high
  rw [nearestMagnitude, if_neg positive]
  simp only [exponent, scaled, rounded, offset]
  exact Nat.min_eq_right finite

theorem Scaled.ofMagnitude_of_lt {magnitude : Nat} (low : magnitude < 2 ^ 52) :
    Scaled.ofMagnitude magnitude = ⟨magnitude, -1074⟩ := by
  have binade : magnitude / Nat.pow 2 52 = 0 := Nat.div_eq_of_lt low
  rw [Scaled.ofMagnitude, if_pos binade]

theorem Scaled.ofMagnitude_of_le {magnitude : Nat} (high : 2 ^ 52 ≤ magnitude) :
    Scaled.ofMagnitude magnitude =
      ⟨2 ^ 52 + magnitude % 2 ^ 52, ((magnitude / 2 ^ 52 : Nat) : Int) - 1075⟩ := by
  have binade : magnitude / Nat.pow 2 52 ≠ 0 :=
    Nat.ne_of_gt (Nat.div_pos high (Nat.two_pow_pos 52))
  simp only [Scaled.ofMagnitude, if_neg binade, Nat.pow_eq]

theorem Scaled.integerPart_zero : (Scaled.ofMagnitude 0).integerPart = 0 := by
  rw [Scaled.ofMagnitude_of_lt (by decide), Scaled.integerPart, Nat.zero_mul, Nat.zero_div]

/-- The nearest double to the integral part of an integral magnitude below `2 ^ 53` is that
magnitude again. -/
theorem nearestMagnitude_integerPart {magnitude : Nat}
    (integral : (Scaled.ofMagnitude magnitude).isIntegral = true)
    (small : (Scaled.ofMagnitude magnitude).integerPart < 2 ^ 53) :
    nearestMagnitude (Scaled.ofMagnitude magnitude).integerPart 1 = magnitude := by
  have divides := beq_iff_eq.mp integral
  have zero_of_divides : ∀ {mantissa : Nat} (shift : Nat), mantissa % Nat.pow 2 shift = 0 →
      mantissa < Nat.pow 2 shift → mantissa = 0 :=
    fun shift divided below => (Nat.mod_eq_of_lt below).symm.trans divided
  rcases Nat.lt_or_ge magnitude (2 ^ 52) with low | high
  · have zero : magnitude = 0 := by
      rw [Scaled.ofMagnitude_of_lt low] at divides
      have wide : 52 ≤ (- (-1074 : Int)).toNat := by decide
      exact zero_of_divides _ divides
        (Nat.lt_of_lt_of_le low (Nat.pow_le_pow_right Nat.two_pos wide))
    rw [zero, Scaled.integerPart_zero]
    rfl
  · rw [Scaled.ofMagnitude_of_le high] at divides small ⊢
    have parts := Nat.div_add_mod magnitude (2 ^ 52)
    have rest := Nat.mod_lt magnitude (Nat.two_pow_pos 52)
    have binadePositive : 0 < magnitude / 2 ^ 52 := Nat.div_pos high (Nat.two_pow_pos 52)
    generalize magnitude / 2 ^ 52 = binade at *
    generalize magnitude % 2 ^ 52 = mantissa at *
    unfold Scaled.integerPart at small ⊢
    simp only at divides small ⊢
    rcases Nat.lt_or_ge 1075 binade with above | within
    · have shiftDown : (-((binade : Int) - 1075)).toNat = 0 := by omega
      have shiftUp : ((binade : Int) - 1075).toNat = binade - 1076 + 1 := by omega
      have doubled : Nat.pow 2 (binade - 1076 + 1) = 2 ^ (binade - 1076) * 2 := rfl
      have growth := Nat.two_pow_pos (binade - 1076)
      rw [shiftDown, shiftUp, doubled, show Nat.pow 2 0 = 1 from rfl, Nat.div_one] at small
      have least := Nat.le_mul_of_pos_right (2 ^ 52 + mantissa)
        (Nat.mul_pos growth Nat.two_pos)
      have twice := Nat.mul_le_mul (Nat.le_add_right (2 ^ 52) mantissa)
        (Nat.mul_le_mul_right 2 growth)
      omega
    · have shiftUp : ((binade : Int) - 1075).toNat = 0 := by omega
      have shiftDown : (-((binade : Int) - 1075)).toNat = 1075 - binade := by omega
      rw [shiftDown] at divides
      have short : 1075 - binade ≤ 52 := by
        refine Nat.le_of_not_lt fun long => ?_
        have power : 2 ^ 53 ≤ 2 ^ (1075 - binade) := Nat.pow_le_pow_right (by decide) long
        have none := zero_of_divides _ divides (by simp only [Nat.pow_eq]; omega)
        omega
      have whole : (2 ^ 52 + mantissa) / 2 ^ (1075 - binade) * 2 ^ (1075 - binade) =
          2 ^ 52 + mantissa :=
        Nat.div_mul_cancel (Nat.dvd_of_mod_eq_zero divides)
      rw [shiftUp, shiftDown, Nat.pow_eq, Nat.pow_eq, Nat.pow_zero, Nat.mul_one,
        nearestMagnitude_of_shift (by omega) (by omega) short, whole]
      omega

/-! ## Through an integer and back -/

/-- A number with the positive zero for both zeros. -/
def plainZero (number : Float) : Float :=
  if magnitudeOf number = 0 then ofNat 0 else number

theorem truncate_of_zero {number : Float} (zero : magnitudeOf number = 0) :
    truncate number = 0 := by
  unfold truncate Scaled.ofFloat
  rw [zero, Scaled.integerPart_zero]
  split <;> rfl

theorem isIntegral_of_zero {number : Float} (zero : magnitudeOf number = 0)
    (finite : isFinite number = true) : isIntegral number = true := by
  have scaled : (Scaled.ofMagnitude 0).isIntegral = true := by
    rw [Scaled.ofMagnitude_of_lt (by decide), Scaled.isIntegral, Nat.zero_mod]
    rfl
  rw [isIntegral, finite, Scaled.ofFloat, zero, scaled]
  rfl

theorem ofInt_truncate {number : Float} (integral : isIntegral number = true)
    (small : (truncate number).natAbs < 2 ^ 53) : ofInt (truncate number) = plainZero number := by
  obtain ⟨_, integral⟩ := Bool.and_eq_true_iff.mp integral
  have part : (truncate number).natAbs = (Scaled.ofFloat number).integerPart := by
    unfold truncate
    split <;> simp
  have nearest : nearestMagnitude (truncate number).natAbs 1 = magnitudeOf number := by
    rw [part] at small ⊢
    exact nearestMagnitude_integerPart integral small
  unfold ofInt plainZero
  rw [nearest]
  split
  · next zero =>
    rw [zero, truncate_of_zero zero]
    rfl
  · next nonzero =>
    have positive : (Scaled.ofFloat number).integerPart ≠ 0 := by
      intro none
      rw [part, none] at nearest
      exact nonzero nearest.symm
    have sign : decide (truncate number < 0) = isNegative number := by
      unfold truncate
      cases isNegative number with
      | true =>
          simp
          omega
      | false =>
          simp
    rw [sign, ofMagnitude_magnitudeOf]

end NoteBase.Number
