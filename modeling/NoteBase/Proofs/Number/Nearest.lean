import Mathlib.Algebra.Order.Field.Power
import Mathlib.Tactic.FieldSimp
import Mathlib.Tactic.Linarith
import Mathlib.Tactic.NormNum
import Mathlib.Tactic.Positivity
import NoteBase.Proofs.Number.Integral

/-!
# Magnitudes and the exponents of quotients

A magnitude with a sign makes a double that has this sign and this magnitude. The exponent that is
chosen for a quotient is that of the binade in which the quotient lies. The value of a magnitude is
kept as a rational number, so that powers of two with negative exponents need no case of their own.
-/

namespace NoteBase.Number

open Float.Model (Format)
open Float.Model.UnpackedFloat (unpackSign unpackExponent unpackMantissa)

/-! ## Bits -/

theorem toNat_unpackSign (bits : BitVec Format.binary64.numBits) :
    (unpackSign bits).toNat = bits.toNat / 2 ^ 63 % 2 := by
  simp [unpackSign, Nat.shiftRight_eq_div_pow]

theorem toNat_unpackExponent (bits : BitVec Format.binary64.numBits) :
    (unpackExponent bits).toNat = bits.toNat / 2 ^ 52 % 2 ^ 11 := by
  simp [unpackExponent, Nat.shiftRight_eq_div_pow]

theorem toNat_unpackMantissa (bits : BitVec Format.binary64.numBits) :
    (unpackMantissa bits).toNat = bits.toNat % 2 ^ 52 := by
  simp [unpackMantissa]

/-- A pattern up to infinity, with either sign, is the one of the double that is made of it. -/
theorem toBits_ofBits_of_magnitude {bits : UInt64}
    (number : bits.toNat % Nat.pow 2 63 ≤ infinityMagnitude) :
    (Float.ofBits bits).toBits = bits := by
  have valid : Format.binary64.Valid bits.toBitVec := by
    refine ⟨fun top payload => absurd ?_ payload⟩
    have exponent : bits.toNat / 2 ^ 52 % 2 ^ 11 = 2047 :=
      (toNat_unpackExponent bits.toBitVec).symm.trans (congrArg BitVec.toNat top)
    have mantissa : bits.toNat % 2 ^ 52 = 0 := by
      simp only [infinityMagnitude, Nat.pow_eq] at number
      omega
    exact BitVec.eq_of_toNat_eq ((toNat_unpackMantissa bits.toBitVec).trans mantissa)
  show UInt64.ofBitVec _ = bits
  rw [Float.Model.UnpackedFloat.pack_unpack_of_valid valid]

theorem toNat_toBits_ofMagnitude (negative : Bool) {magnitude : Nat}
    (number : magnitude ≤ infinityMagnitude) :
    (ofMagnitude negative magnitude).toBits.toNat =
      if negative then 2 ^ 63 + magnitude else magnitude := by
  have pattern : (UInt64.ofNat (if negative then Nat.pow 2 63 + magnitude else magnitude)).toNat =
      if negative then 2 ^ 63 + magnitude else magnitude := by
    rw [UInt64.toNat_ofNat', Nat.pow_eq]
    simp only [infinityMagnitude, Nat.pow_eq] at number
    split <;> omega
  rw [ofMagnitude, toBits_ofBits_of_magnitude, pattern]
  rw [pattern, Nat.pow_eq]
  simp only [infinityMagnitude, Nat.pow_eq] at number ⊢
  split <;> omega

theorem magnitudeOf_ofMagnitude (negative : Bool) {magnitude : Nat}
    (number : magnitude ≤ infinityMagnitude) :
    magnitudeOf (ofMagnitude negative magnitude) = magnitude := by
  rw [magnitudeOf, toNat_toBits_ofMagnitude negative number]
  simp only [infinityMagnitude, Nat.pow_eq] at number ⊢
  split <;> omega

theorem isNegative_ofMagnitude (negative : Bool) {magnitude : Nat}
    (number : magnitude ≤ infinityMagnitude) :
    isNegative (ofMagnitude negative magnitude) = negative := by
  rw [isNegative, toNat_toBits_ofMagnitude negative number]
  simp only [infinityMagnitude, Nat.pow_eq] at number ⊢
  cases negative with
  | true =>
      simp
  | false =>
      simp
      omega

/-! ## Quotients -/

/-- The exact value of a magnitude. -/
def Scaled.value (scaled : Scaled) : ℚ :=
  scaled.mantissa * 2 ^ scaled.exponent

theorem zpow_toNat_div (base : ℚ) (exponent : Int) :
    base ^ exponent.toNat / base ^ (-exponent).toNat = base ^ exponent := by
  rcases Int.le_total 0 exponent with positive | negative
  · rw [Int.toNat_of_nonpos (by omega : -exponent ≤ 0), pow_zero, div_one, ← zpow_natCast,
      Int.toNat_of_nonneg positive]
  · rw [Int.toNat_of_nonpos negative, pow_zero, ← zpow_natCast,
      Int.toNat_of_nonneg (by omega : 0 ≤ -exponent), zpow_neg, one_div, inv_inv]

section Quotient

variable {numerator denominator : Nat}

/-- Scaling down divides the value by a power of two. -/
theorem scaleDown_value (exponent : Int) :
    ((scaleDown numerator denominator exponent).1 : ℚ) /
        (scaleDown numerator denominator exponent).2 =
      numerator / denominator / 2 ^ exponent := by
  rw [scaleDown, ← zpow_toNat_div 2 exponent]
  push_cast [Nat.pow_eq]
  field_simp

theorem le_log2 (positive : 0 < numerator) : (2 : ℚ) ^ (numerator.log2 : Int) ≤ numerator := by
  rw [zpow_natCast]
  exact_mod_cast Nat.log2_self_le (Nat.ne_of_gt positive)

theorem lt_log2 : (numerator : ℚ) < 2 ^ ((numerator.log2 : Int) + 1) := by
  have bound : numerator < 2 ^ (numerator.log2 + 1) := Nat.lt_log2_self
  rw [← Nat.cast_succ, zpow_natCast]
  exact_mod_cast bound

theorem scaleDown_positive (positive : 0 < denominator) (exponent : Int) :
    0 < (scaleDown numerator denominator exponent).2 :=
  Nat.mul_pos positive (Nat.two_pow_pos _)

theorem pow_mul_le_scaleDown (positive : 0 < denominator) (bits : Nat) (exponent : Int) :
    Nat.pow 2 bits * (scaleDown numerator denominator exponent).2 ≤
        (scaleDown numerator denominator exponent).1 ↔
      (2 : ℚ) ^ (bits + exponent) ≤ numerator / denominator := by
  have bottom : (0 : ℚ) < (scaleDown numerator denominator exponent).2 := by
    exact_mod_cast scaleDown_positive positive exponent
  have power : (0 : ℚ) < 2 ^ exponent := by positivity
  rw [zpow_add₀ two_ne_zero, zpow_natCast, ← le_div_iff₀ power, ← scaleDown_value,
    le_div_iff₀ bottom, Nat.pow_eq]
  exact_mod_cast Iff.rfl

/-- The exponent with which the quotient lies in a binade, or below the least one. -/
theorem unitExponent_eq (top : 0 < numerator) (bottom : 0 < denominator) {exponent : Int}
    (least : -1074 ≤ exponent)
    (below : (numerator / denominator : ℚ) < 2 ^ (53 + exponent))
    (above : exponent = -1074 ∨ (2 : ℚ) ^ (52 + exponent) ≤ numerator / denominator) :
    unitExponent numerator denominator = exponent := by
  have one : (1 : ℚ) < 2 := by norm_num
  have divided : (0 : ℚ) < denominator := by exact_mod_cast bottom
  -- The logarithms of both sides leave two exponents, the estimate and the one above it.
  have lower : (2 : ℚ) ^ ((numerator.log2 : Int) - denominator.log2 - 1) <
      numerator / denominator := by
    rw [lt_div_iff₀ divided]
    calc (2 : ℚ) ^ ((numerator.log2 : Int) - denominator.log2 - 1) * denominator
        < 2 ^ ((numerator.log2 : Int) - denominator.log2 - 1) *
            2 ^ ((denominator.log2 : Int) + 1) := by
          exact mul_lt_mul_of_pos_left lt_log2 (by positivity)
      _ = 2 ^ (numerator.log2 : Int) := by
          rw [← zpow_add₀ two_ne_zero]
          congr 1
          omega
      _ ≤ numerator := le_log2 top
  have upper : (numerator / denominator : ℚ) <
      2 ^ ((numerator.log2 : Int) - denominator.log2 + 1) := by
    rw [div_lt_iff₀ divided]
    calc (numerator : ℚ) < 2 ^ ((numerator.log2 : Int) + 1) := lt_log2
      _ = 2 ^ ((numerator.log2 : Int) - denominator.log2 + 1) *
            2 ^ (denominator.log2 : Int) := by
          rw [← zpow_add₀ two_ne_zero]
          congr 1
          omega
      _ ≤ 2 ^ ((numerator.log2 : Int) - denominator.log2 + 1) * denominator := by
          exact mul_le_mul_of_nonneg_left (le_log2 bottom) (by positivity)
  have notAbove : (numerator.log2 : Int) - denominator.log2 - 53 ≤ exponent := by
    have powers := (zpow_lt_zpow_iff_right₀ one).mp (lower.trans below)
    omega
  have notBelow : exponent = -1074 ∨
      exponent ≤ (numerator.log2 : Int) - denominator.log2 - 52 := by
    refine above.imp id fun reached => ?_
    have powers := (zpow_lt_zpow_iff_right₀ one).mp (reached.trans_lt upper)
    omega
  have estimated :
      max ((numerator.log2 : Int) - denominator.log2 - 53) (-1074) = exponent ∨
        max ((numerator.log2 : Int) - denominator.log2 - 53) (-1074) = exponent - 1 := by
    omega
  have decide : ∀ estimate : Int,
      Nat.pow 2 53 * (scaleDown numerator denominator estimate).2 ≤
          (scaleDown numerator denominator estimate).1 ↔
        (2 : ℚ) ^ (53 + estimate) ≤ numerator / denominator :=
    pow_mul_le_scaleDown bottom 53
  unfold unitExponent
  rcases estimated with exact | short
  · simp only [exact]
    rw [if_neg]
    rw [decide]
    exact not_le.mpr below
  · simp only [short]
    rw [if_pos]
    · omega
    · rw [decide, show 53 + (exponent - 1) = 52 + exponent by omega]
      rcases above with lowest | reached
      · omega
      · exact reached

end Quotient

/-! ## Magnitudes -/

/-- The mantissa and the exponent of a magnitude are those that a double has. -/
structure Scaled.IsUnit (scaled : Scaled) (magnitude : Nat) : Prop where
  mantissa_lt : scaled.mantissa < 2 ^ 53
  least : -1074 ≤ scaled.exponent
  normal : scaled.exponent = -1074 ∨ 2 ^ 52 ≤ scaled.mantissa
  packed : (scaled.exponent + 1074).toNat * 2 ^ 52 + scaled.mantissa = magnitude

theorem Scaled.isUnit_ofMagnitude (magnitude : Nat) :
    (Scaled.ofMagnitude magnitude).IsUnit magnitude := by
  rcases Nat.lt_or_ge magnitude (2 ^ 52) with low | high
  · rw [Scaled.ofMagnitude_of_lt low]
    exact ⟨by simp only; omega, le_refl _, .inl rfl, by simp⟩
  · rw [Scaled.ofMagnitude_of_le high]
    have rest := Nat.mod_lt magnitude (Nat.two_pow_pos 52)
    have positive : 0 < magnitude / 2 ^ 52 := Nat.div_pos high (Nat.two_pow_pos 52)
    have parts := Nat.div_add_mod magnitude (2 ^ 52)
    refine ⟨?_, ?_, .inr ?_, ?_⟩ <;> simp only <;> omega

theorem Scaled.mantissa_ofMagnitude_eq_zero_iff (magnitude : Nat) :
    (Scaled.ofMagnitude magnitude).mantissa = 0 ↔ magnitude = 0 := by
  obtain ⟨_, least, normal, packed⟩ := Scaled.isUnit_ofMagnitude magnitude
  omega

theorem nearestMagnitude_le (numerator denominator : Nat) :
    nearestMagnitude numerator denominator ≤ infinityMagnitude := by
  unfold nearestMagnitude
  split
  · exact Nat.zero_le _
  · exact Nat.min_le_left _ _

/-! ## Counts -/

section Counts

variable {count : Nat}

/-- The double nearest to a count below `2 ^ 53` is the count itself, whose leading bit is moved to
the implicit one. -/
theorem exists_scaled_nearestMagnitude (positive : 0 < count) (small : count < 2 ^ 53) :
    ∃ shift : Nat, Scaled.ofMagnitude (nearestMagnitude count 1) = ⟨count * 2 ^ shift, -shift⟩ ∧
      nearestMagnitude count 1 < infinityMagnitude := by
  have log : count.log2 ≤ 52 := by
    have below := (Nat.log2_lt (Nat.ne_of_gt positive)).mpr small
    omega
  obtain ⟨shift, shiftEq⟩ := Nat.exists_eq_add_of_le' log
  have low : 2 ^ 52 ≤ count * 2 ^ shift := by
    rw [shiftEq, Nat.pow_add, Nat.mul_comm count]
    exact Nat.mul_le_mul_left _ (Nat.log2_self_le (Nat.ne_of_gt positive))
  have high : count * 2 ^ shift < 2 ^ 53 := by
    rw [show 53 = shift + (count.log2 + 1) by omega, Nat.pow_add, Nat.mul_comm count]
    exact Nat.mul_lt_mul_of_pos_left Nat.lt_log2_self (Nat.two_pow_pos shift)
  have magnitude := nearestMagnitude_of_shift low high (by omega)
  refine ⟨shift, ?_, ?_⟩
  · rw [magnitude, Scaled.ofMagnitude_of_le (by omega), Scaled.mk.injEq]
    omega
  · rw [magnitude]
    simp only [infinityMagnitude, Nat.pow_eq]
    omega

theorem integerPart_nearestMagnitude (small : count < 2 ^ 53) :
    (Scaled.ofMagnitude (nearestMagnitude count 1)).integerPart = count := by
  rcases Nat.eq_zero_or_pos count with rfl | positive
  · exact Scaled.integerPart_zero
  · obtain ⟨shift, scaled, _⟩ := exists_scaled_nearestMagnitude positive small
    rw [scaled, Scaled.integerPart]
    simp only [Int.neg_neg, Int.toNat_natCast]
    rw [Int.toNat_of_nonpos (by omega), Nat.pow_eq, Nat.pow_eq, Nat.pow_zero, Nat.mul_one,
      Nat.mul_div_cancel _ (Nat.two_pow_pos shift)]

theorem isIntegral_nearestMagnitude (small : count < 2 ^ 53) :
    (Scaled.ofMagnitude (nearestMagnitude count 1)).isIntegral = true := by
  rcases Nat.eq_zero_or_pos count with rfl | positive
  · rw [show nearestMagnitude 0 1 = 0 from rfl, Scaled.ofMagnitude_of_lt (by decide),
      Scaled.isIntegral, Nat.zero_mod]
    rfl
  · obtain ⟨shift, scaled, _⟩ := exists_scaled_nearestMagnitude positive small
    rw [scaled, Scaled.isIntegral, Int.neg_neg, Int.toNat_natCast, Nat.pow_eq, Nat.mul_mod_left]
    rfl

theorem nearestMagnitude_lt (small : count < 2 ^ 53) :
    nearestMagnitude count 1 < infinityMagnitude := by
  rcases Nat.eq_zero_or_pos count with rfl | positive
  · decide
  · obtain ⟨_, _, finite⟩ := exists_scaled_nearestMagnitude positive small
    exact finite

/-- A count below `2 ^ 53` is the integral part of its double. -/
theorem truncate_ofNat (small : count < 2 ^ 53) : truncate (ofNat count) = count := by
  have number := nearestMagnitude_le count 1
  rw [truncate, Scaled.ofFloat, ofNat, magnitudeOf_ofMagnitude false number,
    isNegative_ofMagnitude false number, integerPart_nearestMagnitude small]
  rfl

end Counts

/-! ## Integers -/

section Integers

variable {value : Int}

theorem isIntegral_ofInt (small : value.natAbs < 2 ^ 53) : isIntegral (ofInt value) = true := by
  have number := nearestMagnitude_le value.natAbs 1
  rw [isIntegral, isFinite, Scaled.ofFloat, ofInt, magnitudeOf_ofMagnitude _ number,
    isIntegral_nearestMagnitude small, decide_eq_true (nearestMagnitude_lt small)]
  rfl

/-- An integer with a magnitude below `2 ^ 53` is the integral part of its double. -/
theorem truncate_ofInt (small : value.natAbs < 2 ^ 53) : truncate (ofInt value) = value := by
  have number := nearestMagnitude_le value.natAbs 1
  rw [truncate, Scaled.ofFloat, ofInt, magnitudeOf_ofMagnitude _ number,
    isNegative_ofMagnitude _ number, integerPart_nearestMagnitude small]
  by_cases negative : value < 0
  · rw [decide_eq_true negative, if_pos rfl]
    omega
  · rw [decide_eq_false negative, if_neg Bool.false_ne_true]
    omega

theorem toWord_ofInt (small : value.natAbs < 2 ^ 53) : toWord (ofInt value) = value := by
  have number := nearestMagnitude_le value.natAbs 1
  have notBeyond : isNaN (ofInt value) = false := by
    rw [isNaN, ofInt, magnitudeOf_ofMagnitude _ number]
    exact decide_eq_false (Nat.not_lt.mpr number)
  rw [toWord, notBeyond, if_neg Bool.false_ne_true, truncate_ofInt small]
  omega

end Integers

end NoteBase.Number
