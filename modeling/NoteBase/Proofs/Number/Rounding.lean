import Mathlib.Data.Int.Log
import NoteBase.Number.Decimal
import NoteBase.Proofs.Number.Nearest

/-!
# Rounding to the nearest double

Among the magnitudes of doubles, with infinity in the place of `2 ^ 1024`, the one that is chosen
for a quotient is nowhere farther from it than another, and of two that are equally near it is the
even one. There is only one such magnitude.
-/

namespace NoteBase.Number

/-! ## The values of magnitudes -/

/-- The exact value of a magnitude. Infinity has the value that would follow the largest finite
one. -/
def magnitudeValue (magnitude : Nat) : ℚ :=
  (Scaled.ofMagnitude magnitude).value

/-- The value of a magnitude that is made of a mantissa and an exponent. The mantissa may also be
the first one that is too long. -/
theorem magnitudeValue_packed {mantissa : Nat} {exponent : Int} (least : -1074 ≤ exponent)
    (normal : exponent = -1074 ∨ 2 ^ 52 ≤ mantissa) (bound : mantissa ≤ 2 ^ 53) :
    magnitudeValue ((exponent + 1074).toNat * 2 ^ 52 + mantissa) = mantissa * 2 ^ exponent := by
  obtain ⟨offset, rfl⟩ : ∃ offset : Nat, exponent = offset - 1074 :=
    ⟨(exponent + 1074).toNat, by omega⟩
  have packed : ((offset : Int) - 1074 + 1074).toNat = offset := by omega
  rw [packed, magnitudeValue]
  rcases Nat.lt_or_ge mantissa (2 ^ 52) with low | high
  · have lowest : offset = 0 := by omega
    rw [lowest, Nat.zero_mul, Nat.zero_add, Scaled.ofMagnitude_of_lt low]
    rfl
  · rw [Scaled.ofMagnitude_of_le (by omega), Scaled.value]
    rcases Nat.lt_or_ge mantissa (2 ^ 53) with short | long
    · have binade : (offset * 2 ^ 52 + mantissa) / 2 ^ 52 = offset + 1 := by omega
      have rest : 2 ^ 52 + (offset * 2 ^ 52 + mantissa) % 2 ^ 52 = mantissa := by omega
      rw [binade, rest]
      congr 2
      push_cast
      ring
    · obtain rfl : mantissa = 2 ^ 53 := by omega
      have binade : (offset * 2 ^ 52 + 2 ^ 53) / 2 ^ 52 = offset + 2 := by omega
      have rest : 2 ^ 52 + (offset * 2 ^ 52 + 2 ^ 53) % 2 ^ 52 = 2 ^ 52 := by omega
      have carried : ((offset + 2 : Nat) : Int) - 1075 = offset - 1074 + 1 := by omega
      simp only [binade, rest, carried]
      rw [zpow_add_one₀ two_ne_zero]
      push_cast
      ring

theorem magnitudeValue_zero : magnitudeValue 0 = 0 := by
  have packed := @magnitudeValue_packed 0 (-1074) (le_refl _) (.inl rfl) (Nat.zero_le _)
  simpa using packed

theorem magnitudeValue_one : magnitudeValue 1 = 2 ^ (-1074 : Int) := by
  have packed := @magnitudeValue_packed 1 (-1074) (le_refl _) (.inl rfl) (by norm_num)
  simpa using packed

theorem magnitudeValue_infinity : magnitudeValue infinityMagnitude = 2 ^ (1024 : Int) := by
  have packed := @magnitudeValue_packed (2 ^ 52) 972 (by decide)
    (.inr (le_refl _)) (by decide)
  rw [show infinityMagnitude = (972 + 1074 : Int).toNat * 2 ^ 52 + 2 ^ 52 from rfl, packed,
    show (1024 : Int) = 52 + 972 from rfl, zpow_add₀ two_ne_zero]
  norm_num

theorem magnitudeValue_succ (magnitude : Nat) : magnitudeValue (magnitude + 1) =
    ((Scaled.ofMagnitude magnitude).mantissa + 1) *
      2 ^ (Scaled.ofMagnitude magnitude).exponent := by
  obtain ⟨small, least, normal, packed⟩ := Scaled.isUnit_ofMagnitude magnitude
  have next := @magnitudeValue_packed ((Scaled.ofMagnitude magnitude).mantissa + 1) _ least
    (normal.imp_right fun large => large.trans (Nat.le_succ _)) small
  rw [← Nat.add_assoc, packed] at next
  exact_mod_cast next

/-- The order of magnitudes is that of their values. -/
theorem strictMono_magnitudeValue : StrictMono magnitudeValue := by
  refine strictMono_nat_of_lt_succ fun magnitude => ?_
  rw [magnitudeValue_succ]
  refine mul_lt_mul_of_pos_right (lt_add_one _) ?_
  positivity

/-! ## Nearest magnitudes -/

/-- No magnitude of a double, infinity included, is nearer to an exact value than this one, and if
another one is equally near, this one is even. -/
structure IsNearestMagnitude (exact : ℚ) (magnitude : Nat) : Prop where
  number : magnitude ≤ infinityMagnitude
  nearest : ∀ other ≤ infinityMagnitude,
    |exact - magnitudeValue magnitude| ≤ |exact - magnitudeValue other|
  even : ∀ other ≤ infinityMagnitude, other ≠ magnitude →
    |exact - magnitudeValue other| = |exact - magnitudeValue magnitude| → magnitude % 2 = 0

/-- A double has a sign and the magnitude nearest to an exact value. -/
structure IsNearest (negative : Bool) (exact : ℚ) (number : Float) : Prop where
  sign : isNegative number = negative
  magnitude : IsNearestMagnitude exact (magnitudeOf number)

section Nearest

variable {exact : ℚ} {magnitude : Nat}

/-- Of two magnitudes below a value the greater one is nearer, of two above it the lower one. -/
theorem isNearestMagnitude_of_below (number : magnitude ≤ infinityMagnitude)
    (below : magnitudeValue magnitude ≤ exact)
    (above : magnitude < infinityMagnitude →
      exact - magnitudeValue magnitude < magnitudeValue (magnitude + 1) - exact) :
    IsNearestMagnitude exact magnitude := by
  have farther : ∀ other ≤ infinityMagnitude, other ≠ magnitude →
      |exact - magnitudeValue magnitude| < |exact - magnitudeValue other| := by
    intro other bound different
    rw [abs_of_nonneg (sub_nonneg.mpr below)]
    rcases Nat.lt_or_gt_of_ne different with less | greater
    · have lower := strictMono_magnitudeValue less
      exact lt_abs.mpr (.inl (by linarith))
    · have nextAbove := above (by omega)
      have higher := strictMono_magnitudeValue.monotone (Nat.succ_le_of_lt greater)
      exact lt_abs.mpr (.inr (by simp only [Nat.succ_eq_add_one] at higher; linarith))
  refine ⟨number, fun other bound => ?_, fun other bound different same => ?_⟩
  · by_cases same : other = magnitude
    · rw [same]
    · exact (farther other bound same).le
  · exact absurd same (ne_of_gt (farther other bound different))

theorem isNearestMagnitude_of_above (number : magnitude + 1 ≤ infinityMagnitude)
    (above : exact ≤ magnitudeValue (magnitude + 1))
    (below : magnitudeValue (magnitude + 1) - exact < exact - magnitudeValue magnitude) :
    IsNearestMagnitude exact (magnitude + 1) := by
  have farther : ∀ other ≤ infinityMagnitude, other ≠ magnitude + 1 →
      |exact - magnitudeValue (magnitude + 1)| < |exact - magnitudeValue other| := by
    intro other bound different
    rw [abs_of_nonpos (sub_nonpos.mpr above)]
    rcases Nat.lt_or_gt_of_ne different with less | greater
    · have lower := strictMono_magnitudeValue.monotone (Nat.le_of_lt_succ less)
      exact lt_abs.mpr (.inl (by linarith))
    · have higher := strictMono_magnitudeValue greater
      exact lt_abs.mpr (.inr (by linarith))
  refine ⟨number, fun other bound => ?_, fun other bound different same => ?_⟩
  · by_cases same : other = magnitude + 1
    · rw [same]
    · exact (farther other bound same).le
  · exact absurd same (ne_of_gt (farther other bound different))

/-- The value of a magnitude is nearest to the magnitude itself. -/
theorem isNearestMagnitude_magnitudeValue (number : magnitude ≤ infinityMagnitude) :
    IsNearestMagnitude (magnitudeValue magnitude) magnitude := by
  refine isNearestMagnitude_of_below number (le_refl _) fun _ => ?_
  rw [sub_self]
  exact sub_pos.mpr (strictMono_magnitudeValue (Nat.lt_succ_self magnitude))

/-- In the middle between two magnitudes the even one is taken. -/
theorem isNearestMagnitude_of_middle (number : magnitude + 1 ≤ infinityMagnitude)
    (middle : exact - magnitudeValue magnitude = magnitudeValue (magnitude + 1) - exact) :
    IsNearestMagnitude exact (magnitude + magnitude % 2) := by
  have step := strictMono_magnitudeValue (Nat.lt_succ_self magnitude)
  simp only [Nat.succ_eq_add_one] at step
  have least : ∀ other, exact - magnitudeValue magnitude ≤ |exact - magnitudeValue other| := by
    intro other
    rcases Nat.lt_or_ge magnitude other with greater | notGreater
    · have higher := strictMono_magnitudeValue.monotone (Nat.succ_le_of_lt greater)
      exact le_abs.mpr (.inr (by simp only [Nat.succ_eq_add_one] at higher; linarith))
    · have lower := strictMono_magnitudeValue.monotone notGreater
      exact le_abs.mpr (.inl (by linarith))
  have distance : |exact - magnitudeValue (magnitude + magnitude % 2)| =
      exact - magnitudeValue magnitude := by
    rcases Nat.mod_two_eq_zero_or_one magnitude with even | odd
    · rw [even, Nat.add_zero, abs_of_nonneg (by linarith)]
    · rw [odd, abs_of_nonpos (by linarith), middle, neg_sub]
  refine ⟨by omega, fun other _ => distance ▸ least other, fun _ _ _ _ => by omega⟩

/-- Two nearest magnitudes are the same: if they were not, both would be even, and one between them
would be nearer. -/
theorem IsNearestMagnitude.unique {other : Nat} (nearest : IsNearestMagnitude exact magnitude)
    (otherNearest : IsNearestMagnitude exact other) : magnitude = other := by
  have noneBetween : ∀ {low high : Nat}, IsNearestMagnitude exact low →
      IsNearestMagnitude exact high → ¬ low < high := by
    intro low high lowNearest highNearest less
    have same : |exact - magnitudeValue low| = |exact - magnitudeValue high| :=
      le_antisymm (lowNearest.nearest high highNearest.number)
        (highNearest.nearest low lowNearest.number)
    have lowEven := lowNearest.even high highNearest.number (ne_of_gt less) same.symm
    have highEven := highNearest.even low lowNearest.number (ne_of_lt less) same
    have first := strictMono_magnitudeValue (Nat.lt_succ_self low)
    have second := strictMono_magnitudeValue (show low.succ < high by omega)
    have between := lowNearest.nearest low.succ (by have := highNearest.number; omega)
    have apart := strictMono_magnitudeValue less
    rcases abs_cases (exact - magnitudeValue low) with ⟨lowAbs, _⟩ | ⟨lowAbs, _⟩ <;>
      rcases abs_cases (exact - magnitudeValue high) with ⟨highAbs, _⟩ | ⟨highAbs, _⟩ <;>
        rcases abs_cases (exact - magnitudeValue low.succ) with ⟨midAbs, _⟩ | ⟨midAbs, _⟩ <;>
          linarith
  exact Nat.le_antisymm (Nat.le_of_not_lt (noneBetween otherNearest nearest))
    (Nat.le_of_not_lt (noneBetween nearest otherNearest))

theorem isNearest_ofMagnitude (negative : Bool) (nearest : IsNearestMagnitude exact magnitude) :
    IsNearest negative exact (ofMagnitude negative magnitude) := by
  refine ⟨isNegative_ofMagnitude negative nearest.number, ?_⟩
  rwa [magnitudeOf_ofMagnitude negative nearest.number]

theorem IsNearest.unique {negative : Bool} {number other : Float}
    (nearest : IsNearest negative exact number) (otherNearest : IsNearest negative exact other) :
    number = other := by
  rw [← ofMagnitude_magnitudeOf number, ← ofMagnitude_magnitudeOf other, nearest.sign,
    otherNearest.sign, nearest.magnitude.unique otherNearest.magnitude]

end Nearest

/-! ## The ends of the range -/

/-- Halfway to the least magnitude the value is still zero. -/
theorem isNearestMagnitude_zero {exact : ℚ} (positive : 0 ≤ exact)
    (small : exact < 2 ^ (-1075 : Int)) : IsNearestMagnitude exact 0 := by
  refine isNearestMagnitude_of_below (Nat.zero_le _) (by rwa [magnitudeValue_zero]) fun _ => ?_
  have halves : (2 : ℚ) ^ (-1074 : Int) = 2 ^ (-1075 : Int) * 2 := by
    rw [← zpow_add_one₀ two_ne_zero]
    rfl
  rw [magnitudeValue_zero, Nat.zero_add, magnitudeValue_one, halves]
  linarith

theorem isNearestMagnitude_infinity {exact : ℚ} (large : 2 ^ (1024 : Int) ≤ exact) :
    IsNearestMagnitude exact infinityMagnitude :=
  isNearestMagnitude_of_below (le_refl _) (magnitudeValue_infinity.trans_le large)
    fun less => absurd less (lt_irrefl _)

/-! ## Quotients -/

section Quotient

variable {numerator denominator : Nat}

/-- Every positive quotient lies in a binade, or below the least one. -/
theorem exists_unitExponent (top : 0 < numerator) (bottom : 0 < denominator) :
    -1074 ≤ unitExponent numerator denominator ∧
      (numerator / denominator : ℚ) < 2 ^ (53 + unitExponent numerator denominator) ∧
      (unitExponent numerator denominator = -1074 ∨
        (2 : ℚ) ^ (52 + unitExponent numerator denominator) ≤ numerator / denominator) := by
  have positive : (0 : ℚ) < numerator / denominator := by positivity
  have lower := Int.zpow_log_le_self (b := 2) (by decide) positive
  have upper := Int.lt_zpow_succ_log_self (b := 2) (by decide) (numerator / denominator : ℚ)
  push_cast at lower upper
  generalize Int.log 2 (numerator / denominator : ℚ) = log at lower upper
  obtain ⟨exponent, chosen⟩ : ∃ exponent : Int, exponent = max (log - 52) (-1074) := ⟨_, rfl⟩
  have least : -1074 ≤ exponent := chosen ▸ le_max_right _ _
  have below : (numerator / denominator : ℚ) < 2 ^ (53 + exponent) :=
    upper.trans_le (zpow_le_zpow_right₀ (by norm_num) (by omega))
  have above : exponent = -1074 ∨ (2 : ℚ) ^ (52 + exponent) ≤ numerator / denominator := by
    by_cases lowest : exponent = -1074
    · exact .inl lowest
    · refine .inr ?_
      rwa [show 52 + exponent = log by omega]
  rw [unitExponent_eq top bottom least below above]
  exact ⟨least, below, above⟩

/-- A value between two neighbours is rounded to the nearer one, and to the even one in the middle
between them. The value is given by the fraction of a unit that it is above the lower neighbour. -/
theorem isNearestMagnitude_rounded {exact unit : ℚ} {floor rest parts : Nat} (positive : 0 < unit)
    (proper : rest < parts) (lowGap : exact - magnitudeValue floor = rest / parts * unit)
    (highGap : magnitudeValue (floor + 1) - exact = (1 - rest / parts) * unit) :
    IsNearestMagnitude exact (min infinityMagnitude (floor +
      if 2 * rest < parts then 0 else if parts < 2 * rest then 1 else floor % 2)) := by
  have divided : (0 : ℚ) < parts := by exact_mod_cast Nat.zero_lt_of_lt proper
  have reached : magnitudeValue floor ≤ exact := by
    have above : 0 ≤ rest / parts * unit := by positivity
    linarith
  rcases Nat.lt_or_ge floor infinityMagnitude with finite | overflow
  · split
    case isTrue lower =>
      rw [Nat.add_zero, Nat.min_eq_right finite.le]
      refine isNearestMagnitude_of_below finite.le reached fun _ => ?_
      rw [lowGap, highGap]
      refine mul_lt_mul_of_pos_right ?_ positive
      rw [lt_sub_iff_add_lt, ← two_mul, mul_div_assoc', div_lt_one divided]
      exact_mod_cast lower
    case isFalse notLower =>
      split
      case isTrue upper =>
        have fraction : (rest : ℚ) / parts ≤ 1 :=
          (div_le_one divided).mpr (by exact_mod_cast proper.le)
        have notReached := mul_nonneg (sub_nonneg.mpr fraction) positive.le
        rw [Nat.min_eq_right finite]
        refine isNearestMagnitude_of_above finite (by linarith) ?_
        rw [lowGap, highGap]
        refine mul_lt_mul_of_pos_right ?_ positive
        rw [sub_lt_iff_lt_add, ← two_mul, mul_div_assoc', one_lt_div divided]
        exact_mod_cast upper
      case isFalse notUpper =>
        rw [Nat.min_eq_right (by omega)]
        refine isNearestMagnitude_of_middle finite ?_
        rw [lowGap, highGap]
        congr 1
        rw [eq_sub_iff_add_eq, ← two_mul, mul_div_assoc', div_eq_one_iff_eq (ne_of_gt divided)]
        exact_mod_cast (show 2 * rest = parts by omega)
  · rw [Nat.min_eq_left (overflow.trans (Nat.le_add_right _ _))]
    exact isNearestMagnitude_of_below (le_refl _)
      ((strictMono_magnitudeValue.monotone overflow).trans reached)
      fun less => absurd less (lt_irrefl _)

/-- A quotient in units of the exponent is rounded to the nearest magnitude, if it has the bits of a
mantissa. -/
theorem isNearestMagnitude_roundHalfEven {top bottom : Nat} {exponent : Int} (divided : 0 < bottom)
    (least : -1074 ≤ exponent) (below : (top / bottom : ℚ) < 2 ^ 53)
    (above : exponent = -1074 ∨ (2 : ℚ) ^ 52 ≤ top / bottom) :
    IsNearestMagnitude (top / bottom * 2 ^ exponent) (min infinityMagnitude
      ((exponent + 1074).toNat * 2 ^ 52 + roundHalfEven top bottom)) := by
  have positive : (0 : ℚ) < bottom := by exact_mod_cast divided
  have short : top / bottom < 2 ^ 53 := by
    rw [div_lt_iff₀ positive] at below
    exact (Nat.div_lt_iff_lt_mul divided).mpr (by exact_mod_cast below)
  have normal : exponent = -1074 ∨ 2 ^ 52 ≤ top / bottom := by
    refine above.imp_right fun reached => ?_
    rw [le_div_iff₀ positive] at reached
    exact (Nat.le_div_iff_mul_le divided).mpr (by exact_mod_cast reached)
  have ratio : (top / bottom : ℚ) = (top / bottom : Nat) + (top % bottom : Nat) / (bottom : ℚ) := by
    field_simp
    exact_mod_cast (Nat.div_add_mod top bottom).symm
  have floor := magnitudeValue_packed least normal short.le
  have next := @magnitudeValue_packed (top / bottom + 1) exponent least
    (normal.imp_right fun large => large.trans (Nat.le_succ _)) short
  rw [← Nat.add_assoc] at next
  have rounded := @isNearestMagnitude_rounded (top / bottom * 2 ^ exponent) (2 ^ exponent) _ _ _
    (by positivity) (Nat.mod_lt top divided) (by rw [floor, ratio]; ring)
    (by rw [next, ratio]; push_cast; ring)
  have even : ((exponent + 1074).toNat * 2 ^ 52 + top / bottom) % 2 = top / bottom % 2 := by omega
  rw [even, Nat.add_assoc] at rounded
  convert rounded using 3
  unfold roundHalfEven
  simp only
  split
  · rfl
  · split <;> rfl

/-- The magnitude that is chosen for a quotient is the nearest one. -/
theorem isNearestMagnitude_nearestMagnitude (bottom : 0 < denominator) :
    IsNearestMagnitude (numerator / denominator : ℚ) (nearestMagnitude numerator denominator) := by
  rcases Nat.eq_zero_or_pos numerator with rfl | top
  · rw [nearestMagnitude, if_pos rfl, Nat.cast_zero, zero_div]
    exact isNearestMagnitude_zero (le_refl _) (by positivity)
  obtain ⟨least, below, above⟩ := exists_unitExponent top bottom
  rw [nearestMagnitude, if_neg (Nat.ne_of_gt top)]
  simp only
  generalize unitExponent numerator denominator = exponent at least below above ⊢
  have power : (0 : ℚ) < 2 ^ exponent := by positivity
  have quotient : (numerator / denominator : ℚ) =
      ((scaleDown numerator denominator exponent).1 : ℚ) /
        (scaleDown numerator denominator exponent).2 * 2 ^ exponent := by
    rw [scaleDown_value, div_mul_cancel₀ _ (ne_of_gt power)]
  rw [quotient] at below above ⊢
  refine isNearestMagnitude_roundHalfEven (scaleDown_positive bottom exponent) least ?_ ?_
  · rw [zpow_add₀ two_ne_zero] at below
    exact lt_of_mul_lt_mul_right below power.le
  · refine above.imp_right fun reached => ?_
    rw [zpow_add₀ two_ne_zero] at reached
    exact le_of_mul_le_mul_right reached power

end Quotient

/-! ## Decimals and natural numbers -/

theorem two_zpow_le_ten_zpow : (2 : ℚ) ^ (1300 : Int) ≤ 10 ^ (400 : Int) :=
  calc (2 : ℚ) ^ (1300 : Int)
      = (2 ^ (13 : Int)) ^ (100 : Int) := zpow_mul 2 13 100
    _ ≤ (10 ^ (4 : Int)) ^ (100 : Int) :=
        zpow_le_zpow_left₀ (by decide) (by positivity) (by norm_num)
    _ = 10 ^ (400 : Int) := (zpow_mul 10 4 100).symm

/-- The magnitude that is chosen for a decimal is the nearest one. The exponents that are not
computed with are those of values above all doubles, and below half of the least one. -/
theorem Decimal.isNearestMagnitude (decimal : Decimal) :
    IsNearestMagnitude (decimal.digits * 10 ^ decimal.exponent : ℚ) decimal.nearestMagnitude := by
  unfold Decimal.nearestMagnitude
  split
  case isTrue zero =>
    rw [zero, Nat.cast_zero, zero_mul]
    exact isNearestMagnitude_zero (le_refl _) (by positivity)
  case isFalse nonzero =>
    have digits : (1 : ℚ) ≤ decimal.digits := by exact_mod_cast Nat.one_le_iff_ne_zero.mpr nonzero
    split
    case isTrue upper =>
      refine isNearestMagnitude_infinity ?_
      calc (2 : ℚ) ^ (1024 : Int)
          ≤ 2 ^ (1300 : Int) := zpow_le_zpow_right₀ (by norm_num) (by decide)
        _ ≤ 10 ^ (400 : Int) := two_zpow_le_ten_zpow
        _ ≤ 10 ^ decimal.exponent := zpow_le_zpow_right₀ (by norm_num) upper.le
        _ ≤ decimal.digits * 10 ^ decimal.exponent :=
            le_mul_of_one_le_left (by positivity) digits
    case isFalse _ =>
      split
      case isTrue lower =>
        refine isNearestMagnitude_zero (by positivity) ?_
        have log : (decimal.digits : ℚ) < 10 ^ (decimal.digits.log2 + 1 : Int) :=
          lt_log2.trans_le (zpow_le_zpow_left₀ (by omega) (by norm_num) (by norm_num))
        calc (decimal.digits * 10 ^ decimal.exponent : ℚ)
            < 10 ^ (decimal.digits.log2 + 1 : Int) * 10 ^ decimal.exponent :=
              mul_lt_mul_of_pos_right log (by positivity)
          _ = 10 ^ (decimal.digits.log2 + 1 + decimal.exponent : Int) :=
              (zpow_add₀ (by norm_num) _ _).symm
          _ ≤ 10 ^ (-400 : Int) := zpow_le_zpow_right₀ (by norm_num) (by omega)
          _ ≤ 2 ^ (-1300 : Int) := by
              rw [zpow_neg, zpow_neg]
              exact inv_anti₀ (by positivity) two_zpow_le_ten_zpow
          _ ≤ 2 ^ (-1075 : Int) := zpow_le_zpow_right₀ (by norm_num) (by decide)
      case isFalse _ =>
        have nearest := @isNearestMagnitude_nearestMagnitude
          (decimal.digits * Nat.pow 10 decimal.exponent.toNat)
          (Nat.pow 10 (-decimal.exponent).toNat) (Nat.pow_pos (by decide))
        rw [← zpow_toNat_div 10 decimal.exponent, ← mul_div_assoc]
        exact_mod_cast nearest

theorem Decimal.isNearest_toFloat (decimal : Decimal) (negative : Bool) :
    IsNearest negative (decimal.digits * 10 ^ decimal.exponent) (decimal.toFloat negative) :=
  isNearest_ofMagnitude negative decimal.isNearestMagnitude

theorem isNearest_ofNat (value : Nat) : IsNearest false value (ofNat value) := by
  have nearest := @isNearestMagnitude_nearestMagnitude value 1 Nat.one_pos
  rw [Nat.cast_one, div_one] at nearest
  exact isNearest_ofMagnitude false nearest

end NoteBase.Number
