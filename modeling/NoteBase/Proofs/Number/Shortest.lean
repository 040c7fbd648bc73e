import Mathlib.Order.Compare
import NoteBase.Proofs.Number.Rounding

/-!
# The shortest decimal reads back

The decimals that are accepted lie between the middles to both neighbours of a magnitude, so that
this magnitude is nearest to each of them. The last grid of the search holds the magnitude itself,
which is why the search always ends at such a decimal.
-/

namespace NoteBase.Number

/-! ## Middles -/

/-- A value between the middles to both neighbours is nearest to a magnitude; the middles themselves
are nearest to it if it is even. -/
theorem isNearestMagnitude_of_middles {exact low high : ℚ} {below : Nat}
    (finite : below + 1 < infinityMagnitude)
    (lowMiddle : 2 * low = magnitudeValue below + magnitudeValue (below + 1))
    (highMiddle : 2 * high = magnitudeValue (below + 1) + magnitudeValue (below + 1 + 1))
    (fromLow : low < exact ∨ (below + 1) % 2 = 0 ∧ exact = low)
    (toHigh : exact < high ∨ (below + 1) % 2 = 0 ∧ exact = high) :
    IsNearestMagnitude exact (below + 1) := by
  rcases fromLow with aboveLow | ⟨even, atLow⟩
  · rcases toHigh with belowHigh | ⟨even, atHigh⟩
    · rcases le_total exact (magnitudeValue (below + 1)) with least | greatest
      · exact isNearestMagnitude_of_above finite.le least (by linarith)
      · exact isNearestMagnitude_of_below finite.le greatest fun _ => by linarith
    · have nearest := @isNearestMagnitude_of_middle exact (below + 1) finite (by linarith)
      rwa [even] at nearest
  · have nearest := @isNearestMagnitude_of_middle exact below finite.le (by linarith)
    rwa [show below % 2 = 1 by omega] at nearest

namespace Decimal

/-! ## Values -/

/-- The exact value of a decimal. -/
def value (decimal : Decimal) : ℚ :=
  decimal.digits * 10 ^ decimal.exponent

/-- Both values are compared in units of their last places. -/
theorem compareScaled_eq (decimal : Decimal) (scaled : Scaled) :
    decimal.compareScaled scaled = cmp decimal.value scaled.value := by
  obtain ⟨unit, isUnit⟩ : ∃ unit : ℚ,
      unit = 10 ^ (-decimal.exponent).toNat * 2 ^ (-scaled.exponent).toNat := ⟨_, rfl⟩
  have positive : 0 < unit := by
    rw [isUnit]
    positivity
  have inUnits : StrictMono fun count : Nat => (count : ℚ) / unit :=
    fun _ _ less => div_lt_div_of_pos_right (Nat.cast_lt.mpr less) positive
  rw [compareScaled, ← cmp_eq_compare, ← inUnits.cmp_map_eq, value, Scaled.value,
    ← zpow_toNat_div 10, ← zpow_toNat_div 2, isUnit]
  push_cast [Nat.pow_eq]
  congr 1 <;> field_simp

/-! ## Between the middles -/

section Middles

variable {scaled : Scaled} {decimal : Decimal}

/-- The middle between a magnitude and the neighbour below it, in quarters of the last place. -/
def lowMiddle (scaled : Scaled) : Scaled :=
  ⟨4 * scaled.mantissa - (if isBinadeStart scaled then 1 else 2), scaled.exponent - 2⟩

/-- The middle between a magnitude and the neighbour above it. -/
def highMiddle (scaled : Scaled) : Scaled :=
  ⟨4 * scaled.mantissa + 2, scaled.exponent - 2⟩

theorem mantissa_lowMiddle_mem (positive : 0 < scaled.mantissa) :
    0 < (lowMiddle scaled).mantissa ∧ (lowMiddle scaled).mantissa < 4 * scaled.mantissa := by
  simp only [lowMiddle]
  split <;> omega

theorem readsBack_iff : readsBack scaled decimal = true ↔
    ((lowMiddle scaled).value < decimal.value ∨
      scaled.mantissa % 2 = 0 ∧ decimal.value = (lowMiddle scaled).value) ∧
    (decimal.value < (highMiddle scaled).value ∨
      scaled.mantissa % 2 = 0 ∧ decimal.value = (highMiddle scaled).value) := by
  simp only [readsBack, compareScaled_eq, Bool.and_eq_true, Bool.or_eq_true, beq_iff_eq,
    cmp_eq_gt_iff, cmp_eq_lt_iff, cmp_eq_eq_iff]
  exact Iff.rfl

/-- A magnitude lies between the middles itself. -/
theorem readsBack_of_value_eq (positive : 0 < scaled.mantissa)
    (same : decimal.value = scaled.value) : readsBack scaled decimal = true := by
  have quarters : scaled.value = (4 * scaled.mantissa : Nat) * 2 ^ (scaled.exponent - 2) := by
    rw [Scaled.value, zpow_sub₀ two_ne_zero]
    push_cast
    ring
  have quarter : (0 : ℚ) < 2 ^ (scaled.exponent - 2) := by positivity
  have low := (mantissa_lowMiddle_mem positive).2
  rw [readsBack_iff, same, quarters]
  exact ⟨.inl (mul_lt_mul_of_pos_right (Nat.cast_lt.mpr low) quarter),
    .inl (mul_lt_mul_of_pos_right (Nat.cast_lt.mpr (Nat.lt_add_of_pos_right Nat.two_pos)) quarter)⟩

/-- Zero is too far away to be read as a positive magnitude. -/
theorem digits_pos_of_readsBack (positive : 0 < scaled.mantissa)
    (back : readsBack scaled decimal = true) : 0 < decimal.digits := by
  have low : 0 < (lowMiddle scaled).value :=
    mul_pos (Nat.cast_pos.mpr (mantissa_lowMiddle_mem positive).1) (by positivity)
  rw [Nat.pos_iff_ne_zero]
  intro zero
  have none : decimal.value = 0 := by rw [value, zero, Nat.cast_zero, zero_mul]
  rcases (readsBack_iff.mp back).1 with above | ⟨_, middle⟩ <;> linarith

end Middles

theorem two_mul_highMiddle (magnitude : Nat) :
    2 * (highMiddle (Scaled.ofMagnitude magnitude)).value =
      magnitudeValue magnitude + magnitudeValue (magnitude + 1) := by
  rw [magnitudeValue_succ, magnitudeValue, Scaled.value, Scaled.value, highMiddle,
    zpow_sub₀ two_ne_zero]
  push_cast
  ring

section Below

variable {below : Nat} {scaled : Scaled}

/-- In front of the start of a binade the mantissa is the last one of the binade below. -/
theorem magnitudeValue_of_isBinadeStart (unit : scaled.IsUnit (below + 1))
    (start : isBinadeStart scaled = true) :
    magnitudeValue below = (2 ^ 53 - 1) * 2 ^ (scaled.exponent - 1) := by
  simp only [isBinadeStart, Bool.and_eq_true, beq_iff_eq, decide_eq_true_eq, Nat.pow_eq] at start
  obtain ⟨last, isLast⟩ : ∃ last, last + 1 = 2 ^ 53 := ⟨2 ^ 53 - 1, rfl⟩
  have lastCast : (last : ℚ) = 2 ^ 53 - 1 := eq_sub_of_add_eq (by exact_mod_cast isLast)
  have packed := unit.packed
  have offset : (scaled.exponent + 1074).toNat = (scaled.exponent - 1 + 1074).toNat + 1 := by omega
  rw [offset, start.1] at packed
  have neighbour := @magnitudeValue_packed last (scaled.exponent - 1) (by omega)
    (.inr (by omega)) (by omega)
  rwa [show (scaled.exponent - 1 + 1074).toNat * 2 ^ 52 + last = below by linarith,
    lastCast] at neighbour

theorem magnitudeValue_of_not_isBinadeStart (unit : scaled.IsUnit (below + 1))
    (inside : ¬ isBinadeStart scaled = true) :
    magnitudeValue below = (scaled.mantissa - 1) * 2 ^ scaled.exponent := by
  obtain ⟨small, least, normal, packed⟩ := unit
  simp only [isBinadeStart, Bool.and_eq_true, beq_iff_eq, decide_eq_true_eq, Nat.pow_eq] at inside
  have neighbour := @magnitudeValue_packed (scaled.mantissa - 1) scaled.exponent least
    (by omega) (by omega)
  rwa [show (scaled.exponent + 1074).toNat * 2 ^ 52 + (scaled.mantissa - 1) = below by omega,
    Nat.cast_sub (by omega), Nat.cast_one] at neighbour

end Below

/-- The neighbour below is as far away as the last place says, but at the start of a binade only
half of that. -/
theorem two_mul_lowMiddle (below : Nat) :
    2 * (lowMiddle (Scaled.ofMagnitude (below + 1))).value =
      magnitudeValue below + magnitudeValue (below + 1) := by
  have unit := Scaled.isUnit_ofMagnitude (below + 1)
  have positive : 0 < (Scaled.ofMagnitude (below + 1)).mantissa :=
    Nat.pos_of_ne_zero ((Scaled.mantissa_ofMagnitude_eq_zero_iff _).not.mpr (Nat.succ_ne_zero _))
  rw [show magnitudeValue (below + 1) = (Scaled.ofMagnitude (below + 1)).value from rfl]
  generalize Scaled.ofMagnitude (below + 1) = scaled at unit positive ⊢
  simp only [lowMiddle, Scaled.value]
  split
  next start =>
    have mantissa : scaled.mantissa = 2 ^ 52 := beq_iff_eq.mp (Bool.and_eq_true_iff.mp start).1
    rw [magnitudeValue_of_isBinadeStart unit start, mantissa, zpow_sub₀ two_ne_zero,
      zpow_sub₀ two_ne_zero]
    norm_num
    ring
  next inside =>
    rw [magnitudeValue_of_not_isBinadeStart unit inside, zpow_sub₀ two_ne_zero,
      Nat.cast_sub (by omega)]
    push_cast
    ring

/-- A decimal that is accepted for a magnitude has this one as the nearest. -/
theorem isNearestMagnitude_of_readsBack {magnitude : Nat} {decimal : Decimal}
    (positive : 0 < magnitude) (finite : magnitude < infinityMagnitude)
    (back : readsBack (Scaled.ofMagnitude magnitude) decimal = true) :
    IsNearestMagnitude decimal.value magnitude := by
  obtain ⟨below, rfl⟩ : ∃ below, magnitude = below + 1 := ⟨magnitude - 1, by omega⟩
  have packed := (Scaled.isUnit_ofMagnitude (below + 1)).packed
  have even : (Scaled.ofMagnitude (below + 1)).mantissa % 2 = (below + 1) % 2 := by omega
  obtain ⟨fromLow, toHigh⟩ := readsBack_iff.mp back
  rw [even] at fromLow toHigh
  exact isNearestMagnitude_of_middles finite (two_mul_lowMiddle below) (two_mul_highMiddle _)
    fromLow toHigh

/-! ## The search -/

section Search

variable {scaled : Scaled}

theorem readsBack_of_onGrid? {tie : Tie} {power : Int} {decimal : Decimal}
    (found : onGrid? tie scaled power = some decimal) : readsBack scaled decimal = true := by
  unfold onGrid? at found
  simp only at found
  split at found
  next => cases found
  next back _ =>
    cases found
    exact back
  next _ back =>
    cases found
    exact back
  next belowBack aboveBack =>
    repeat' split at found
    all_goals cases found
    all_goals
      first
      | exact belowBack
      | exact aboveBack

/-- A grid that is fine enough holds the value. -/
theorem value_gridFloor {power : Int} (fine : power ≤ min scaled.exponent 0) :
    value ⟨gridFloor scaled power, power⟩ = scaled.value := by
  have whole : power.toNat = 0 := by omega
  have more : (-scaled.exponent).toNat ≤ (-power).toNat := by omega
  have divides : 2 ^ (-scaled.exponent).toNat ∣
      scaled.mantissa * 2 ^ scaled.exponent.toNat * 10 ^ (-power).toNat :=
    Dvd.dvd.mul_left ((pow_dvd_pow_of_dvd (by decide) _).trans (pow_dvd_pow 10 more)) _
  rw [value, gridFloor, whole]
  simp only [Nat.pow_eq, Nat.pow_zero, Nat.mul_one]
  rw [Nat.cast_div_charZero divides, Scaled.value, ← zpow_toNat_div 2, ← zpow_toNat_div 10, whole]
  push_cast
  field_simp

theorem readsBack_search (positive : 0 < scaled.mantissa) (tie : Tie) (steps : Nat) {power : Int}
    (fine : power - steps ≤ min scaled.exponent 0) :
    readsBack scaled (search tie scaled steps power) = true := by
  induction steps generalizing power with
  | zero =>
      exact readsBack_of_value_eq positive (value_gridFloor (by omega))
  | succ steps inductionHypothesis =>
      rw [search]
      split
      next found => exact readsBack_of_onGrid? found
      next => exact inductionHypothesis (by omega)

theorem value_stripZeros (decimal : Decimal) : decimal.stripZeros.value = decimal.value := by
  have stripped : ∀ (fuel : Nat) (rest : Decimal),
      (stripZeros.go fuel rest).value = rest.value := by
    intro fuel
    induction fuel with
    | zero =>
        exact fun rest => rfl
    | succ fuel inductionHypothesis =>
        intro rest
        rw [stripZeros.go]
        split
        next zero =>
          have tenfold : (rest.digits : ℚ) = (rest.digits / 10 : Nat) * 10 := by
            exact_mod_cast (Nat.div_mul_cancel (Nat.dvd_of_mod_eq_zero zero.2)).symm
          rw [inductionHypothesis, value, value, tenfold, zpow_add_one₀ (by norm_num)]
          ring
        next => rfl
  exact stripped _ decimal

/-- The shortest decimal is accepted. -/
theorem readsBack_shortest (positive : 0 < scaled.mantissa) (tie : Tie) :
    readsBack scaled (shortest tie scaled) = true := by
  have found : readsBack scaled (search tie scaled
      (startPower scaled - min scaled.exponent 0).toNat (startPower scaled)) = true :=
    readsBack_search positive tie _ (by omega)
  rw [readsBack_iff] at found ⊢
  rwa [shortest, value_stripZeros]

theorem digits_shortest_pos (positive : 0 < scaled.mantissa) (tie : Tie) :
    0 < (shortest tie scaled).digits :=
  digits_pos_of_readsBack positive (readsBack_shortest positive tie)

end Search

/-- The magnitude is the nearest one to its shortest decimal. -/
theorem isNearestMagnitude_shortest {magnitude : Nat} (positive : 0 < magnitude)
    (finite : magnitude < infinityMagnitude) (tie : Tie) :
    IsNearestMagnitude (shortest tie (Scaled.ofMagnitude magnitude)).value magnitude := by
  have mantissa : 0 < (Scaled.ofMagnitude magnitude).mantissa :=
    Nat.pos_of_ne_zero fun zero =>
      positive.ne' ((Scaled.mantissa_ofMagnitude_eq_zero_iff magnitude).mp zero)
  exact isNearestMagnitude_of_readsBack positive finite (readsBack_shortest mantissa tie)

end Decimal

end NoteBase.Number
