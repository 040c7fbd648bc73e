import Mathlib.Data.Nat.Cast.Field
import NoteBase.Number.Layout
import NoteBase.Proofs.Json.Numbers
import NoteBase.Proofs.Number.Literals
import NoteBase.Proofs.Number.Order
import NoteBase.Proofs.Number.Rounding

/-!
# Numerals that are exact

Every finite double is a decimal, with as many digits as its power of two needs. The numeral of this
decimal is read as the double again. A minus in front of a numeral negates its double.
-/

namespace NoteBase.Number

/-! ## Numerals of decimals -/

/-- The exponent of a numeral; a power of zero has none. -/
def exponentChars (power : Int) : List Char :=
  if power = 0 then []
  else 'e' :: ((if power < 0 then ['-'] else []) ++ digitChars power.natAbs)

def numeralChars (decimal : Decimal) : List Char :=
  digitChars decimal.digits ++ exponentChars decimal.exponent

theorem decimalValue_digitChars (value : Nat) : decimalValue (digitChars value) = value := by
  have read : Nat.ofDigitChars 10 (digitChars value) 0 = value :=
    Nat.ofDigitChars_toDigits (by decide) (by decide)
  rw [Nat.ofDigitChars_eq_foldl] at read
  simpa only [decimalValue, Nat.mul_comm] using read

theorem isDigit_digitChars (value : Nat) : ∀ char ∈ digitChars value, char.isDigit = true :=
  fun _ member => Json.isDigit_of_mem_digitChars member

theorem exists_digitChars (value : Nat) :
    ∃ first rest, digitChars value = first :: rest ∧ first.isDigit = true := by
  obtain ⟨first, rest, chars⟩ := List.exists_cons_of_ne_nil
    (l := digitChars value) Nat.toDigits_ne_nil
  exact ⟨first, rest, chars, isDigit_digitChars value first (chars ▸ List.mem_cons_self)⟩

theorem splitSign_of_isDigit {first : Char} {rest : List Char} (digit : first.isDigit = true) :
    splitSign (first :: rest) = (false, first :: rest) := by
  obtain ⟨noPlus, noMinus⟩ := noSign_of_isDigit digit
  simp [splitSign, noPlus, noMinus]

/-- The exponent does not go on with the digits in front of it. -/
theorem head?_exponentChars (power : Int) :
    ∀ char ∈ (exponentChars power).head?, char.isDigit = false := by
  unfold exponentChars
  split
  · nofun
  · intro char head
    obtain rfl := Option.some.inj head
    rfl

theorem takeWhile_numeralChars (decimal : Decimal) :
    (numeralChars decimal).takeWhile Char.isDigit = digitChars decimal.digits := by
  rw [numeralChars, Text.takeWhile_append_of_head (head?_exponentChars _),
    Text.takeWhile_eq_self (isDigit_digitChars _)]

theorem exists_numeralChars (decimal : Decimal) :
    ∃ first rest, numeralChars decimal = first :: rest ∧ first.isDigit = true := by
  obtain ⟨first, rest, chars, digit⟩ := exists_digitChars decimal.digits
  exact ⟨first, rest ++ exponentChars decimal.exponent, by rw [numeralChars, chars]; rfl, digit⟩

/-- The digits of a value, of which there is at least one. -/
theorem exists_digits_digitChars (value : Nat) :
    ∃ digits, decimalChars digits = digitChars value ∧ placeValue digits = value ∧ digits ≠ [] := by
  obtain ⟨digits, chars⟩ := exists_decimalChars (isDigit_digitChars value)
  refine ⟨digits, chars, ?_, ?_⟩
  · rw [← decimalValue_decimalChars, chars, decimalValue_digitChars]
  · rintro rfl
    exact Nat.toDigits_ne_nil chars.symm

/-- An exponent with a sign, which a power that is not negative may lack. -/
theorem exists_signedExponent (plusSign : Bool) (power : Int) : ∃ part : ExponentPart,
    part.chars = 'e' :: ((if power < 0 then ['-'] else if plusSign then ['+'] else []) ++
      digitChars power.natAbs) ∧ part.value = power := by
  obtain ⟨digits, chars, value, nonempty⟩ := exists_digits_digitChars power.natAbs
  have unsigned : 0 ≤ power → (placeValue digits : Int) = power := fun _ => by omega
  rw [← chars]
  by_cases negative : power < 0
  · refine ⟨⟨false, .minus, digits, nonempty⟩, ?_, ?_⟩
    · rw [if_pos negative]
      rfl
    · show (-placeValue digits : Int) = power
      omega
  · rw [if_neg negative]
    cases plusSign with
    | true => exact ⟨⟨false, .plus, digits, nonempty⟩, rfl, unsigned (by omega)⟩
    | false => exact ⟨⟨false, .none, digits, nonempty⟩, rfl, unsigned (by omega)⟩

/-- The exponent of a numeral is that of a literal. -/
theorem exists_exponent (power : Int) : ∃ part : Option ExponentPart,
    (part.map ExponentPart.chars).getD [] = exponentChars power ∧
      (part.map ExponentPart.value).getD 0 = power := by
  obtain ⟨part, chars, value⟩ := exists_signedExponent false power
  unfold exponentChars
  by_cases zero : power = 0
  · exact ⟨none, (if_pos zero).symm, zero.symm⟩
  · rw [if_neg zero]
    exact ⟨some part, chars, value⟩

/-- The numeral of a decimal is a literal, from which the decimal is read. -/
theorem decimalLiteral?_numeralChars (decimal : Decimal) :
    decimalLiteral? (numeralChars decimal) = some (false, decimal) := by
  obtain ⟨whole, chars, value, nonempty⟩ := exists_digits_digitChars decimal.digits
  obtain ⟨exponent, behind, power⟩ := exists_exponent decimal.exponent
  obtain ⟨literal, isLiteral⟩ : ∃ literal : Literal,
      literal = ⟨.none, whole, none, exponent, by simpa using nonempty⟩ := ⟨_, rfl⟩
  have literalChars : literal.chars = numeralChars decimal := by
    rw [numeralChars, ← chars, ← behind, isLiteral]
    rfl
  have unscaled : literal.unscaled = decimal := by
    simp [isLiteral, Literal.unscaled, Literal.fractionDigits, Literal.power, value, power]
  rw [← literalChars, decimalLiteral?_chars, unscaled, isLiteral]
  rfl

/-! ## Decimals with the value of a magnitude -/

/-- The decimal with the value of a magnitude: the integer that it is, or all the digits behind the
point that it needs. -/
def exactDecimal (scaled : Scaled) : Decimal :=
  if scaled.isIntegral then ⟨scaled.integerPart, 0⟩
  else ⟨scaled.mantissa * 5 ^ (-scaled.exponent).toNat, scaled.exponent⟩

theorem integerPart_of_isIntegral {scaled : Scaled} (integral : scaled.isIntegral = true) :
    (scaled.integerPart : ℚ) = scaled.value := by
  have divides : 2 ^ (-scaled.exponent).toNat ∣ scaled.mantissa * 2 ^ scaled.exponent.toNat := by
    refine Dvd.dvd.mul_right (Nat.dvd_of_mod_eq_zero ?_) _
    simpa [Scaled.isIntegral] using integral
  rw [Scaled.integerPart, Scaled.value, ← zpow_toNat_div 2 scaled.exponent, Nat.pow_eq, Nat.pow_eq,
    Nat.cast_div_charZero divides]
  push_cast
  rw [mul_div_assoc]

theorem exponent_neg_of_not_isIntegral {scaled : Scaled} (integral : ¬ scaled.isIntegral = true) :
    scaled.exponent < 0 := by
  by_contra nonnegative
  have noFraction : (-scaled.exponent).toNat = 0 := by omega
  exact integral (by simp [Scaled.isIntegral, noFraction, Nat.mod_one])

theorem exactDecimal_value (scaled : Scaled) :
    ((exactDecimal scaled).digits * 10 ^ (exactDecimal scaled).exponent : ℚ) = scaled.value := by
  unfold exactDecimal
  by_cases integral : scaled.isIntegral = true
  · rw [if_pos integral, zpow_zero, mul_one, integerPart_of_isIntegral integral]
  · have negative := exponent_neg_of_not_isIntegral integral
    have power : scaled.exponent = -((-scaled.exponent).toNat : Int) := by omega
    have tens : (10 : ℚ) ^ scaled.exponent =
        2 ^ scaled.exponent / 5 ^ (-scaled.exponent).toNat := by
      rw [show (10 : ℚ) = 2 * 5 by norm_num, mul_zpow, div_eq_mul_inv, ← zpow_natCast, ← zpow_neg,
        ← power]
    rw [if_neg integral, tens, Scaled.value]
    push_cast
    field_simp

/-- The exact decimal of a magnitude is read as this magnitude, since no other one is as near. -/
theorem nearestMagnitude_exactDecimal {magnitude : Nat} (finite : magnitude ≤ infinityMagnitude) :
    (exactDecimal (Scaled.ofMagnitude magnitude)).nearestMagnitude = magnitude := by
  have nearest := (exactDecimal (Scaled.ofMagnitude magnitude)).isNearestMagnitude
  rw [exactDecimal_value] at nearest
  exact nearest.unique (isNearestMagnitude_magnitudeValue finite)

/-! ## Numerals of doubles -/

/-- A numeral for each double without a sign; infinity is beyond all finite ones. -/
def exactNumeral (number : Float) : List Char :=
  numeralChars (if isFinite number then exactDecimal (Scaled.ofFloat number) else ⟨1, 999⟩)

theorem ofDecimalLiteral?_exactNumeral {number : Float} (positive : isNegative number = false)
    (isNumber : isNaN number = false) : ofDecimalLiteral? (exactNumeral number) = some number := by
  have restored := ofMagnitude_magnitudeOf number
  rw [positive] at restored
  simp only [ofDecimalLiteral?, exactNumeral, decimalLiteral?_numeralChars, Option.map_some,
    Decimal.toFloat]
  by_cases finite : isFinite number = true
  · have below := of_decide_eq_true finite
    rw [if_pos finite, Scaled.ofFloat, nearestMagnitude_exactDecimal below.le, restored]
  · have infinite : magnitudeOf number = infinityMagnitude := by
      have above : ¬ magnitudeOf number < infinityMagnitude := fun less =>
        finite (decide_eq_true less)
      have within : ¬ infinityMagnitude < magnitudeOf number := of_decide_eq_false isNumber
      omega
    rw [infinite] at restored
    rw [if_neg finite, show Decimal.nearestMagnitude ⟨1, 999⟩ = infinityMagnitude from rfl,
      restored]

/-! ## Numerals with a minus -/

/-- A minus in front of a literal without a sign negates its number. -/
theorem ofDecimalLiteral?_neg {first : Char} {rest : List Char} (digit : first.isDigit = true) :
    ofDecimalLiteral? ('-' :: first :: rest) = (ofDecimalLiteral? (first :: rest)).map (-·) := by
  have unsigned := @splitSign_of_isDigit first rest digit
  have signed : splitSign ('-' :: first :: rest) = (true, first :: rest) := rfl
  have sign : ∀ decimal : Decimal, decimal.toFloat true = -decimal.toFloat false :=
    fun decimal => (neg_ofMagnitude decimal.isNearestMagnitude.number).symm
  simp only [ofDecimalLiteral?, decimalLiteral?, unsigned, signed]
  split
  all_goals
    split
    · rfl
    · simp only [Option.map_map, Function.comp_def, sign]

end NoteBase.Number
