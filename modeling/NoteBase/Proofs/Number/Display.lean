import NoteBase.Content.Hint
import NoteBase.Proofs.Number.Language
import NoteBase.Proofs.Number.Numeral
import NoteBase.Proofs.Number.Shortest

/-!
# Numbers that are written are read again

The text of a finite number is a decimal literal, and no magnitude is nearer to the value of this
literal than that of the number: a whole number is written with all its digits, and any other one as
its shortest decimal. So the text is read as the number, but for the sign of zero.
-/

namespace NoteBase.Number

/-! ## Literals with a value -/

/-- Characters that are a decimal literal without a sign, with this value. -/
def Spells (chars : List Char) (value : ℚ) : Prop :=
  ∃ literal : Literal, literal.unsignedChars = chars ∧ literal.value = value

theorem spells_of_unscaled {chars : List Char} {decimal : Decimal} (literal : Literal)
    (written : literal.unsignedChars = chars) (unscaled : literal.unscaled = decimal) :
    Spells chars decimal.value :=
  ⟨literal, written, by rw [literal.value_eq, unscaled]; rfl⟩

/-- Only digits, with zeros behind them. -/
theorem spells_zerosBehind (value count : Nat) :
    Spells (digitChars value ++ List.replicate count '0') (value * 10 ^ count) := by
  obtain ⟨digits, chars, rfl, nonempty⟩ := exists_digits_digitChars value
  have shifted : placeValue (digits ++ List.replicate count 0) =
      placeValue digits * 10 ^ count := by
    rw [placeValue_append, placeValue_zeros, List.length_replicate, Nat.add_zero]
  refine ⟨⟨.none, digits ++ List.replicate count 0, none, none, by simp [nonempty]⟩, ?_, ?_⟩
  · rw [← chars, ← decimalChars_zeros, ← decimalChars_append]
    exact List.append_nil _
  · rw [Literal.value_eq]
    simp [Literal.unscaled, Literal.fractionDigits, Literal.power, shifted]

/-- Digits on both sides of a point. -/
theorem spells_point {whole fraction : List (Fin 10)} {decimal : Decimal} (nonempty : whole ≠ [])
    (digits : placeValue (whole ++ fraction) = decimal.digits)
    (exponent : -(fraction.length : Int) = decimal.exponent) :
    Spells (decimalChars whole ++ '.' :: decimalChars fraction) decimal.value := by
  refine spells_of_unscaled ⟨.none, whole, some fraction, none, by simp [nonempty]⟩ ?_ ?_
  · simp [Literal.unsignedChars, Literal.fractionChars, Literal.exponentChars]
  · simp [Literal.unscaled, Literal.fractionDigits, Literal.power, digits, exponent]

theorem spells_positional (decimal : Decimal) : Spells (positional decimal) decimal.value := by
  obtain ⟨digits, chars, placed, nonempty⟩ := exists_digits_digitChars decimal.digits
  have length : (digitChars decimal.digits).length = digits.length := by
    rw [← chars, length_decimalChars]
  have some : 0 < digits.length := List.length_pos_of_ne_nil nonempty
  unfold positional
  simp only [length]
  -- The point is behind the digits and the zeros that fill them up, among them, or in front of
  -- them.
  split
  next whole =>
    have spelled := spells_zerosBehind decimal.digits decimal.exponent.toNat
    rwa [← zpow_natCast, Int.toNat_of_nonneg whole] at spelled
  next broken =>
    split
    next inside =>
      generalize pointEq : (digits.length + decimal.exponent : Int).toNat = point
      have split := @spells_point (digits.take point) (digits.drop point) decimal
        (fun none => (List.take_eq_nil_iff.mp none).elim (by omega) nonempty)
        (by rw [List.take_append_drop, placed])
        (by rw [List.length_drop]; omega)
      rwa [decimalChars, decimalChars, List.map_take, List.map_drop, ← decimalChars, chars] at split
    next outside =>
      generalize countEq : (-(digits.length + decimal.exponent : Int)).toNat = count
      have small := @spells_point [0] (List.replicate count 0 ++ digits) decimal
        (List.cons_ne_nil _ _) ?_ ?_
      · rwa [decimalChars_append, decimalChars_zeros, chars] at small
      · show placeValue (List.replicate (count + 1) 0 ++ digits) = decimal.digits
        rw [placeValue_append, placeValue_zeros, Nat.zero_mul, Nat.zero_add, placed]
      · rw [List.length_append, List.length_replicate]
        omega

theorem spells_scientific (plusSign : Bool) (decimal : Decimal) :
    Spells (scientific plusSign decimal) decimal.value := by
  obtain ⟨digits, chars, placed, nonempty⟩ := exists_digits_digitChars decimal.digits
  obtain ⟨leading, rest, rfl⟩ := List.exists_cons_of_ne_nil nonempty
  have length : (digitChars decimal.digits).length = rest.length + 1 := by
    rw [← chars, length_decimalChars, List.length_cons]
  obtain ⟨exponent, marked, power⟩ := exists_signedExponent plusSign (leadingPower decimal)
  have moved : leadingPower decimal - rest.length = decimal.exponent := by
    rw [leadingPower, length]
    omega
  unfold scientific
  rw [← chars]
  simp only [← marked]
  cases rest with
  | nil =>
      refine spells_of_unscaled ⟨.none, [leading], none, some exponent, by simp⟩ rfl ?_
      show Decimal.mk (placeValue [leading]) (exponent.value - ([] : List (Fin 10)).length) = _
      rw [placed, power, moved]
  | cons second rest =>
      refine spells_of_unscaled ⟨.none, [leading], some (second :: rest), some exponent, by simp⟩
        rfl ?_
      show Decimal.mk (placeValue (leading :: second :: rest))
        (exponent.value - (second :: rest).length) = _
      rw [placed, power, moved]

/-! ## Texts of numbers -/

theorem isBlank_of_isLiteralChar {char : Char} (spelling : isLiteralChar char = true) :
    Text.isBlank char = false := by
  rcases Bool.or_eq_true_iff.mp spelling with digit | mark
  · exact Text.isBlank_of_isDigit digit
  · have member := List.contains_iff_mem.mp mark
    simp only [List.mem_cons, List.not_mem_nil, or_false] at member
    rcases member with rfl | rfl | rfl | rfl | rfl <;> rfl

/-- A literal is read as the double with its sign and the magnitude that is nearest to its value. -/
theorem ofText_of_spells {chars : List Char} {value : ℚ} {magnitude : Nat}
    (spells : Spells chars value) (nearest : IsNearestMagnitude value magnitude) (negative : Bool) :
    ofText (String.ofList (if negative then '-' :: chars else chars)) =
      ofMagnitude negative magnitude := by
  obtain ⟨literal, rfl, rfl⟩ := spells
  have read : literal.unscaled.nearestMagnitude = magnitude := by
    have same := literal.unscaled.isNearestMagnitude
    rw [← literal.value_eq] at same
    exact same.unique nearest
  have signed : ∀ sign : SignMark,
      ofText (String.ofList (sign.chars ++ literal.unsignedChars)) =
        ofMagnitude sign.isMinus magnitude := by
    intro sign
    obtain ⟨withSign, isSigned⟩ : ∃ withSign, withSign = { literal with sign } := ⟨_, rfl⟩
    have charsEq : withSign.chars = sign.chars ++ literal.unsignedChars := by
      rw [isSigned]
      rfl
    have shown : ∀ char ∈ withSign.chars, Text.isBlank char = false := fun char member =>
      isBlank_of_isLiteralChar (withSign.isLiteralChar_of_mem_chars char member)
    rw [ofText, String.toList_ofList, ← charsEq, Text.trimChars_of_noBlank shown,
      ofTrimmed_literal, isSigned, ← read]
    rfl
  cases negative with
  | true => exact signed .minus
  | false => exact signed .none

theorem spells_magnitudeChars {scaled : Scaled} (nonzero : scaled.mantissa ≠ 0) :
    Spells (displayLayout.magnitudeChars scaled) (Decimal.shortest .up scaled).value := by
  rw [Layout.magnitudeChars, if_neg nonzero]
  simp only [displayLayout, Bool.true_and, Bool.false_and, Bool.false_eq_true, if_false,
    List.append_nil]
  split
  · exact spells_positional _
  · exact spells_scientific true _

/-- The text of a number that is not zero is a literal behind its sign, and the number has the
magnitude that is nearest to the value of this literal. -/
theorem exists_spells {number : Float} (finite : isFinite number = true)
    (nonzero : magnitudeOf number ≠ 0) :
    ∃ chars value, displayChars number = (if isNegative number then '-' :: chars else chars) ∧
      Spells chars value ∧ IsNearestMagnitude value (magnitudeOf number) := by
  have below : magnitudeOf number < infinityMagnitude := of_decide_eq_true finite
  have isNumber : isNaN number = false := decide_eq_false (Nat.not_lt.mpr below.le)
  have mantissa : (Scaled.ofFloat number).mantissa ≠ 0 :=
    (Scaled.mantissa_ofMagnitude_eq_zero_iff _).not.mpr nonzero
  have shown : displayChars number =
      if (Scaled.ofFloat number).isIntegral &&
          (Scaled.ofFloat number).integerPart < Nat.pow 10 21 then
        if isNegative number then '-' :: digitChars (Scaled.ofFloat number).integerPart
        else digitChars (Scaled.ofFloat number).integerPart
      else displayLayout.chars number := by
    rw [displayChars, isNumber, finite]
    simp [mantissa]
  rw [shown]
  split
  next whole =>
    have integral := (Bool.and_eq_true_iff.mp whole).1
    have spelled := spells_zerosBehind (Scaled.ofFloat number).integerPart 0
    rw [List.replicate_zero, List.append_nil, pow_zero, mul_one,
      integerPart_of_isIntegral integral] at spelled
    exact ⟨_, _, rfl, spelled, isNearestMagnitude_magnitudeValue below.le⟩
  next =>
    exact ⟨_, _, rfl, spells_magnitudeChars mantissa,
      Decimal.isNearestMagnitude_shortest (Nat.pos_of_ne_zero nonzero) below .up⟩

/-! ## Every number is read again -/

section Number

variable {number : Float}

theorem ofText_display_finite (finite : isFinite number = true)
    (nonzero : magnitudeOf number ≠ 0) : ofText (display number) = number := by
  obtain ⟨chars, value, shown, spells, nearest⟩ := exists_spells finite nonzero
  rw [display, shown, ofText_of_spells spells nearest, ofMagnitude_magnitudeOf]

theorem ofText_display_zero (zero : magnitudeOf number = 0) :
    ofText (display number) = ofNat 0 := by
  have isNumber : isNaN number = false := by
    rw [isNaN, zero]
    rfl
  have finite : isFinite number = true := by
    rw [isFinite, zero]
    rfl
  have mantissa : (Scaled.ofFloat number).mantissa = 0 :=
    (Scaled.mantissa_ofMagnitude_eq_zero_iff _).mpr zero
  have shown : displayChars number = ['0'] := by
    rw [displayChars, isNumber, finite]
    simp [mantissa]
  rw [display, shown]
  rfl

theorem ofText_display_infinite (isNumber : isNaN number = false)
    (infinite : isFinite number = false) : ofText (display number) = number := by
  have magnitude : magnitudeOf number = infinityMagnitude :=
    Nat.le_antisymm (Nat.le_of_not_lt (of_decide_eq_false isNumber))
      (Nat.le_of_not_lt (of_decide_eq_false infinite))
  have restored := ofMagnitude_magnitudeOf number
  rw [magnitude] at restored
  have shown : displayChars number =
      if isNegative number then "-Infinity".toList else "Infinity".toList := by
    rw [displayChars, isNumber, infinite]
    rfl
  rw [display, shown]
  conv_rhs => rw [← restored]
  cases isNegative number with
  | true => rfl
  | false => rfl

theorem ofText_display_eq (isNumber : isNaN number = false) :
    ofText (display number) = plainZero number := by
  unfold plainZero
  split
  next zero => exact ofText_display_zero zero
  next nonzero =>
    cases finite : isFinite number with
    | true => exact ofText_display_finite finite nonzero
    | false => exact ofText_display_infinite isNumber finite

/-- The two zeros are equal. -/
theorem plainZero_beq (isNumber : isNaN number = false) : (plainZero number == number) = true := by
  unfold plainZero
  split
  next zero =>
    have restored := ofMagnitude_magnitudeOf number
    rw [zero] at restored
    rw [← restored]
    cases isNegative number with
    | true => rfl
    | false => rfl
  next => rw [beq_self, isNumber, Bool.not_false]

theorem isNaN_ofText_display (undefined : isNaN number = true) :
    isNaN (ofText (display number)) = true := by
  rw [display, displayChars, if_pos undefined]
  rfl

theorem isNaN_plainZero (isNumber : isNaN number = false) : isNaN (plainZero number) = false := by
  unfold plainZero
  split
  · rfl
  · exact isNumber

end Number

/-! ## Through a text and back -/

/-- A hint for texts makes a number its text, and a hint for numbers makes the text the number. -/
theorem convert_number_convert_text {number : Float} (isNumber : isNaN number = false)
    {asText asNumber : PropertyHints} {property : String}
    (textHint : asText.get? property = some .text)
    (numberHint : asNumber.get? property = some .number) :
    asNumber.convert property (asText.convert property (.number number)) =
      .number (plainZero number) := by
  have written : asText.convert property (.number number) = .text (display number) := by
    rw [PropertyHints.convert, textHint]
    rfl
  have read : (Value.text (display number)).toNumber = plainZero number :=
    ofText_display_eq isNumber
  have present : (Value.text (display number)).isNull = false := rfl
  rw [written, PropertyHints.convert, present, if_neg Bool.false_ne_true, numberHint,
    PropertyHint.convert, read, isNaN_plainZero isNumber, if_neg Bool.false_ne_true]

/-- The text of a number is read as this number, with the positive zero for both zeros, and that of
no number as no number. So a number is restored if a hint makes it a text and another one makes it a
number again. -/
theorem ofText_display (number : Float) :
    (isNaN number = true → isNaN (ofText (display number)) = true) ∧
    (isNaN number = false →
      ofText (display number) = plainZero number ∧ (ofText (display number) == number) = true ∧
      ∀ (asText asNumber : PropertyHints) (property : String),
        asText.get? property = some .text → asNumber.get? property = some .number →
        asNumber.convert property (asText.convert property (.number number)) =
          .number (plainZero number)) := by
  refine ⟨isNaN_ofText_display, fun isNumber => ⟨ofText_display_eq isNumber, ?_, ?_⟩⟩
  · rw [ofText_display_eq isNumber]
    exact plainZero_beq isNumber
  · exact fun _ _ _ => convert_number_convert_text isNumber

/-- The least positive double, negative zero, an infinity and what is no number. -/
theorem ofText_display_extremes :
    ofText (display (ofMagnitude false 1)) = ofMagnitude false 1 ∧
    ofText (display (ofMagnitude true 0)) = ofNat 0 ∧
    ofText (display negativeInfinity) = negativeInfinity ∧
    isNaN (ofText (display notANumber)) = true ∧
    PropertyHints.convert (OrderedMap.empty.insert "size" .number) "size"
      (PropertyHints.convert (OrderedMap.empty.insert "size" .text) "size"
        (.number (ofMagnitude false 1))) = .number (ofMagnitude false 1) := by
  have least := (ofText_display (ofMagnitude false 1)).2 (by rfl)
  refine ⟨least.1, ((ofText_display (ofMagnitude true 0)).2 rfl).1,
    ((ofText_display negativeInfinity).2 rfl).1, (ofText_display notANumber).1 rfl,
    least.2.2 _ _ _ rfl rfl⟩

end NoteBase.Number
