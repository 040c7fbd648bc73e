import NoteBase.Proofs.Number.Nearest

/-!
# The order of doubles

The arithmetic order gives one answer to every comparison of two doubles, or none if a side is
`NaN`: each of the relational operators asks whether the answer is one that it accepts. Equality is
symmetric and transitive, and only `NaN` differs from itself. A negative double is the negation of
the positive one with the same magnitude. The total order of the bit patterns extends the arithmetic
order.
-/

namespace NoteBase.Number

open Float.Model (Format UnpackedFloat)
open Float.Model.UnpackedFloat (Sign packComponents unpackSign unpackExponent unpackMantissa)

/-! ## Comparing -/

theorem compareSign_swap (left right : Sign) : (compare left right).swap = compare right left := by
  cases left <;> cases right <;> rfl

theorem compareFinite_swap (leftExponent rightExponent : Int) (leftMantissa rightMantissa : Nat) :
    ((compare leftExponent rightExponent).then (compare leftMantissa rightMantissa)).swap =
      (compare rightExponent leftExponent).then (compare rightMantissa leftMantissa) := by
  rw [Ordering.swap_then, Int.compare_swap, Nat.compare_swap]

/-- Exchanging the sides reverses the answer. -/
theorem compareUnpacked_swap (left right : UnpackedFloat) :
    (left.compare right).map Ordering.swap = right.compare left := by
  cases left with
  | notANumber => cases right <;> rfl
  | infinity sign =>
      cases right with
      | infinity other => exact congrArg some (compareSign_swap sign other)
      | _ => cases sign <;> rfl
  | zero sign =>
      cases right with
      | infinity other => cases other <;> rfl
      | finite other _ _ _ => cases other <;> rfl
      | _ => rfl
  | finite sign mantissa exponent positive =>
      cases right with
      | infinity other => cases sign <;> cases other <;> rfl
      | notANumber => cases sign <;> rfl
      | zero _ => cases sign <;> rfl
      | finite other otherMantissa otherExponent otherPositive =>
          cases sign with
          | negative =>
              cases other with
              | negative =>
                  exact congrArg (fun ordering => some (Ordering.swap ordering))
                    (compareFinite_swap exponent otherExponent mantissa otherMantissa)
              | positive => rfl
          | positive =>
              cases other with
              | negative => rfl
              | positive =>
                  exact congrArg some
                    (compareFinite_swap exponent otherExponent mantissa otherMantissa)

section Comparing

variable (left right : Float)

theorem lt_iff : left < right ↔ left.toModel.unpack.compare right.toModel.unpack = some .lt :=
  (decide_eq_true_iff).trans beq_iff_eq

theorem le_iff :
    left ≤ right ↔ (left.toModel.unpack.compare right.toModel.unpack).any (·.isLE) = true :=
  decide_eq_true_iff

theorem beq_iff :
    (left == right) = true ↔ left.toModel.unpack.compare right.toModel.unpack = some .eq := by
  show (left.toModel.unpack.compare right.toModel.unpack == some .eq) = true ↔ _
  rw [beq_iff_eq]

/-- The arithmetic order is the comparison that the relational operators are read off from. -/
theorem compare?_eq : compare? left right = left.toModel.unpack.compare right.toModel.unpack := by
  have mirrored := compareUnpacked_swap left.toModel.unpack right.toModel.unpack
  simp only [compare?, lt_iff, beq_iff, ← mirrored]
  cases left.toModel.unpack.compare right.toModel.unpack with
  | none => rfl
  | some ordering => cases ordering <;> rfl

theorem compare?_swap : (compare? left right).map Ordering.swap = compare? right left := by
  rw [compare?_eq, compare?_eq, compareUnpacked_swap]

theorem decide_lt : decide (left < right) = (compare? left right).any (·.isLT) := by
  rw [Bool.eq_iff_iff, decide_eq_true_iff, lt_iff, compare?_eq]
  cases left.toModel.unpack.compare right.toModel.unpack with
  | none => simp
  | some ordering => cases ordering <;> simp

theorem decide_le : decide (left ≤ right) = (compare? left right).any (·.isLE) := by
  rw [Bool.eq_iff_iff, decide_eq_true_iff, le_iff, compare?_eq]

theorem any_isGT_compare? :
    (compare? left right).any (·.isGT) = (compare? right left).any (·.isLT) := by
  rw [← compare?_swap right left, Option.any_map]
  cases compare? right left with
  | none => rfl
  | some ordering => cases ordering <;> rfl

theorem any_isGE_compare? :
    (compare? left right).any (·.isGE) = (compare? right left).any (·.isLE) := by
  rw [← compare?_swap right left, Option.any_map]
  cases compare? right left with
  | none => rfl
  | some ordering => cases ordering <;> rfl

theorem compare?_eq_some_eq_iff : compare? left right = some .eq ↔ (left == right) = true := by
  rw [compare?_eq, beq_iff]

end Comparing

/-! ## Signs and magnitudes -/

def signOf (negative : Bool) : Sign :=
  if negative then .negative else .positive

/-- What a double with this sign and this magnitude is unpacked to. -/
inductive IsUnpacked (sign : Sign) (magnitude : Nat) : UnpackedFloat → Prop
  | zero (zero : magnitude = 0) : IsUnpacked sign magnitude (.zero sign)
  | finite {mantissa : Nat} {exponent : Int} {positive : 0 < mantissa}
      (scaled : Scaled.ofMagnitude magnitude = ⟨mantissa, exponent⟩) (nonzero : 0 < magnitude)
      (finite : magnitude < infinityMagnitude) :
      IsUnpacked sign magnitude (.finite sign mantissa exponent positive)
  | infinity (infinite : magnitude = infinityMagnitude) :
      IsUnpacked sign magnitude (.infinity sign)
  | notANumber (beyond : infinityMagnitude < magnitude) :
      IsUnpacked sign magnitude .notANumber

theorem ofBitVec_unpackSign (number : Float) :
    Sign.ofBitVec (@unpackSign Format.binary64 number.toBits.toBitVec) =
      signOf (isNegative number) := by
  have bit : (@unpackSign Format.binary64 number.toBits.toBitVec).toNat =
      number.toBits.toNat / 2 ^ 63 % 2 := toNat_unpackSign _
  have bound := number.toBits.toNat_lt
  have same : @unpackSign Format.binary64 number.toBits.toBitVec = 0#1 ↔
      isNegative number = false := by
    rw [← BitVec.toNat_inj, bit, isNegative, decide_eq_false_iff_not, Nat.pow_eq]
    simp
    omega
  unfold Sign.ofBitVec signOf
  cases negative : isNegative number with
  | false =>
      rw [if_pos (same.mpr negative)]
      rfl
  | true =>
      rw [if_neg fun zero => by simp [same.mp zero] at negative]
      rfl

theorem isUnpacked (number : Float) :
    IsUnpacked (signOf (isNegative number)) (magnitudeOf number) number.toModel.unpack := by
  have exponent : (@unpackExponent Format.binary64 number.toBits.toBitVec).toNat =
      magnitudeOf number / 2 ^ 52 := by
    refine (toNat_unpackExponent _).trans ?_
    rw [UInt64.toNat_toBitVec, magnitudeOf, Nat.pow_eq]
    omega
  have mantissa : (@unpackMantissa Format.binary64 number.toBits.toBitVec).toNat =
      magnitudeOf number % 2 ^ 52 := by
    refine (toNat_unpackMantissa _).trans ?_
    rw [UInt64.toNat_toBitVec, magnitudeOf, Nat.pow_eq]
    omega
  have sign := ofBitVec_unpackSign number
  have below : magnitudeOf number < 2 ^ 63 := Nat.mod_lt _ (by decide)
  show IsUnpacked _ _ (UnpackedFloat.unpack Format.binary64 number.toBits.toBitVec)
  generalize number.toBits.toBitVec = bits at *
  generalize magnitudeOf number = magnitude at *
  simp only [UnpackedFloat.unpack, ← BitVec.toNat_inj, sign]
  split
  · next top =>
    have full : magnitude / 2 ^ 52 = 2047 := exponent ▸ top
    split
    · next empty =>
      have none : magnitude % 2 ^ 52 = 0 := mantissa ▸ empty
      exact .infinity (by rw [infinityMagnitude, Nat.pow_eq]; omega)
    · next payload =>
      have some : magnitude % 2 ^ 52 ≠ 0 := mantissa ▸ payload
      exact .notANumber (by rw [infinityMagnitude, Nat.pow_eq]; omega)
  · next notTop =>
    have notFull : magnitude / 2 ^ 52 ≠ 2047 := exponent ▸ notTop
    have finite : magnitude < infinityMagnitude := by
      rw [infinityMagnitude, Nat.pow_eq]
      omega
    split
    · next bottom =>
      have low : magnitude / 2 ^ 52 = 0 := exponent ▸ bottom
      split
      · next empty =>
        have none : magnitude % 2 ^ 52 = 0 := mantissa ▸ empty
        exact .zero (by omega)
      · next payload =>
        have some : magnitude % 2 ^ 52 ≠ 0 := mantissa ▸ payload
        refine .finite ?_ (by omega) finite
        rw [Scaled.ofMagnitude_of_lt (by omega), Scaled.mk.injEq, mantissa, exponent, low]
        exact ⟨(Nat.mod_eq_of_lt (by omega)).symm, rfl⟩
    · next notBottom =>
      have high : magnitude / 2 ^ 52 ≠ 0 := exponent ▸ notBottom
      have leading : (1#1 ++ @unpackMantissa Format.binary64 bits).toNat =
          2 ^ 52 + magnitude % 2 ^ 52 := by
        rw [BitVec.toNat_append, ← mantissa]
        exact (Nat.shiftLeft_add_eq_or_of_lt (BitVec.isLt _) 1).symm
      refine .finite ?_ (by omega) finite
      rw [Scaled.ofMagnitude_of_le (by omega), Scaled.mk.injEq, exponent]
      exact ⟨leading.symm, rfl⟩

/-- Only `NaN` is not equal to itself. -/
theorem beq_self (number : Float) : (number == number) = !isNaN number := by
  rw [Bool.eq_iff_iff, beq_iff, Bool.not_eq_true', isNaN, decide_eq_false_iff_not]
  have signSelf : ∀ sign : Sign, compare sign sign = .eq := by decide
  have parts := isUnpacked number
  generalize number.toModel.unpack = unpacked at parts ⊢
  cases parts with
  | zero zero => simp [UnpackedFloat.compare, zero]
  | finite _ _ finite =>
      cases signOf (isNegative number) <;> simp [UnpackedFloat.compare] <;> omega
  | infinity infinite => simp [UnpackedFloat.compare, infinite, signSelf]
  | notANumber beyond => simp [UnpackedFloat.compare, beyond]

/-! ## Negating -/

theorem neg_unpack (sign : Sign) (exponent : BitVec Format.binary64.exponentBits)
    (mantissa : BitVec Format.binary64.mantissaBitsWithoutImplicit) :
    (UnpackedFloat.unpack Format.binary64
      (packComponents Format.binary64 sign exponent mantissa)).neg =
    UnpackedFloat.unpack Format.binary64
      (packComponents Format.binary64 (-sign) exponent mantissa) := by
  simp only [UnpackedFloat.unpack, UnpackedFloat.unpackSign_packComponents,
    Sign.ofBitVec_toBitVec, UnpackedFloat.unpackExponent_packComponents,
    UnpackedFloat.unpackMantissa_packComponents]
  split
  · split <;> rfl
  · split
    · split <;> rfl
    · rfl

/-- The sign, the exponent and the mantissa in the bits of a double. -/
theorem toBitVec_eq_packComponents (negative : Bool) {magnitude : Nat}
    (number : magnitude ≤ infinityMagnitude) :
    (ofMagnitude negative magnitude).toBits.toBitVec =
      packComponents Format.binary64 (if negative then .negative else .positive)
        (BitVec.ofNat 11 (magnitude / 2 ^ 52)) (BitVec.ofNat 52 magnitude) := by
  have pattern := toNat_toBits_ofMagnitude negative number
  simp only [infinityMagnitude, Nat.pow_eq] at number
  generalize bitsEq : (ofMagnitude negative magnitude).toBits.toBitVec = bits
  have value : bits.toNat = if negative then 2 ^ 63 + magnitude else magnitude := by
    rw [← bitsEq]
    exact pattern
  have signBit : @unpackSign Format.binary64 bits = if negative then 1#1 else 0#1 := by
    apply BitVec.eq_of_toNat_eq
    rw [toNat_unpackSign, value]
    cases negative <;> simp <;> omega
  have exponent : @unpackExponent Format.binary64 bits = BitVec.ofNat 11 (magnitude / 2 ^ 52) := by
    refine BitVec.eq_of_toNat_eq ((toNat_unpackExponent bits).trans ?_)
    show bits.toNat / 2 ^ 52 % 2 ^ 11 = magnitude / 2 ^ 52 % 2 ^ 11
    rw [value]
    split <;> omega
  have mantissa : @unpackMantissa Format.binary64 bits = BitVec.ofNat 52 magnitude := by
    refine BitVec.eq_of_toNat_eq ((toNat_unpackMantissa bits).trans ?_)
    show bits.toNat % 2 ^ 52 = magnitude % 2 ^ 52
    rw [value]
    split <;> omega
  rw [← @UnpackedFloat.packComponents_unpackSign_unpackExponent_unpackMantissa Format.binary64 bits,
    signBit, exponent, mantissa]
  cases negative <;> rfl

theorem neg_ofMagnitude {magnitude : Nat} (number : magnitude ≤ infinityMagnitude) :
    -ofMagnitude false magnitude = ofMagnitude true magnitude := by
  have positive := toBitVec_eq_packComponents false number
  have negative := toBitVec_eq_packComponents true number
  rw [← Float.ofBits_toBits (ofMagnitude true magnitude)]
  show Float.ofModel (.pack (UnpackedFloat.unpack Format.binary64
      (ofMagnitude false magnitude).toBits.toBitVec).neg) =
    Float.ofModel (.pack (UnpackedFloat.unpack Format.binary64
      (ofMagnitude true magnitude).toBits.toBitVec))
  rw [positive, negative, neg_unpack]
  rfl

/-! ## The total order -/

/-- Of two magnitudes the one with the lesser exponent, or with the same exponent and the lesser
mantissa, has the lesser pattern. -/
theorem Scaled.lt_of_compare {left right leftMantissa rightMantissa : Nat}
    {leftExponent rightExponent : Int}
    (leftScaled : Scaled.ofMagnitude left = ⟨leftMantissa, leftExponent⟩)
    (rightScaled : Scaled.ofMagnitude right = ⟨rightMantissa, rightExponent⟩)
    (less : (compare leftExponent rightExponent).then
      (compare leftMantissa rightMantissa) = .lt) : left < right := by
  have parts : ∀ {magnitude mantissa : Nat} {exponent : Int},
      Scaled.ofMagnitude magnitude = ⟨mantissa, exponent⟩ →
        (magnitude < 2 ^ 52 ∧ mantissa = magnitude ∧ exponent = -1074) ∨
          (2 ^ 52 ≤ magnitude ∧ mantissa = 2 ^ 52 + magnitude % 2 ^ 52 ∧
            exponent = ((magnitude / 2 ^ 52 : Nat) : Int) - 1075) := by
    intro magnitude mantissa exponent scaled
    rcases Nat.lt_or_ge magnitude (2 ^ 52) with low | high
    · rw [Scaled.ofMagnitude_of_lt low, Scaled.mk.injEq] at scaled
      exact .inl ⟨low, scaled.1.symm, scaled.2.symm⟩
    · rw [Scaled.ofMagnitude_of_le high, Scaled.mk.injEq] at scaled
      exact .inr ⟨high, scaled.1.symm, scaled.2.symm⟩
  rw [Ordering.then_eq_lt, Int.compare_eq_lt, Int.compare_eq_eq, Nat.compare_eq_lt] at less
  have leftParts := parts leftScaled
  have rightParts := parts rightScaled
  omega

/-- Among the positive doubles the magnitudes increase, and among the negative ones they
decrease. -/
theorem IsUnpacked.rank_lt {leftNegative rightNegative : Bool} {left right : Nat}
    {leftUnpacked rightUnpacked : UnpackedFloat}
    (leftParts : IsUnpacked (signOf leftNegative) left leftUnpacked)
    (rightParts : IsUnpacked (signOf rightNegative) right rightUnpacked)
    (less : leftUnpacked.compare rightUnpacked = some .lt) :
    (if leftNegative then -(left : Int) - 1 else left) <
      if rightNegative then -(right : Int) - 1 else right := by
  have zeroLess : 0 < infinityMagnitude := by decide
  cases leftNegative <;> cases rightNegative <;> cases leftParts <;> cases rightParts <;>
    simp [signOf, UnpackedFloat.compare] at less ⊢ <;> try omega
  case false.false.finite.finite leftScaled _ _ _ _ _ rightScaled _ _ =>
    exact Scaled.lt_of_compare leftScaled rightScaled less
  case true.true.finite.finite leftScaled _ _ _ _ _ rightScaled _ _ =>
    rw [← Ordering.swap_eq_lt, Ordering.swap_then, Int.compare_swap, Nat.compare_swap] at less
    exact Scaled.lt_of_compare rightScaled leftScaled less

/-- The total order extends the arithmetic one. -/
theorem compareBits_of_lt {left right : Float} (less : left < right) :
    compareBits left.toBits right.toBits = .lt := by
  have ranks := (isUnpacked left).rank_lt (isUnpacked right) ((lt_iff left right).mp less)
  simp only [isNegative, magnitudeOf, decide_eq_true_iff] at ranks
  exact Int.compare_eq_lt.mpr ranks

end NoteBase.Number
