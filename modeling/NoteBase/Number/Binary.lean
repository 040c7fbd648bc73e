/-!
# Doubles as exact numbers

The magnitude of a finite double is a natural number times a power of two. This module reads the
two apart, rounds a quotient of naturals to the nearest double, and builds on these the operations
that the language needs and that are best said exactly: integral part, floor, ceiling, remainder,
conversion from and to integers, and the total order of all doubles.

A magnitude is kept as its bit pattern without the sign, so that the order of magnitudes is the
order of the patterns and a carry out of the mantissa moves into the exponent by itself.
-/

namespace NoteBase.Number

/-! ## Bit patterns -/

def infinityMagnitude : Nat := 2047 * Nat.pow 2 52

def magnitudeOf (number : Float) : Nat :=
  number.toBits.toNat % Nat.pow 2 63

/-- The sign bit, which negative zero has as well. -/
def isNegative (number : Float) : Bool :=
  Nat.pow 2 63 ≤ number.toBits.toNat

/-- The double with this sign and this magnitude pattern. -/
def ofMagnitude (negative : Bool) (magnitude : Nat) : Float :=
  Float.ofBits (UInt64.ofNat (if negative then Nat.pow 2 63 + magnitude else magnitude))

def notANumber : Float := Float.ofBits 0x7FF8000000000000

def infinity : Float := ofMagnitude false infinityMagnitude

def negativeInfinity : Float := ofMagnitude true infinityMagnitude

/-- The patterns beyond infinity stand for no number. -/
def isNaN (number : Float) : Bool :=
  infinityMagnitude < magnitudeOf number

def isFinite (number : Float) : Bool :=
  magnitudeOf number < infinityMagnitude

/-! ## Exact magnitudes -/

/-- The exact magnitude `mantissa * 2 ^ exponent`. -/
structure Scaled where
  mantissa : Nat
  exponent : Int
deriving DecidableEq

namespace Scaled

/-- Reads a finite magnitude pattern. Below the first binade the exponent stays at its minimum and
there is no implicit leading bit. -/
def ofMagnitude (magnitude : Nat) : Scaled :=
  let binade : Nat := magnitude / Nat.pow 2 52
  if binade = 0 then
    ⟨magnitude, -1074⟩
  else
    ⟨Nat.pow 2 52 + magnitude % Nat.pow 2 52, (binade : Int) - 1075⟩

def ofFloat (number : Float) : Scaled :=
  ofMagnitude (magnitudeOf number)

def integerPart (scaled : Scaled) : Nat :=
  scaled.mantissa * Nat.pow 2 scaled.exponent.toNat / Nat.pow 2 (-scaled.exponent).toNat

/-- No part of the magnitude is behind the binary point. -/
def isIntegral (scaled : Scaled) : Bool :=
  scaled.mantissa % Nat.pow 2 (-scaled.exponent).toNat == 0

end Scaled

/-! ## Rounding -/

/-- The quotient rounded to the nearest natural, a half to the even neighbour. -/
def roundHalfEven (numerator denominator : Nat) : Nat :=
  let quotient := numerator / denominator
  let rest := numerator % denominator
  if 2 * rest < denominator then quotient
  else if denominator < 2 * rest then quotient + 1
  else quotient + quotient % 2

/-- The ratio `numerator / (denominator * 2 ^ exponent)` as a pair of naturals. -/
def scaleDown (numerator denominator : Nat) (exponent : Int) : Nat × Nat :=
  (numerator * Nat.pow 2 (-exponent).toNat, denominator * Nat.pow 2 exponent.toNat)

/-- The power of two that leaves a quotient below `2 ^ 53`, and not below `2 ^ 52` unless the
exponent is already the least one a double has. -/
def unitExponent (numerator denominator : Nat) : Int :=
  let estimate := max ((numerator.log2 : Int) - denominator.log2 - 53) (-1074)
  let (top, bottom) := scaleDown numerator denominator estimate
  if Nat.pow 2 53 * bottom ≤ top then estimate + 1 else estimate

/-- The pattern of the magnitude nearest to a quotient, a half to the even neighbour, and infinity
beyond the largest finite one. The pattern is the exponent's offset times a binade's length plus
the mantissa with its leading bit, so that a mantissa rounded up to `2 ^ 53` is right as well. -/
def nearestMagnitude (numerator denominator : Nat) : Nat :=
  if numerator = 0 then 0
  else
    let exponent := unitExponent numerator denominator
    let (top, bottom) := scaleDown numerator denominator exponent
    min infinityMagnitude ((exponent + 1074).toNat * Nat.pow 2 52 + roundHalfEven top bottom)

/-- The double nearest to a signed magnitude `mantissa * 2 ^ exponent`. -/
def ofScaled (negative : Bool) (scaled : Scaled) : Float :=
  ofMagnitude negative <|
    nearestMagnitude (scaled.mantissa * Nat.pow 2 scaled.exponent.toNat)
      (Nat.pow 2 (-scaled.exponent).toNat)

def ofNat (value : Nat) : Float :=
  ofMagnitude false (nearestMagnitude value 1)

/-- The double nearest to an integer; zero is positive. -/
def ofInt (value : Int) : Float :=
  ofMagnitude (value < 0) (nearestMagnitude value.natAbs 1)

/-! ## Integral parts -/

def isIntegral (number : Float) : Bool :=
  isFinite number && (Scaled.ofFloat number).isIntegral

/-- The integral part of a finite double, taken toward zero. -/
def truncate (number : Float) : Int :=
  let part := (Scaled.ofFloat number).integerPart
  if isNegative number then -(part : Int) else part

/-- The integral part toward zero, held to the range of signed 64-bit words; `NaN` gives zero. -/
def toWord (number : Float) : Int :=
  if isNaN number then 0
  else max (-0x8000000000000000) (min 0x7FFFFFFFFFFFFFFF (truncate number))

/-- The largest integral double that is not above the number. -/
def floor (number : Float) : Float :=
  if isFinite number then
    let scaled := Scaled.ofFloat number
    let negative := isNegative number
    let carry := if negative && !scaled.isIntegral then 1 else 0
    ofMagnitude negative (nearestMagnitude (scaled.integerPart + carry) 1)
  else number

/-- The smallest integral double that is not below the number. -/
def ceiling (number : Float) : Float :=
  if isFinite number then
    let scaled := Scaled.ofFloat number
    let negative := isNegative number
    let carry := if !negative && !scaled.isIntegral then 1 else 0
    ofMagnitude negative (nearestMagnitude (scaled.integerPart + carry) 1)
  else number

/-! ## Remainder -/

/-- The remainder of a division that truncates toward zero. It has the sign of the dividend, is
exact, and is `NaN` for an infinite dividend or a zero divisor. -/
def remainder (dividend divisor : Float) : Float :=
  if !isFinite dividend || magnitudeOf divisor == 0 || isNaN divisor then
    notANumber
  else if !isFinite divisor then
    dividend
  else
    let top := Scaled.ofFloat dividend
    let bottom := Scaled.ofFloat divisor
    let exponent := min top.exponent bottom.exponent
    let rest :=
      top.mantissa * Nat.pow 2 (top.exponent - exponent).toNat %
        (bottom.mantissa * Nat.pow 2 (bottom.exponent - exponent).toNat)
    ofScaled (isNegative dividend) ⟨rest, exponent⟩

/-! ## Order -/

/-- The place of a double's bit pattern in the total order: negative values by falling magnitude,
negative zero just below zero, and `NaN` beyond the infinity of its sign. -/
def rankOfBits (bits : UInt64) : Int :=
  let magnitude : Int := (bits.toNat % Nat.pow 2 63 : Nat)
  if Nat.pow 2 63 ≤ bits.toNat then -magnitude - 1 else magnitude

/-- The total order of all doubles, by their bit patterns. -/
def compareBits : UInt64 → UInt64 → Ordering :=
  compareOn rankOfBits

/-- The arithmetic order, in which the two zeros are equal and `NaN` compares with nothing. -/
def compare? (left right : Float) : Option Ordering :=
  if left < right then some .lt
  else if left == right then some .eq
  else if right < left then some .gt
  else none

end NoteBase.Number
