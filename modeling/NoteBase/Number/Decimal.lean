import NoteBase.Number.Binary

/-!
# Doubles and decimals

A decimal is a natural number of digits times a power of ten. In one direction a decimal is read
as the double nearest to it; in the other the shortest decimal is chosen among those that read back
as a given double, and of several that are equally short the one nearest to the double.
-/

namespace NoteBase.Number

structure Decimal where
  digits : Nat
  exponent : Int
deriving DecidableEq

namespace Decimal

/-! ## Reading -/

/-- The magnitude pattern nearest to a decimal. Powers of ten far outside the range of doubles are
not computed: they give infinity or zero. -/
def nearestMagnitude (decimal : Decimal) : Nat :=
  if decimal.digits = 0 then 0
  else if 400 < decimal.exponent then infinityMagnitude
  else if decimal.exponent < -(400 + (decimal.digits.log2 : Int)) then 0
  else
    Number.nearestMagnitude
      (decimal.digits * Nat.pow 10 decimal.exponent.toNat) (Nat.pow 10 (-decimal.exponent).toNat)

def toFloat (negative : Bool) (decimal : Decimal) : Float :=
  ofMagnitude negative decimal.nearestMagnitude

/-! ## The decimals that read back as a double -/

/-- Compares `digits * 10 ^ power` with `mantissa * 2 ^ exponent`. -/
def compareScaled (decimal : Decimal) (scaled : Scaled) : Ordering :=
  compare
    (decimal.digits * Nat.pow 10 decimal.exponent.toNat * Nat.pow 2 (-scaled.exponent).toNat)
    (scaled.mantissa * Nat.pow 2 scaled.exponent.toNat * Nat.pow 10 (-decimal.exponent).toNat)

/-- The neighbour below is only half as far away as the one above: this holds at a power of two,
except where the exponent is already the least one. -/
def isBinadeStart (scaled : Scaled) : Bool :=
  scaled.mantissa == Nat.pow 2 52 && -1074 < scaled.exponent

/-- A decimal reads back as a double if it lies between the midpoints to the two neighbours; the
midpoints themselves belong to the double with the even mantissa. -/
def readsBack (scaled : Scaled) (decimal : Decimal) : Bool :=
  let quarter := scaled.exponent - 2
  let lower := 4 * scaled.mantissa - (if isBinadeStart scaled then 1 else 2)
  let upper := 4 * scaled.mantissa + 2
  let closed := scaled.mantissa % 2 == 0
  let fromLower := decimal.compareScaled ⟨lower, quarter⟩
  let toUpper := decimal.compareScaled ⟨upper, quarter⟩
  (fromLower == .gt || closed && fromLower == .eq) &&
    (toUpper == .lt || closed && toUpper == .eq)

/-! ## The shortest one -/

inductive Tie where
  | up
  | toEven
deriving DecidableEq

def gridFloor (scaled : Scaled) (power : Int) : Nat :=
  scaled.mantissa * Nat.pow 2 scaled.exponent.toNat * Nat.pow 10 (-power).toNat /
    (Nat.pow 2 (-scaled.exponent).toNat * Nat.pow 10 power.toNat)

/-- Whether the value is above the middle between a point of the grid of `10 ^ power` and the next
one, below it, or exactly there. -/
def compareMiddle (scaled : Scaled) (point : Nat) (power : Int) : Ordering :=
  (compareScaled ⟨2 * point + 1, power⟩ ⟨2 * scaled.mantissa, scaled.exponent⟩).swap

/-- The multiple of `10 ^ power` that reads back as the value, if there is one: of the two
neighbours of the value on this grid the one that reads back, and the nearer one if both do. -/
def onGrid? (tie : Tie) (scaled : Scaled) (power : Int) : Option Decimal :=
  let below : Decimal := ⟨gridFloor scaled power, power⟩
  let above : Decimal := ⟨below.digits + 1, power⟩
  match readsBack scaled below, readsBack scaled above with
  | false, false => none
  | true, false => some below
  | false, true => some above
  | true, true =>
    match compareMiddle scaled below.digits power with
    | .lt => some below
    | .gt => some above
    | .eq =>
      match tie with
      | .up => some above
      | .toEven => if below.digits % 2 = 0 then some below else some above

/-- Tries ever finer grids. The last one holds every multiple of the value's power of two, so that
the value itself is a point of it. -/
def search (tie : Tie) (scaled : Scaled) : Nat → Int → Decimal
  | 0, power => ⟨gridFloor scaled power, power⟩
  | steps + 1, power =>
    match onGrid? tie scaled power with
    | some decimal => decimal
    | none => search tie scaled steps (power - 1)

/-- Moves trailing zeros of the digits into the exponent. -/
def stripZeros (decimal : Decimal) : Decimal :=
  go (decimal.digits.log2 + 1) decimal
where
  go : Nat → Decimal → Decimal
    | 0, rest => rest
    | fuel + 1, rest =>
      if rest.digits ≠ 0 ∧ rest.digits % 10 = 0 then
        go fuel ⟨rest.digits / 10, rest.exponent + 1⟩
      else rest

/-- A power of ten above the value, and at most a hundred times above it. -/
def startPower (scaled : Scaled) : Int :=
  (((scaled.mantissa.log2 : Int) + scaled.exponent) * 30103).fdiv 100000 + 1

/-- The shortest decimal that reads back as a positive finite magnitude. -/
def shortest (tie : Tie) (scaled : Scaled) : Decimal :=
  let start := startPower scaled
  let last := min scaled.exponent 0
  (search tie scaled (start - last).toNat start).stripZeros

end Decimal

end NoteBase.Number
