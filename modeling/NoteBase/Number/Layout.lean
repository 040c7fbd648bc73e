import NoteBase.Number.Decimal

/-!
# The texts of doubles

A double is written with the digits of its shortest decimal. What a format decides beyond these
digits is held in one `Layout`: where positional notation ends, whether a whole number keeps a
fraction, how the exponent is signed, and which of two equally near decimals is taken.
-/

namespace NoteBase.Number

/-! ## Digits -/

/-- The decimal digits of a natural, without leading zeros. -/
def digitChars (value : Nat) : List Char :=
  Nat.toDigits 10 value

/-- Digits with the point where the exponent puts it, filled up with zeros. -/
def positional (decimal : Decimal) : List Char :=
  let digits := digitChars decimal.digits
  let point : Int := digits.length + decimal.exponent
  if 0 ≤ decimal.exponent then
    digits ++ List.replicate decimal.exponent.toNat '0'
  else if 0 < point then
    digits.take point.toNat ++ '.' :: digits.drop point.toNat
  else
    '0' :: '.' :: (List.replicate (-point).toNat '0' ++ digits)

/-- The power of ten that the leading digit stands for. -/
def leadingPower (decimal : Decimal) : Int :=
  (digitChars decimal.digits).length - 1 + decimal.exponent

/-- One digit, the remaining ones behind a point, and the power of the leading digit. -/
def scientific (plusSign : Bool) (decimal : Decimal) : List Char :=
  let power := leadingPower decimal
  let sign := if power < 0 then ['-'] else if plusSign then ['+'] else []
  let digits :=
    match digitChars decimal.digits with
    | [] => []
    | [leading] => [leading]
    | leading :: rest => leading :: '.' :: rest
  digits ++ 'e' :: (sign ++ digitChars power.natAbs)

/-! ## Layouts -/

structure Layout where
  /-- The least power of a leading digit that is written positionally; with `none` all are. -/
  fixedFrom : Option Int
  /-- From this power of the leading digit on an exponent is written. -/
  fixedBelow : Int
  tie : Decimal.Tie
  /-- Whether a whole number in positional notation ends in `.0`. -/
  pointZero : Bool
  /-- Whether an exponent that is not negative has a sign. -/
  plusSign : Bool

namespace Layout

def magnitudeChars (layout : Layout) (scaled : Scaled) : List Char :=
  if scaled.mantissa = 0 then
    if layout.pointZero then ['0', '.', '0'] else ['0']
  else
    let decimal := Decimal.shortest layout.tie scaled
    let power := leadingPower decimal
    let above := match layout.fixedFrom with
      | some least => decide (least ≤ power)
      | none => true
    if above && power < layout.fixedBelow then
      positional decimal ++ (if layout.pointZero && 0 ≤ decimal.exponent then ['.', '0'] else [])
    else
      scientific layout.plusSign decimal

def chars (layout : Layout) (number : Float) : List Char :=
  let magnitude := layout.magnitudeChars (Scaled.ofFloat number)
  if isNegative number then '-' :: magnitude else magnitude

end Layout

/-- How a number is shown: digits without an exponent below `1e21`, and a signed exponent from
there on. -/
def displayLayout : Layout where
  fixedFrom := none
  fixedBelow := 21
  tie := .up
  pointZero := false
  plusSign := true

/-- The text of a number: both zeros are `0`, a whole number below `1e21` has all its digits, and
any other number has the digits of its shortest decimal. -/
def displayChars (number : Float) : List Char :=
  if isNaN number then "NaN".toList
  else if !isFinite number then
    if isNegative number then "-Infinity".toList else "Infinity".toList
  else
    let scaled := Scaled.ofFloat number
    if scaled.mantissa = 0 then ['0']
    else if scaled.isIntegral && scaled.integerPart < Nat.pow 10 21 then
      let digits := digitChars scaled.integerPart
      if isNegative number then '-' :: digits else digits
    else displayLayout.chars number

def display (number : Float) : String :=
  String.ofList (displayChars number)

end NoteBase.Number
