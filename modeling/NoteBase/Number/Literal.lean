import NoteBase.Number.Decimal
import NoteBase.Text.Blank

/-!
# Numeric text

Reading a text as a number: blanks around it are dropped, the empty text is zero, a radix may be
given by a prefix, the infinities have names, and all else is a decimal literal or not a number.
-/

namespace NoteBase.Number

/-! ## Digits -/

/-- The value of a digit in a base of at most sixteen. -/
def digitValue? (base : Nat) (char : Char) : Option Nat :=
  let value? :=
    if char.isDigit then some (char.toNat - '0'.toNat)
    else if 'a' ≤ char ∧ char ≤ 'f' then some (char.toNat - 'a'.toNat + 10)
    else if 'A' ≤ char ∧ char ≤ 'F' then some (char.toNat - 'A'.toNat + 10)
    else none
  value?.filter (· < base)

/-- The value of a text of digits of one base, which has to have at least one digit. -/
def digitsValue? (base : Nat) (chars : List Char) : Option Nat :=
  if chars.isEmpty then none
  else chars.foldlM (fun value char => (digitValue? base char).map (value * base + ·)) 0

/-- The value of decimal digits; other characters are none. -/
def decimalValue (chars : List Char) : Nat :=
  chars.foldl (fun value char => value * 10 + (char.toNat - '0'.toNat)) 0

/-- Takes an optional sign from the front: whether it was a minus, and the rest. -/
def splitSign : List Char → Bool × List Char
  | '-' :: rest => (true, rest)
  | '+' :: rest => (false, rest)
  | chars => (false, chars)

/-! ## Decimal literals -/

/-- The exponent of a decimal literal: nothing at all, or `e`, an optional sign and digits up to
the end. -/
def exponent? : List Char → Option Int
  | [] => some 0
  | mark :: rest =>
    if mark = 'e' ∨ mark = 'E' then
      let (negative, digits) := splitSign rest
      if digits.isEmpty || !digits.all Char.isDigit then none
      else some (if negative then -(decimalValue digits : Int) else decimalValue digits)
    else none

/-- The sign and the value of a decimal literal: an optional sign, digits with an optional point
among, before or behind them, at least one digit, and an optional exponent. -/
def decimalLiteral? (chars : List Char) : Option (Bool × Decimal) :=
  let (negative, unsigned) := splitSign chars
  let whole := unsigned.takeWhile Char.isDigit
  let (fraction, tail) :=
    match unsigned.dropWhile Char.isDigit with
    | '.' :: rest => (rest.takeWhile Char.isDigit, rest.dropWhile Char.isDigit)
    | rest => ([], rest)
  if whole.isEmpty && fraction.isEmpty then none
  else
    (exponent? tail).map fun exponent =>
      (negative, ⟨decimalValue (whole ++ fraction), exponent - fraction.length⟩)

def ofDecimalLiteral? (chars : List Char) : Option Float :=
  (decimalLiteral? chars).map fun (negative, decimal) => decimal.toFloat negative

/-! ## Text -/

/-- The base that a prefix of two characters announces, and the text behind it. -/
def radixPrefix? : List Char → Option (Nat × List Char)
  | '0' :: mark :: rest =>
    if mark = 'x' ∨ mark = 'X' then some (16, rest)
    else if mark = 'o' ∨ mark = 'O' then some (8, rest)
    else if mark = 'b' ∨ mark = 'B' then some (2, rest)
    else none
  | _ => none

/-- A word of 64 bits in some base, with an optional plus sign in front. -/
def wordValue? (base : Nat) (chars : List Char) : Option Nat :=
  let digits := match chars with
    | '+' :: rest => rest
    | _ => chars
  (digitsValue? base digits).filter (· < Nat.pow 2 64)

def ofTrimmed (chars : List Char) : Float :=
  if chars.isEmpty then ofNat 0
  else
    match radixPrefix? chars with
    | some (base, digits) =>
      match wordValue? base digits with
      | some value => ofNat value
      | none => notANumber
    | none =>
      if chars = "Infinity".toList ∨ chars = "+Infinity".toList then infinity
      else if chars = "-Infinity".toList then negativeInfinity
      else (ofDecimalLiteral? chars).getD notANumber

/-- The number that a text stands for, and `NaN` if it stands for none. -/
def ofText (text : String) : Float :=
  ofTrimmed (Text.trimChars text.toList)

end NoteBase.Number
