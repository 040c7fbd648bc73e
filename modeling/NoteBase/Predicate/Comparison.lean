import NoteBase.Formula

/-!
# Comparisons of operands

The comparison of two operands that are given as texts. An operand is a quoted text, a number, a
literal word, a property, an arithmetic expression, or the text itself, whichever fits first.
-/

namespace NoteBase.Predicate

open Calendar (Moment)

/-! ## Operators -/

inductive ComparisonOp where
  | gt
  | ge
  | lt
  | le
  | looseEq
  | strictEq
  | looseNe
  | strictNe
  | contains
  | startsWith
  | endsWith
deriving DecidableEq

def ComparisonOp.ofText? (text : String) : Option ComparisonOp :=
  if text = ">" then some .gt
  else if text = ">=" then some .ge
  else if text = "<" then some .lt
  else if text = "<=" then some .le
  else if text = "==" then some .looseEq
  else if text = "===" then some .strictEq
  else if text = "!=" then some .looseNe
  else if text = "!==" then some .strictNe
  else if text = "contains" ∨ text = "includes" then some .contains
  else if text = "startsWith" then some .startsWith
  else if text = "endsWith" then some .endsWith
  else none

/-! ## Operands -/

/-- A decimal number without exponent: an optional minus, digits, and an optional fraction. -/
def isPlainNumber (chars : List Char) : Bool :=
  let unsigned := match chars with
    | '-' :: rest => rest
    | _ => chars
  let tail := unsigned.dropWhile Char.isDigit
  !(unsigned.takeWhile Char.isDigit).isEmpty &&
    match tail with
    | [] => true
    | '.' :: digits => !digits.isEmpty && digits.all Char.isDigit
    | _ => false

def plainNumber (chars : List Char) : Float :=
  (Number.ofDecimalLiteral? chars).getD Number.notANumber

def isQuotedBy (quote : Char) (chars : List Char) : Bool :=
  chars.head? == some quote && chars.getLast? == some quote

def literalWord? (text : String) : Option Value :=
  if text = "true" then some (.bool true)
  else if text = "false" then some (.bool false)
  else if text = "null" then some .null
  else none

/-- A text with a character that arithmetic is written with. -/
def looksArithmetic (chars : List Char) : Bool :=
  chars.any fun char => char == '-' || char == '+' || char == '*' || char == '/'

def trimmedOperand (now : Moment) (record : Record) (chars : List Char) : Value :=
  let text := String.ofList chars
  if isQuotedBy '"' chars || isQuotedBy '\'' chars then .text (String.ofList chars.tail.dropLast)
  else if isPlainNumber chars then .number (plainNumber chars)
  else
    match literalWord? text with
    | some value => value
    | none =>
      match record.lookup text with
      | some value => value
      | none =>
        if looksArithmetic chars then
          match Formula.evaluate? now record text with
          | some number => .number number
          | none => .null
        else .text text

def operand (now : Moment) (record : Record) (text : String) : Value :=
  trimmedOperand now record (Text.trimChars text.toList)

/-! ## Comparing -/

def lowerText (value : Value) : List Char :=
  Text.lower value.display

/-- Compares two values. If one of them is null, only loose equality and its negation can hold. -/
def compareValues (left : Value) (op : ComparisonOp) (right : Value) : Bool :=
  if left.isNull || right.isNull then
    match op with
    | .looseEq => left.looseEq right
    | .looseNe => !left.looseEq right
    | _ => false
  else
    match op with
    | .gt => right.toNumber < left.toNumber
    | .ge => right.toNumber ≤ left.toNumber
    | .lt => left.toNumber < right.toNumber
    | .le => left.toNumber ≤ right.toNumber
    | .looseEq => left.looseEq right
    | .strictEq => left.strictEq right
    | .looseNe => !left.looseEq right
    | .strictNe => !left.strictEq right
    | .contains => Text.occursIn (lowerText right) (lowerText left)
    | .startsWith => (lowerText right).isPrefixOf (lowerText left)
    | .endsWith => (lowerText right).isSuffixOf (lowerText left)

end NoteBase.Predicate
