import NoteBase.Text.Collation
import NoteBase.Value.Basic

/-!
# Comparing values

Strict equality never converts. Loose equality reads truth values as numbers, compares a number with
a text by number, and compares lists and dates with anything else by their text. The relational
order compares two texts by code point and everything else by number.
-/

namespace NoteBase.Value

/-! ## Strict equality -/

mutual

/-- Equality without conversion. Lists are compared item by item, and `NaN` differs from itself. -/
def strictEq : Value → Value → Bool
  | .null, .null => true
  | .bool left, .bool right => left == right
  | .number left, .number right => left == right
  | .text left, .text right => left == right
  | .date left, .date right => left = right
  | .list left, .list right => strictEqItems left right
  | _, _ => false

/-- Strict equality of the items of two lists, which have to be equally many. -/
def strictEqItems : List Value → List Value → Bool
  | [], [] => true
  | left :: lefts, right :: rights => strictEq left right && strictEqItems lefts rights
  | _, _ => false

end

/-! ## Loose equality -/

/-- A truth value becomes its number; every other value stays. -/
def boolAsNumber : Value → Value
  | .bool value => .number (toNumber (.bool value))
  | value => value

/-- Lists and dates, which loose equality compares by their text. -/
def isCompound : Value → Bool
  | .list _ => true
  | .date _ => true
  | _ => false

/-- A list or a date becomes its text; every other value stays. -/
def compoundAsText (value : Value) : Value :=
  if value.isCompound then .text value.display else value

/-- Loose equality of values that are no truth values, lists or dates: a number and a text are
compared by number. -/
def looseEqPlain : Value → Value → Bool
  | .number left, .text right => left == Number.ofText right
  | .text left, .number right => Number.ofText left == right
  | left, right => strictEq left right

/-- Equality with conversion. Null equals nothing but null. -/
def looseEq (left right : Value) : Bool :=
  match left.boolAsNumber, right.boolAsNumber with
  | .null, .null => true
  | .null, _ => false
  | _, .null => false
  | left, right =>
    if left.isCompound && right.isCompound then strictEq left right
    else looseEqPlain left.compoundAsText right.compoundAsText

/-! ## Order -/

/-- What the relational order compares: the text of a list, the number of a date, and every other
value as it is. -/
def asPrimitive : Value → Value
  | .list items => .text (display (.list items))
  | .date value => .number (toNumber (.date value))
  | value => value

/-- The relational order. It is undefined if a side that is compared by number is `NaN`. -/
def relationalCompare (left right : Value) : Option Ordering :=
  match left.asPrimitive, right.asPrimitive with
  | .text left, .text right => some (Text.compareCodes left right)
  | left, right => Number.compare? left.toNumber right.toNumber

end NoteBase.Value
