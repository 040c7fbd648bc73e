import NoteBase.Calendar.Text
import NoteBase.Number.Layout
import NoteBase.Number.Literal

/-!
# Property values

The value of a property of a note, and its readings as a number, as a text, as a truth value and as
a date. Every operator goes through these readings.

* As a number, null is 0, a truth value is 1 or 0, a date is its epoch milliseconds, and a text or
  the text of a list is read as numeric text.
* As a text, a list is the texts of its items joined by commas, in which null is empty.
* Null, `false`, zero, `NaN` and the empty text are not truthy; everything else is.
-/

namespace NoteBase

open Calendar (Moment)

inductive Value where
  | null
  | bool (value : Bool)
  | number (value : Float)
  | text (value : String)
  | date (value : Moment)
  | list (items : List Value)

namespace Value

instance : Inhabited Value := ⟨.null⟩

def isNull : Value → Bool
  | .null => true
  | _ => false

/-! ## As a text -/

def boolChars (value : Bool) : List Char :=
  if value then "true".toList else "false".toList

mutual

/-- The characters of a value's text. The items of a list are joined by commas; null is empty
there. -/
def displayChars : Value → List Char
  | .null => "null".toList
  | .bool value => boolChars value
  | .number value => Number.displayChars value
  | .text value => value.toList
  | .date value => value.chars
  | .list [] => []
  | .list (item :: rest) => (if item.isNull then [] else displayChars item) ++ restChars rest

/-- The texts of the items behind the first one, each behind a comma. -/
def restChars : List Value → List Char
  | [] => []
  | item :: rest => ',' :: ((if item.isNull then [] else displayChars item) ++ restChars rest)

end

def display (value : Value) : String :=
  String.ofList value.displayChars

/-! ## As a number -/

def toNumber : Value → Float
  | .null => Number.ofNat 0
  | .bool value => Number.ofNat value.toNat
  | .number value => value
  | .text value => Number.ofText value
  | .date value => Number.ofInt value.epochMillisecond
  | .list items => Number.ofText (display (.list items))

/-! ## As a truth value -/

/-- Zero of either sign, and `NaN`, are not truthy. -/
def isTruthyNumber (number : Float) : Bool :=
  Number.magnitudeOf number != 0 && !Number.isNaN number

def isTruthy : Value → Bool
  | .null => false
  | .bool value => value
  | .number value => isTruthyNumber value
  | .text value => value ≠ ""
  | .date _ => true
  | .list _ => true

def isBlank : Value → Bool
  | .null => true
  | .text value => value = ""
  | _ => false

def isEmpty : Value → Bool
  | .list items => items.isEmpty
  | value => !value.isTruthy

/-! ## As what it is -/

def number? : Value → Option Float
  | .number value => some value
  | _ => none

def text? : Value → Option String
  | .text value => some value
  | _ => none

def bool? : Value → Option Bool
  | .bool value => some value
  | _ => none

def items? : Value → Option (List Value)
  | .list items => some items
  | _ => none

/-! ## As a date -/

/-- The moment that a value stands for: a date as it is, a text that reads as one, and a finite
number as epoch milliseconds, of which a fraction is dropped. -/
def moment? : Value → Option Moment
  | .date value => some value
  | .text value => Moment.ofText? value
  | .number value =>
    if Number.isFinite value then Moment.ofEpochMillisecond? (Number.toWord value) else none
  | _ => none

end Value

end NoteBase
