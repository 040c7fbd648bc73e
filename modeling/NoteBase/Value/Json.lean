import NoteBase.Json.Writer
import NoteBase.Value.Basic

/-!
# Values and JSON

A JSON value as the value of a property, and back. Objects are no values of their own: they are kept
as their JSON text.
-/

namespace NoteBase.Value

/-! ## From JSON -/

def ofScalar : Scalar → Value
  | .null => .null
  | .bool value => .bool value
  | .integer value => .number (Number.ofInt value)
  | .float value => .number value
  | .text value => .text value

mutual

def ofJson : Json → Value
  | .scalar value => ofScalar value
  | .array items => .list (ofJsonItems items)
  | .object members => .text (Json.compact (.object members))

/-- The values that stand for the items of an array. -/
def ofJsonItems : List Json → List Value
  | [] => []
  | item :: rest => ofJson item :: ofJsonItems rest

end

/-! ## To JSON -/

/-- Whole numbers below `2 ^ 53` are written as integers. -/
def jsonOfNumber (number : Float) : Json :=
  if Number.isIntegral number ∧ (Number.truncate number).natAbs < Nat.pow 2 53 then
    .integer (Number.truncate number)
  else .float number

mutual

def toJson : Value → Json
  | .null => .null
  | .bool value => .bool value
  | .number value => jsonOfNumber value
  | .text value => .text value
  | .date value => .text value.display
  | .list items => .array (toJsonItems items)

/-- The JSON values that the items of a list are written as. -/
def toJsonItems : List Value → List Json
  | [] => []
  | item :: rest => toJson item :: toJsonItems rest

end

end NoteBase.Value
