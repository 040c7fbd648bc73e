import NoteBase.Json.Basic
import NoteBase.Number.Layout

/-!
# JSON text

Writing a JSON value, either on one line without blanks or over several lines with an indentation
of two blanks.
-/

namespace NoteBase.Json

/-! ## Scalars -/

/-- A number in JSON has a fraction in positional notation, which is used from `1e-5` up to below
`1e16`, and a signed exponent elsewhere. -/
def floatLayout : Number.Layout where
  fixedFrom := some (-5)
  fixedBelow := 16
  tie := .toEven
  pointZero := true
  plusSign := true

def hexDigit (value : Nat) : Char :=
  Nat.digitChar (value % 16)

/-- The characters that stand for one character inside of a JSON text. -/
def escapeChar (char : Char) : List Char :=
  if char = '"' then ['\\', '"']
  else if char = '\\' then ['\\', '\\']
  else if char = '\n' then ['\\', 'n']
  else if char = '\r' then ['\\', 'r']
  else if char = '\t' then ['\\', 't']
  else if char = '\x08' then ['\\', 'b']
  else if char = '\x0c' then ['\\', 'f']
  else if char.toNat < 0x20 then
    ['\\', 'u', '0', '0', hexDigit (char.toNat / 16), hexDigit char.toNat]
  else [char]

def quotedChars (text : String) : List Char :=
  '"' :: (text.toList.flatMap escapeChar ++ ['"'])

/-- The decimal digits of an integer, with a minus if it is negative. -/
def integerChars (value : Int) : List Char :=
  if value < 0 then '-' :: Number.digitChars value.natAbs else Number.digitChars value.natAbs

/-- The text of a scalar. A number that is not finite is written as null. -/
def scalarChars : Scalar → List Char
  | .null => "null".toList
  | .bool true => "true".toList
  | .bool false => "false".toList
  | .integer value => integerChars value
  | .float value =>
    if Number.isFinite value then floatLayout.chars value else "null".toList
  | .text value => quotedChars value

/-! ## On one line -/

mutual

def chars : Json → List Char
  | .scalar value => scalarChars value
  | .array [] => ['[', ']']
  | .array (item :: items) => '[' :: (chars item ++ (itemsChars items ++ [']']))
  | .object [] => ['{', '}']
  | .object ((key, value) :: members) =>
    '{' :: (quotedChars key ++ ':' :: (chars value ++ (membersChars members ++ ['}'])))

/-- The items behind the first one, each behind a comma. -/
def itemsChars : List Json → List Char
  | [] => []
  | item :: items => ',' :: (chars item ++ itemsChars items)

/-- The members behind the first one, each behind a comma. -/
def membersChars : List (String × Json) → List Char
  | [] => []
  | (key, value) :: members =>
    ',' :: (quotedChars key ++ ':' :: (chars value ++ membersChars members))

end

def compact (json : Json) : String :=
  String.ofList json.chars

/-! ## Over several lines -/

/-- A line break with an indentation of two blanks a level. -/
def lineBreak (level : Nat) : List Char :=
  '\n' :: List.replicate (2 * level) ' '

mutual

/-- The text of a value with a line for every item and member. -/
def prettyChars (level : Nat) : Json → List Char
  | .scalar value => scalarChars value
  | .array [] => ['[', ']']
  | .array (item :: items) =>
    '[' :: (lineBreak (level + 1) ++ prettyChars (level + 1) item ++
      prettyItems (level + 1) items ++ lineBreak level ++ [']'])
  | .object [] => ['{', '}']
  | .object ((key, value) :: members) =>
    '{' :: (lineBreak (level + 1) ++ quotedChars key ++ ':' :: ' ' ::
      (prettyChars (level + 1) value ++ prettyMembers (level + 1) members ++ lineBreak level ++
        ['}']))

/-- The items behind the first one, each behind a comma and a line break. -/
def prettyItems (level : Nat) : List Json → List Char
  | [] => []
  | item :: items => ',' :: (lineBreak level ++ prettyChars level item ++ prettyItems level items)

/-- The members behind the first one, each behind a comma and a line break. -/
def prettyMembers (level : Nat) : List (String × Json) → List Char
  | [] => []
  | (key, value) :: members =>
    ',' :: (lineBreak level ++ quotedChars key ++ ':' :: ' ' ::
      (prettyChars level value ++ prettyMembers level members))

end

def pretty (json : Json) : String :=
  String.ofList (prettyChars 0 json)

end NoteBase.Json
