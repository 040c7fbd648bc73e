import NoteBase.OrderedMap
import NoteBase.Predicate.Comparison

/-!
# Type hints

A hint says of which type the values of a property are. Without a hint a text that is a plain number
is read as one.
-/

namespace NoteBase

inductive PropertyHint where
  | text
  | multitext
  | number
  | other
deriving DecidableEq

abbrev PropertyHints := OrderedMap PropertyHint

namespace PropertyHint

def ofName (name : String) : PropertyHint :=
  if name = "text" then .text
  else if name = "multitext" then .multitext
  else if name = "number" then .number
  else .other

/-- A text that is a plain number becomes that number. -/
def readPlainNumber (value : Value) : Value :=
  match value with
  | .text written =>
    let chars := Text.trimChars written.toList
    if Predicate.isPlainNumber chars then .number (Predicate.plainNumber chars) else value
  | _ => value

/-- Converts a value that is not null. A number is kept as it is if it has no number. -/
def convert (hint : Option PropertyHint) (value : Value) : Value :=
  match hint with
  | some .text => .text value.display
  | some .multitext => .text value.display
  | some .number => if Number.isNaN value.toNumber then value else .number value.toNumber
  | some .other => readPlainNumber value
  | none => readPlainNumber value

end PropertyHint

/-- Converts the value of a property by its hint; null stays null. -/
def PropertyHints.convert (hints : PropertyHints) (property : String) (value : Value) : Value :=
  if value.isNull then value else PropertyHint.convert (hints.get? property) value

end NoteBase
