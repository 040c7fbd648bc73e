import NoteBase.Text.Blank
import NoteBase.Text.Case
import NoteBase.Text.Letter

/-!
# Collation

The order in which texts are shown. Blanks come before symbols, these before numerals, and these
before letters; letters are first compared without regard to case. Texts that differ in case only
have the lower case first, and the order of code points decides what is left, so that only identical
texts are equal.
-/

namespace NoteBase.Text

/-- What collation asks of a character. -/
structure CharTable where
  isBlank : Char → Bool
  isNumeric : Char → Bool
  isAlphabetic : Char → Bool
  isUppercase : Char → Bool
  /-- The lower-case form, of which the first character counts if there is one. -/
  lower : Char → List Char

namespace CharTable

variable (table : CharTable)

/-- The rank of a character's class: blanks, symbols, numerals, letters. -/
def classRank (char : Char) : Nat :=
  if table.isBlank char then 0
  else if table.isNumeric char then 2
  else if table.isAlphabetic char then 3
  else 1

/-- The code point that stands for a character without regard to case. -/
def foldedCode (char : Char) : Nat :=
  ((table.lower char).headD char).toNat

/-- Compares two characters by class, and within a class without regard to case. -/
def compareWeight : Char → Char → Ordering :=
  compareLex (compareOn table.classRank) (compareOn table.foldedCode)

/-- Compares the characters of two texts: first by weight throughout, then by case throughout, then
by code point. -/
def collateChars : List Char → List Char → Ordering :=
  compareLex (List.compareLex table.compareWeight)
    (compareLex (List.compareLex (compareOn table.isUppercase))
      (List.compareLex (compareOn Char.toNat)))

/-- The table by which texts are collated. -/
def standard : CharTable where
  isBlank := Text.isBlank
  isNumeric := Text.isNumeric
  isAlphabetic := Text.isAlphabetic
  isUppercase := Text.isUppercase
  lower := Text.lowerChar

end CharTable

def collate (left right : String) : Ordering :=
  CharTable.standard.collateChars left.toList right.toList

def compareCodes (left right : String) : Ordering :=
  List.compareLex (compareOn Char.toNat) left.toList right.toList

end NoteBase.Text
