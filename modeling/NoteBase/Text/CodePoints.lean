/-!
# Sets of code points

A property of characters is kept as the rising list of the code points at which membership changes:
the first one enters the set, the next one leaves it, and so on.
-/

namespace NoteBase.Text

/-- A set of code points, as the rising list of the places where membership changes. -/
structure CodePoints where
  changes : List Nat

namespace CodePoints

/-- A code point is in the set if an odd number of changes are not behind it. -/
def contains (set : CodePoints) (code : Nat) : Bool :=
  (set.changes.takeWhile (· ≤ code)).length % 2 == 1

end CodePoints

end NoteBase.Text
