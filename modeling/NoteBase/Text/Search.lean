/-!
# Searching in texts

Occurrences of one text in another, and splitting at them.
-/

namespace NoteBase.Text

def occursIn (needle : List Char) : List Char → Bool
  | [] => needle.isEmpty
  | char :: rest => needle.isPrefixOf (char :: rest) || occursIn needle rest

/-- Splits at every occurrence of a separator that is not empty, from left to right and without
overlap. `skip` counts the characters of an occurrence that are still to be passed, and `piece`
holds the current piece in reverse. -/
def piecesFrom (separator : List Char) : Nat → List Char → List Char → List (List Char)
  | _, piece, [] => [piece.reverse]
  | skip + 1, piece, _ :: rest => piecesFrom separator skip piece rest
  | 0, piece, char :: rest =>
    if separator.isPrefixOf (char :: rest) then
      piece.reverse :: piecesFrom separator (separator.length - 1) [] rest
    else piecesFrom separator 0 (char :: piece) rest

/-- The pieces of a text between the occurrences of a separator. The empty separator gives the
single characters. -/
def pieces (separator chars : List Char) : List (List Char) :=
  if separator.isEmpty then chars.map ([·]) else piecesFrom separator 0 [] chars

/-- Collecting pieces at a single character adds to the piece at hand what splitting gives first. -/
theorem piecesFrom_mark (mark : Char) (piece chars : List Char) :
    piecesFrom [mark] 0 piece chars =
      List.splitOnPPrepend (· == mark) chars piece := by
  induction chars generalizing piece with
  | nil =>
      simp [piecesFrom]
  | cons char rest inductionHypothesis =>
      by_cases same : char = mark
      · subst same
        simp [piecesFrom, List.splitOnPPrepend, inductionHypothesis]
      · have different : ¬ mark = char := fun equality => same equality.symm
        simp [piecesFrom, List.splitOnPPrepend, same, different, inductionHypothesis]

/-- The pieces between the occurrences of a single character. -/
theorem pieces_mark (mark : Char) (chars : List Char) :
    pieces [mark] chars = chars.splitOn mark := by
  rw [pieces, if_neg (by simp), piecesFrom_mark]
  rfl

end NoteBase.Text
