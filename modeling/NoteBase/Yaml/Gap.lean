import NoteBase.Yaml.Glyph

/-!
# Gaps between words

What stands between two words of a text that may go over several lines. Blanks within a line are
kept. A single line break counts as a space, and of several all but the first are kept; blanks at
the ends of lines and in front of them do not count.
-/

namespace NoteBase.Yaml

inductive Gap where
  | blanks (chars : List Char)
  /-- A first line break, which may have been left out, and the others. -/
  | breaks (first : List Char) (others : List Char)
deriving DecidableEq

namespace Gap

def empty : Gap := .blanks []

def isEmpty : Gap → Bool
  | .blanks chars => chars.isEmpty
  | .breaks _ _ => false

def isBroken : Gap → Bool
  | .blanks _ => false
  | .breaks _ _ => true

def addBlank (char : Char) : Gap → Gap
  | .blanks chars => .blanks (chars ++ [char])
  | .breaks first others => .breaks first others

def addBreak (char : Char) : Gap → Gap
  | .blanks _ => .breaks [char] []
  | .breaks first others => .breaks first (others ++ [char])

def chars : Gap → List Char
  | .blanks chars => chars
  | .breaks first others =>
    if first = ['\n'] then (if others.isEmpty then [' '] else others) else first ++ others

def behind (gap : Gap) (reversed : List Char) : List Char :=
  gap.chars.reverse ++ reversed

example : (Gap.empty.addBreak '\n').chars = [' '] := rfl

example : ((Gap.empty.addBreak '\n').addBreak '\n').chars = ['\n'] := rfl

end Gap

end NoteBase.Yaml
