/-!
# Placed characters

The text of a document as characters that know where they stand. The layout of a block collection,
and whether a text may be a key, depend on the places. Line breaks are made uniform on the way: a
carriage return, a line feed, both together and a next-line character all become one line feed.
-/

namespace NoteBase.Yaml

/-- A character and where it stands: the number of its line, its place in the line, and the number
of bytes in front of it. -/
structure Glyph where
  char : Char
  line : Nat
  column : Nat
  offset : Nat
deriving DecidableEq

/-! ## Classes of characters -/

def isBreak (char : Char) : Bool :=
  char == '\n' || char == '\u2028' || char == '\u2029'

def isBlank (char : Char) : Bool :=
  char == ' ' || char == '\t'

def isFlowIndicator (char : Char) : Bool :=
  char == ',' || char == '[' || char == ']' || char == '{' || char == '}'

/-- A character that a document may hold: the controls are left out, and so are the noncharacters at
the end of the first plane. -/
def isAllowed (char : Char) : Bool :=
  let code := char.toNat
  char == '\t' || char == '\n' || char == '\r' || code == 0x85 ||
    (0x20 ≤ code && code ≤ 0x7E) || (0xA0 ≤ code && code ≤ 0xFFFD) || 0x10000 ≤ code

/-! ## Placing -/

/-- Places characters, the first of which stands at the given place. -/
def placeFrom (line column offset : Nat) : List Char → List Glyph
  | [] => []
  | '\r' :: '\n' :: rest => ⟨'\n', line, column, offset⟩ :: placeFrom (line + 1) 0 (offset + 2) rest
  | char :: rest =>
    let next := offset + char.utf8Size
    if char = '\r' ∨ char = '\u0085' then
      ⟨'\n', line, column, offset⟩ :: placeFrom (line + 1) 0 next rest
    else if isBreak char then
      ⟨char, line, column, offset⟩ :: placeFrom (line + 1) 0 next rest
    else ⟨char, line, column, offset⟩ :: placeFrom line (column + 1) next rest

def place (chars : List Char) : List Glyph :=
  placeFrom 0 0 0 chars

/-! ## What comes next -/

/-- A word ends here: there is a blank, a line break or nothing. -/
def atWordEnd : List Glyph → Bool
  | [] => true
  | glyph :: _ => isBlank glyph.char || isBreak glyph.char

/-- The next three characters are the same as this one, and the word ends behind them. -/
def atTriple (char : Char) : List Glyph → Bool
  | first :: second :: third :: rest =>
    first.char == char && second.char == char && third.char == char && atWordEnd rest
  | _ => false

/-- A line with the mark of the start or the end of a document begins here. -/
def atDocumentMark (glyphs : List Glyph) : Bool :=
  (glyphs.head?.any fun glyph => glyph.column == 0) && (atTriple '-' glyphs || atTriple '.' glyphs)

end NoteBase.Yaml
