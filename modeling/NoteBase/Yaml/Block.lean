import NoteBase.Yaml.Gap

/-!
# Block scalars

A text in lines that are indented below a bar or an angle bracket. Behind a bar the line breaks are
kept; behind an angle bracket a single line break between two lines counts as a space, unless one of
the lines starts with a blank. The last line break is kept unless there is a minus sign, and empty
lines at the end are kept only if there is a plus sign.
-/

namespace NoteBase.Yaml

/-! ## The first line -/

inductive Ending where
  | strip
  | clip
  | keep
deriving DecidableEq

/-- How the text of a block is read. The indentation may be given relative to the parent. -/
structure BlockStyle where
  folded : Bool
  ending : Ending
  indent : Option Nat
deriving DecidableEq

def ending? (char : Char) : Option Ending :=
  if char = '+' then some .keep
  else if char = '-' then some .strip
  else none

def indent? (char : Char) : Option Nat :=
  if char.isDigit then some (char.toNat - '0'.toNat) else none

/-- The style that the characters behind the bar or angle bracket give: a sign and a digit in any
order, both of which may be absent. The digit is not zero. -/
def BlockStyle.ofMarks? (folded : Bool) (marks : List Char) : Option BlockStyle :=
  let style? : Option BlockStyle :=
    match marks with
    | [] => some ⟨folded, .clip, none⟩
    | [mark] =>
      match ending? mark, indent? mark with
      | some ending, _ => some ⟨folded, ending, none⟩
      | _, some indent => some ⟨folded, .clip, some indent⟩
      | none, none => none
    | [first, second] =>
      match ending? first, indent? second, indent? first, ending? second with
      | some ending, some indent, _, _ => some ⟨folded, ending, some indent⟩
      | _, _, some indent, some ending => some ⟨folded, ending, some indent⟩
      | _, _, _, _ => none
    | _ => none
  style?.filter fun style => style.indent ≠ some 0

def dropLine (glyphs : List Glyph) : List Glyph :=
  glyphs.dropWhile fun glyph => !isBreak glyph.char

/-- Takes the first line from the front: the style, and perhaps a comment. -/
def takeBlockStyle? (folded : Bool) (glyphs : List Glyph) : Option (BlockStyle × List Glyph) := do
  let isMark := fun glyph : Glyph => (ending? glyph.char).isSome || (indent? glyph.char).isSome
  let style ← BlockStyle.ofMarks? folded ((glyphs.takeWhile isMark).map Glyph.char)
  let rest := (glyphs.dropWhile isMark).dropWhile fun glyph => isBlank glyph.char
  match rest with
  | [] => some (style, [])
  | glyph :: others =>
    if isBreak glyph.char then some (style, others)
    else if glyph.char = '#' then some (style, (dropLine others).tail)
    else none

/-! ## Indentation -/

/-- The column of the first character that is no space, or of the deepest empty line in front of it.
A tab may not stand in the indentation. -/
def deepestColumn? (deepest : Nat) : List Glyph → Option Nat
  | [] => some deepest
  | glyph :: rest =>
    if glyph.char = ' ' then deepestColumn? (max deepest (glyph.column + 1)) rest
    else if glyph.char = '\t' then none
    else if isBreak glyph.char then deepestColumn? deepest rest
    else some deepest

/-- The column of the lines of a block. Without a parent the block stands at the root. -/
def blockColumn? (parent : Option Nat) (style : BlockStyle) (glyphs : List Glyph) : Option Nat :=
  match style.indent with
  | some indent => some (parent.getD 0 + indent)
  | none =>
    let least := match parent with
      | some column => column + 1
      | none => 1
    (deepestColumn? 0 glyphs).map (max least)

/-! ## Lines -/

/-- What has been read of a block. The text is in reverse; the line breaks at its end are held back
until the next line shows what becomes of them. -/
structure BlockState where
  reversed : List Char
  lastBreak : List Char
  emptyLines : List Char
  startsBlank : Bool
  /-- The next character belongs to a line of the text. -/
  inLine : Bool

namespace BlockState

def initial : BlockState := ⟨[], [], [], false, false⟩

/-- The line breaks in front of a new line, of which the first may be folded. -/
def joint (style : BlockStyle) (state : BlockState) (blank : Bool) : List Char :=
  let isFolded := style.folded && state.lastBreak == ['\n'] && !state.startsBlank && !blank
  (if isFolded then (if state.emptyLines.isEmpty then [' '] else []) else state.lastBreak) ++
    state.emptyLines

def startLine (style : BlockStyle) (state : BlockState) (char : Char) : BlockState :=
  let blank := isBlank char
  ⟨char :: (state.joint style blank).reverse ++ state.reversed, [], [], blank, true⟩

def text (style : BlockStyle) (state : BlockState) : List Char :=
  state.reversed.reverse ++
    match style.ending with
    | .strip => []
    | .clip => state.lastBreak
    | .keep => state.lastBreak ++ state.emptyLines

end BlockState

def takeLines? (style : BlockStyle) (column : Nat) (state : BlockState) :
    List Glyph → Option (List Char × List Glyph)
  | [] => some (state.text style, [])
  | glyph :: rest =>
    if state.inLine then
      if isBreak glyph.char then
        takeLines? style column { state with lastBreak := [glyph.char], inLine := false } rest
      else
        takeLines? style column { state with reversed := glyph.char :: state.reversed } rest
    else if isBreak glyph.char then
      takeLines? style column { state with emptyLines := state.emptyLines ++ [glyph.char] } rest
    else if column ≤ glyph.column then
      takeLines? style column (state.startLine style glyph.char) rest
    else if glyph.char = ' ' then takeLines? style column state rest
    else if glyph.char = '\t' then none
    else some (state.text style, glyph :: rest)

/-- Takes a block scalar from the front, behind its bar or angle bracket. -/
def takeBlock? (parent : Option Nat) (folded : Bool) (glyphs : List Glyph) :
    Option (List Char × List Glyph) := do
  let (style, rest) ← takeBlockStyle? folded glyphs
  let column ← blockColumn? parent style rest
  takeLines? style column .initial rest

end NoteBase.Yaml
