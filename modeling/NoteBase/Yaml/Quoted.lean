import NoteBase.Number.Literal
import NoteBase.Yaml.Gap

/-!
# Quoted scalars

In single quotes a quote is written twice, and nothing else is special. In double quotes a backslash
starts an escape. Both may go over several lines, which are joined like words; a backslash at the
end of a line joins it to the next one without a space.
-/

namespace NoteBase.Yaml

/-! ## Single quotes -/

/-- Takes the rest of a scalar behind its single quote. What has been taken so far is given in
reverse. -/
def takeSingle? (reversed : List Char) (gap : Gap) : List Glyph → Option (List Char × List Glyph)
  | [] => none
  | [glyph] => if glyph.char = '\'' then some ((gap.behind reversed).reverse, []) else none
  | glyph :: next :: rest =>
    if isBreak glyph.char then takeSingle? reversed (gap.addBreak glyph.char) (next :: rest)
    else if isBlank glyph.char then takeSingle? reversed (gap.addBlank glyph.char) (next :: rest)
    else if atDocumentMark (glyph :: next :: rest) then none
    else if glyph.char = '\'' then
      if next.char = '\'' then takeSingle? ('\'' :: gap.behind reversed) .empty rest
      else some ((gap.behind reversed).reverse, next :: rest)
    else takeSingle? (glyph.char :: gap.behind reversed) .empty (next :: rest)

/-! ## Escapes -/

def simpleEscape? (mark : Char) : Option Char :=
  match mark with
  | '0' => some '\x00'
  | 'a' => some '\x07'
  | 'b' => some '\x08'
  | 't' => some '\t'
  | '\t' => some '\t'
  | 'n' => some '\n'
  | 'v' => some '\x0b'
  | 'f' => some '\x0c'
  | 'r' => some '\r'
  | 'e' => some '\x1b'
  | ' ' => some ' '
  | '"' => some '"'
  | '/' => some '/'
  | '\\' => some '\\'
  | 'N' => some '\u0085'
  | '_' => some '\u00a0'
  | 'L' => some '\u2028'
  | 'P' => some '\u2029'
  | _ => none

/-- The number of digits behind the letter of an escape by number. -/
def escapeDigits? (mark : Char) : Option Nat :=
  match mark with
  | 'x' => some 2
  | 'u' => some 4
  | 'U' => some 8
  | _ => none

/-- The character with a number, which may be no surrogate. -/
def charOfCode? (code : Nat) : Option Char :=
  if code < 0xD800 ∨ (0xE000 ≤ code ∧ code ≤ 0x10FFFF) then some (Char.ofNat code) else none

/-- The character of an escape, and how many characters follow its letter. -/
def escape? (mark : Char) (rest : List Glyph) : Option (Char × Nat) :=
  match escapeDigits? mark with
  | some count => do
    let digits := (rest.take count).map Glyph.char
    if digits.length = count then
      let code ← Number.digitsValue? 16 digits
      let char ← charOfCode? code
      some (char, count)
    else none
  | none => (simpleEscape? mark).map fun char => (char, 0)

/-! ## Double quotes -/

/-- Takes the rest of a scalar behind its double quote. What has been taken so far is given in
reverse. -/
def takeDouble? (reversed : List Char) (gap : Gap) (glyphs : List Glyph) :
    Option (List Char × List Glyph) :=
  match glyphs with
  | [] => none
  | glyph :: rest =>
    if isBreak glyph.char then takeDouble? reversed (gap.addBreak glyph.char) rest
    else if isBlank glyph.char then takeDouble? reversed (gap.addBlank glyph.char) rest
    else if atDocumentMark (glyph :: rest) then none
    else if glyph.char = '"' then some ((gap.behind reversed).reverse, rest)
    else if glyph.char = '\\' then
      match rest with
      | [] => none
      | mark :: rest =>
        if isBreak mark.char then takeDouble? (gap.behind reversed) (.breaks [] []) rest
        else
          match escape? mark.char rest with
          | some (char, used) =>
            takeDouble? (char :: gap.behind reversed) .empty (rest.drop used)
          | none => none
    else takeDouble? (glyph.char :: gap.behind reversed) .empty rest
termination_by glyphs.length
decreasing_by all_goals simp only [List.length_cons, List.length_drop]; omega

end NoteBase.Yaml
