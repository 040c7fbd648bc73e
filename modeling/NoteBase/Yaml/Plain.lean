import NoteBase.Yaml.Gap

/-!
# Plain scalars

A text without quotes. It ends in front of a colon with a blank behind it, in front of a comment,
in front of a line that is not indented enough, and in a flow collection also in front of brackets
and commas.
-/

namespace NoteBase.Yaml

structure Taken where
  chars : List Char
  isBroken : Bool
  rest : List Glyph

/-- The scalar that ends in front of the rest, from its characters in reverse and the gap behind. -/
def Taken.before (rest : List Glyph) (reversed : List Char) (gap : Gap) : Taken :=
  ⟨reversed.reverse, gap.isBroken, rest⟩

/-- Takes a plain scalar from the front. What has been taken so far is given in reverse. -/
def takePlain? (flow : Bool) (indent : Nat) (reversed : List Char) (gap : Gap) :
    List Glyph → Option Taken
  | [] => some (.before [] reversed gap)
  | glyph :: rest =>
    if isBreak glyph.char then takePlain? flow indent reversed (gap.addBreak glyph.char) rest
    else if isBlank glyph.char then
      if gap.isBroken && glyph.column < indent && glyph.char == '\t' then none
      else takePlain? flow indent reversed (gap.addBlank glyph.char) rest
    else if !gap.isEmpty && ((!flow && glyph.column < indent) || glyph.char == '#' ||
        atDocumentMark (glyph :: rest)) then
      some (.before (glyph :: rest) reversed gap)
    else if flow && glyph.char == ':' &&
        rest.head?.any (fun next => isFlowIndicator next.char || next.char == '?') then
      none
    else if (glyph.char == ':' && atWordEnd rest) || (flow && isFlowIndicator glyph.char) then
      some (.before (glyph :: rest) reversed gap)
    else takePlain? flow indent (glyph.char :: gap.behind reversed) .empty rest

end NoteBase.Yaml
