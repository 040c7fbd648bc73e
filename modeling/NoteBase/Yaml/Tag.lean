import NoteBase.Yaml.Glyph
import NoteBase.Yaml.Scalar

/-!
# Tags, anchors and directives

An anchor gives a node a name. A tag says what a node is: it is complete between angle brackets,
and otherwise starts with a handle, which a directive at the start of the document may define.
-/

namespace NoteBase.Yaml

/-! ## Names -/

/-- Characters of the names of anchors, handles and directives. -/
def isNameChar (char : Char) : Bool :=
  char.isAlphanum || char == '_' || char == '-'

/-- Takes the characters of a name from the front. -/
def takeName (glyphs : List Glyph) : List Char × List Glyph :=
  ((glyphs.takeWhile fun glyph => isNameChar glyph.char).map Glyph.char,
    glyphs.dropWhile fun glyph => isNameChar glyph.char)

def dropBlanks (glyphs : List Glyph) : List Glyph :=
  glyphs.dropWhile fun glyph => isBlank glyph.char

/-- The name of an anchor may end in front of these characters. -/
def anchorEnds : List Char :=
  ['?', ':', ',', ']', '}', '%', '@', '\x60']

/-- Takes the name of an anchor from the front, behind its mark. -/
def takeAnchor? (glyphs : List Glyph) : Option (String × List Glyph) :=
  let (name, rest) := takeName glyphs
  if name.isEmpty then none
  else if atWordEnd rest || rest.head?.any fun glyph => anchorEnds.contains glyph.char then
    some (String.ofList name, rest)
  else none

/-! ## Escapes -/

/-- Takes an octet from the front: a percent sign and two hexadecimal digits. -/
def takeOctet? (glyphs : List Glyph) : Option (Nat × List Glyph) :=
  match glyphs with
  | mark :: first :: second :: rest =>
    if mark.char = '%' then
      (Number.digitsValue? 16 [first.char, second.char]).map fun octet => (octet, rest)
    else none
  | _ => none

/-- The number of octets of a character by the first of them. -/
def octetCount? (octet : Nat) : Option Nat :=
  if octet < 0x80 then some 1
  else if octet < 0xC0 then none
  else if octet < 0xE0 then some 2
  else if octet < 0xF0 then some 3
  else if octet < 0xF8 then some 4
  else none

/-- Takes the further octets of a character from the front. Each adds six bits to the code. -/
def takeFurther? : Nat → Nat → List Glyph → Option Nat
  | 0, code, _ => some code
  | count + 1, code, glyphs => do
    let (octet, rest) ← takeOctet? glyphs
    if 0x80 ≤ octet ∧ octet < 0xC0 then takeFurther? count (code * 64 + octet % 64) rest else none

/-- The character with a code in a number of octets, if there is one. It takes no fewer octets. -/
def charOfOctets? (count code : Nat) : Option Char :=
  let char := Char.ofNat code
  if char.toNat = code ∧ char.utf8Size = count then some char else none

/-- The character that octets at the front stand for, if they do, and how many octets these are. -/
def escapedChar? (glyphs : List Glyph) : Option (Option Char × Nat) := do
  let (octet, rest) ← takeOctet? glyphs
  let count ← octetCount? octet
  let leading := if count = 1 then octet else octet % Nat.pow 2 (7 - count)
  let code ← takeFurther? (count - 1) leading rest
  some (charOfOctets? count code, count)

/-! ## Tags -/

def isTagChar (char : Char) : Bool :=
  isNameChar char ||
    [';', '/', '?', ':', '@', '&', '=', '+', '$', '.', '!', '~', '*', '\'', '(', ')'].contains char

/-- Takes the text of a tag from the front, in which commas and brackets may be allowed. -/
def takeTagText? (brackets : Bool) (reversed : TagText) (glyphs : List Glyph) :
    Option (TagText × List Glyph) :=
  match glyphs with
  | [] => some (reversed.reverse, [])
  | glyph :: rest =>
    if glyph.char = '%' then
      match escapedChar? (glyph :: rest) with
      | some (char, count) => takeTagText? brackets (char :: reversed) (rest.drop (3 * count - 1))
      | none => none
    else if isTagChar glyph.char || (brackets && [',', '[', ']'].contains glyph.char) then
      takeTagText? brackets (some glyph.char :: reversed) rest
    else some (reversed.reverse, glyph :: rest)
termination_by glyphs.length
decreasing_by all_goals simp only [List.length_cons, List.length_drop]; omega

/-- Takes a text from the front that is not empty. -/
def takeSomeTagText? (brackets : Bool) (glyphs : List Glyph) : Option (TagText × List Glyph) :=
  (takeTagText? brackets [] glyphs).filter fun (text, _) => !text.isEmpty

/-- Takes a handle from the front: an exclamation mark, or a name between two. The second one may be
missing, and then this is no handle. -/
def takeHandle? (glyphs : List Glyph) : Option (List Char × List Glyph) :=
  match glyphs with
  | mark :: rest =>
    if mark.char = '!' then
      match takeName rest with
      | (name, last :: rest) =>
        if last.char = '!' then some ('!' :: (name ++ ['!']), rest)
        else some ('!' :: name, last :: rest)
      | (name, []) => some ('!' :: name, [])
    else none
  | [] => none

/-- Takes a tag between angle brackets from the front, behind the first one. -/
def takeVerbatim? (glyphs : List Glyph) : Option (Token × List Glyph) := do
  match ← takeSomeTagText? true glyphs with
  | (text, mark :: rest) =>
    if mark.char = '>' then some (.tag "" text, rest) else none
  | _ => none

/-- Takes a tag with a handle from the front. Without a name the handle is a single exclamation
mark, and what follows belongs to the tag. -/
def takeShorthand? (glyphs : List Glyph) : Option (Token × List Glyph) := do
  let (handle, rest) ← takeHandle? glyphs
  if 1 < handle.length ∧ handle.getLast? = some '!' then
    let (suffix, rest) ← takeSomeTagText? false rest
    some (.tag (String.ofList handle) suffix, rest)
  else
    let (text, rest) ← takeTagText? false [] rest
    let suffix := (handle.drop 1).map some ++ text
    if suffix.isEmpty then some (.tag "" [some '!'], rest)
    else some (.tag "!" suffix, rest)

def takeTag? (inFlow : Bool) (glyphs : List Glyph) : Option (Token × List Glyph) :=
  let taken? :=
    match glyphs with
    | _ :: mark :: rest => if mark.char = '<' then takeVerbatim? rest else takeShorthand? glyphs
    | _ => takeShorthand? glyphs
  taken?.filter fun (_, rest) =>
    atWordEnd rest || (inFlow && rest.head?.any fun glyph => glyph.char == ',')

/-! ## Directives -/

def takeVersionNumber? (glyphs : List Glyph) : Option (Nat × List Glyph) :=
  let digits := (glyphs.takeWhile fun glyph => glyph.char.isDigit).map Glyph.char
  if digits.isEmpty || 9 < digits.length then none
  else some (Number.decimalValue digits, glyphs.dropWhile fun glyph => glyph.char.isDigit)

def takeVersion? (glyphs : List Glyph) : Option (Token × List Glyph) := do
  let (major, rest) ← takeVersionNumber? (dropBlanks glyphs)
  match rest with
  | point :: rest =>
    if point.char = '.' then
      let (minor, rest) ← takeVersionNumber? rest
      some (.versionDirective major minor, rest)
    else none
  | [] => none

/-- Takes the definition of a handle from the front. -/
def takeDefinition? (glyphs : List Glyph) : Option (Token × List Glyph) := do
  let (handle, rest) ← takeHandle? (dropBlanks glyphs)
  if handle.getLast? = some '!' ∧ (rest.head?.any fun glyph => isBlank glyph.char) then
    let (start, rest) ← takeSomeTagText? true (dropBlanks rest)
    if atWordEnd rest then some (.tagDirective (String.ofList handle) start, rest) else none
  else none

/-- Passes over the end of a line, which holds nothing but blanks and perhaps a comment. -/
def endLine? (glyphs : List Glyph) : Option (List Glyph) :=
  match dropBlanks glyphs with
  | [] => some []
  | glyph :: rest =>
    if isBreak glyph.char then some rest
    else if glyph.char = '#' then some (rest.dropWhile fun glyph => !isBreak glyph.char).tail
    else none

/-- Takes a directive from the front, behind its percent sign. -/
def takeDirective? (glyphs : List Glyph) : Option (Token × List Glyph) := do
  let (name, rest) := takeName glyphs
  if atWordEnd rest then
    let (token, rest) ←
      if name = "YAML".toList then takeVersion? rest
      else if name = "TAG".toList then takeDefinition? rest
      else none
    some (token, ← endLine? rest)
  else none

/-! ## Handles -/

def standardHandles : List (String × TagText) :=
  [("!", [some '!']), ("!!", standardTag "")]

def completeTag? (handles : List (String × TagText)) (handle : String) (suffix : TagText) :
    Option TagText :=
  if handle = "" then some suffix
  else (Entries.find? handle (handles ++ standardHandles)).map fun start => start ++ suffix

end NoteBase.Yaml
