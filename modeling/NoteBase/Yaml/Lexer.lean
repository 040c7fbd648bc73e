import NoteBase.Yaml.Block
import NoteBase.Yaml.Plain
import NoteBase.Yaml.Quoted
import NoteBase.Yaml.Tag

/-!
# Lexing YAML

A document becomes tokens from left to right. A key is only known by the colon behind it, so the
place of every scalar and flow collection that may turn out to be a key is kept until then. It has
to stand in one line with its colon.
-/

namespace NoteBase.Yaml

/-! ## State -/

structure KeyPlace where
  count : Nat
  line : Nat
  column : Nat
  offset : Nat
  isRequired : Bool
deriving DecidableEq

structure LexState where
  tokens : List Token
  /-- The columns of the open block collections, the innermost first. -/
  columns : List Nat
  /-- What may be a key in the innermost collection. -/
  keyPlace : Option KeyPlace
  /-- The same for the collections around the open flow collections, the innermost first. -/
  outerPlaces : List (Option KeyPlace)
  keyAllowed : Bool

namespace LexState

def initial : LexState := ⟨[], [], none, [], true⟩

def inFlow (state : LexState) : Bool :=
  !state.outerPlaces.isEmpty

def add (token : Token) (state : LexState) : LexState :=
  { state with tokens := token :: state.tokens }

/-- Adds tokens, given from left to right, behind the first tokens. -/
def addAt (count : Nat) (added : List Token) (state : LexState) : LexState :=
  let later := state.tokens.length - count
  { state with
    tokens := state.tokens.take later ++ added.reverse ++ state.tokens.drop later }

/-! ### Block collections -/

/-- A column is deeper than the innermost block collection. -/
def isDeeper (column : Nat) (state : LexState) : Bool :=
  state.columns.head?.all fun innermost => innermost < column

/-- Ends the block collections whose column does not satisfy a condition. -/
def endBlocks (keep : Nat → Bool) (state : LexState) : LexState :=
  if state.inFlow then state
  else
    let ended := state.columns.takeWhile fun column => !keep column
    { state with
      tokens := List.replicate ended.length .blockEnd ++ state.tokens
      columns := state.columns.dropWhile fun column => !keep column }

/-- Opens a block collection at a column unless it is open. Its start goes behind the first
tokens. -/
def openBlock (column count : Nat) (start : Token) (state : LexState) : LexState :=
  if !state.inFlow && state.isDeeper column then
    { state.addAt count [start] with columns := column :: state.columns }
  else state

def openBlockHere (column : Nat) (start : Token) (state : LexState) : LexState :=
  state.openBlock column state.tokens.length start

/-! ### Keys -/

/-- What may have been a key is none. It must not be required. -/
def dropKey? (state : LexState) : Option LexState :=
  if state.keyPlace.any KeyPlace.isRequired then none
  else some { state with keyPlace := none }

def saveKey? (glyph : Glyph) (state : LexState) : Option LexState :=
  if state.keyAllowed then
    let isRequired := !state.inFlow && state.columns.head? == some glyph.column
    let place : KeyPlace :=
      ⟨state.tokens.length, glyph.line, glyph.column, glyph.offset, isRequired⟩
    state.dropKey?.map fun state => { state with keyPlace := some place }
  else some state

def maxKeyLength : Nat := 1024

/-- A key that starts at a place cannot have its colon here. -/
def isStale (glyph : Glyph) (place : KeyPlace) : Bool :=
  place.line < glyph.line || place.offset + maxKeyLength < glyph.offset

/-- Drops a place that is too far away; it must not be required. -/
def freshPlace? (glyph : Glyph) (place : Option KeyPlace) : Option (Option KeyPlace) :=
  match place with
  | none => some none
  | some place =>
    if isStale glyph place then (if place.isRequired then none else some none)
    else some (some place)

def dropStale? (glyph : Glyph) (state : LexState) : Option LexState := do
  let keyPlace ← freshPlace? glyph state.keyPlace
  let outerPlaces ← state.outerPlaces.mapM (freshPlace? glyph)
  some { state with keyPlace, outerPlaces }

/-! ## One token -/

def documentMark? (token : Token) (state : LexState) : Option LexState :=
  (state.endBlocks fun _ => false).dropKey?.map fun state =>
    { state.add token with keyAllowed := false }

def directive? (rest : List Glyph) (state : LexState) : Option (LexState × List Glyph) := do
  let (token, rest) ← takeDirective? rest
  let state ← state.documentMark? token
  some (state, rest)

def openFlow? (glyph : Glyph) (token : Token) (state : LexState) : Option LexState :=
  (state.saveKey? glyph).map fun state =>
    { state.add token with
      keyPlace := none
      outerPlaces := state.keyPlace :: state.outerPlaces
      keyAllowed := true }

def closeFlow? (token : Token) (state : LexState) : Option LexState :=
  state.dropKey?.map fun state =>
    { state.add token with
      keyPlace := state.outerPlaces.head?.getD none
      outerPlaces := state.outerPlaces.tail
      keyAllowed := false }

def flowEntry? (state : LexState) : Option LexState :=
  state.dropKey?.map fun state => { state.add .flowEntry with keyAllowed := true }

def blockEntry? (glyph : Glyph) (state : LexState) : Option LexState :=
  if !state.inFlow && !state.keyAllowed then none
  else
    (state.openBlockHere glyph.column .blockSequenceStart).dropKey?.map fun state =>
      { state.add .blockEntry with keyAllowed := true }

def key? (glyph : Glyph) (state : LexState) : Option LexState :=
  if !state.inFlow && !state.keyAllowed then none
  else
    (state.openBlockHere glyph.column .blockMappingStart).dropKey?.map fun state =>
      { state.add .key with keyAllowed := !state.inFlow }

/-- A colon. If there is something that may be a key, it is one. -/
def value? (glyph : Glyph) (state : LexState) : Option LexState :=
  match state.keyPlace with
  | some place =>
    let state := state.addAt place.count [.key]
    let state := state.openBlock place.column place.count .blockMappingStart
    some { state.add .value with keyPlace := none, keyAllowed := false }
  | none =>
    if !state.inFlow && !state.keyAllowed then none
    else
      let state := state.openBlockHere glyph.column .blockMappingStart
      some { state.add .value with keyAllowed := !state.inFlow }

def keyStart? (glyph : Glyph) (token : Token) (state : LexState) : Option LexState :=
  (state.saveKey? glyph).map fun state => { state.add token with keyAllowed := false }

def named? (glyph : Glyph) (token : String → Token) (rest : List Glyph) (state : LexState) :
    Option (LexState × List Glyph) := do
  let (name, rest) ← takeAnchor? rest
  let state ← state.keyStart? glyph (token name)
  some (state, rest)

def tag? (glyph : Glyph) (rest : List Glyph) (state : LexState) :
    Option (LexState × List Glyph) := do
  let (token, rest) ← takeTag? state.inFlow (glyph :: rest)
  let state ← state.keyStart? glyph token
  some (state, rest)

def quoted? (glyph : Glyph) (taken : Option (List Char × List Glyph)) (state : LexState) :
    Option (LexState × List Glyph) := do
  let (chars, rest) ← taken
  let state ← state.keyStart? glyph (.scalar ⟨String.ofList chars, false⟩)
  some (state, rest)

def block? (folded : Bool) (rest : List Glyph) (state : LexState) :
    Option (LexState × List Glyph) := do
  let (chars, rest) ← takeBlock? state.columns.head? folded rest
  let state ← state.dropKey?
  some ({ state.add (.scalar ⟨String.ofList chars, false⟩) with keyAllowed := true }, rest)

/-- A plain scalar. A key may start behind it if a line break follows. -/
def plain? (glyph : Glyph) (rest : List Glyph) (state : LexState) :
    Option (LexState × List Glyph) := do
  let indent := match state.columns.head? with
    | some column => column + 1
    | none => 0
  let taken ← takePlain? state.inFlow indent [] .empty (glyph :: rest)
  let state ← state.keyStart? glyph (.scalar ⟨String.ofList taken.chars, true⟩)
  some ({ state with keyAllowed := taken.isBroken }, taken.rest)

/-- The characters that no plain scalar starts with. -/
def isReserved (char : Char) : Bool :=
  isBlank char || ['#', '&', '*', '!', '|', '>', '\'', '"', '%', '@', '\x60'].contains char

def next? (glyph : Glyph) (rest : List Glyph) (state : LexState) :
    Option (LexState × List Glyph) :=
  let char := glyph.char
  let only (state : Option LexState) := state.map fun state => (state, rest)
  if glyph.column = 0 ∧ char = '%' then state.directive? rest
  else if glyph.column = 0 ∧ atTriple '-' (glyph :: rest) then
    (state.documentMark? .documentStart).map fun state => (state, rest.drop 2)
  else if glyph.column = 0 ∧ atTriple '.' (glyph :: rest) then
    (state.documentMark? .documentEnd).map fun state => (state, rest.drop 2)
  else if char = '[' then only (state.openFlow? glyph .flowSequenceStart)
  else if char = '{' then only (state.openFlow? glyph .flowMappingStart)
  else if char = ']' then only (state.closeFlow? .flowSequenceEnd)
  else if char = '}' then only (state.closeFlow? .flowMappingEnd)
  else if char = ',' then only state.flowEntry?
  else if char = '-' ∧ atWordEnd rest then only (state.blockEntry? glyph)
  else if char = '?' ∧ (state.inFlow ∨ atWordEnd rest) then only (state.key? glyph)
  else if char = ':' ∧ (state.inFlow ∨ atWordEnd rest) then only (state.value? glyph)
  else if char = '*' then state.named? glyph .alias rest
  else if char = '&' then state.named? glyph .anchor rest
  else if char = '!' then state.tag? glyph rest
  else if char = '|' ∧ !state.inFlow then state.block? false rest
  else if char = '>' ∧ !state.inFlow then state.block? true rest
  else if char = '\'' then state.quoted? glyph (takeSingle? [] .empty rest)
  else if char = '"' then state.quoted? glyph (takeDouble? [] .empty rest)
  else if isReserved char then none
  else state.plain? glyph rest

/-! ## All tokens -/

/-- The mark of the byte order, which is passed over at the start of a line. -/
def byteOrderMark : Char := '\ufeff'

/-- Goes to the next token, over blanks, line breaks and comments. Outside of flow collections a key
may start in a new line, and no tab may stand in front of it. -/
def toNext (inComment : Bool) (state : LexState) : List Glyph → LexState × List Glyph
  | [] => (state, [])
  | glyph :: rest =>
    if isBreak glyph.char then
      toNext false { state with keyAllowed := state.keyAllowed || !state.inFlow } rest
    else if inComment || glyph.char = '#' then toNext true state rest
    else if glyph.char = ' ' || (glyph.char = '\t' && (state.inFlow || !state.keyAllowed)) ||
        (glyph.char = byteOrderMark && glyph.column = 0) then
      toNext false state rest
    else (state, glyph :: rest)

/-- The tokens from left to right once everything has been read. -/
def finish? (state : LexState) : Option (List Token) :=
  (state.endBlocks fun _ => false).dropKey?.map fun state => state.tokens.reverse

/-- Reads all tokens. Each step takes at least one character; `fuel` bounds their number. -/
def run? : Nat → LexState → List Glyph → Option (List Token)
  | 0, _, _ => none
  | fuel + 1, state, glyphs =>
    match state.toNext false glyphs with
    | (state, []) => state.finish?
    | (state, glyph :: rest) => do
      let state ← state.dropStale? glyph
      let (state, rest) ← (state.endBlocks (· ≤ glyph.column)).next? glyph rest
      run? fuel state rest

end LexState

def tokens? (chars : List Char) : Option (List Token) :=
  if chars.all isAllowed then LexState.run? (chars.length + 1) .initial (place chars) else none

end NoteBase.Yaml
