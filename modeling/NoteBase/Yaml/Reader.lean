import NoteBase.Yaml.Anchor
import NoteBase.Yaml.Lexer
import NoteBase.Yaml.Tree

/-!
# Reading YAML

The tokens of a text become the tree of one document, and the tree becomes a node as far as it is
taken. A missing key, value or item is null, and so is an empty text.
-/

namespace NoteBase

namespace Yaml

/-! ## State -/

/-- The tokens that are left, and what has been read. -/
structure ReadState where
  tokens : List Token
  /-- The places of the anchors that the next aliases stand for. -/
  aliases : List Nat
  anchorCount : Nat
  anchored : List (Nat × Tree)

namespace ReadState

def leaving (tokens : List Token) (state : ReadState) : ReadState :=
  { state with tokens }

def takeAlias? (state : ReadState) : Option (Tree × ReadState) :=
  match state.aliases with
  | place :: aliases => some (.alias place, { state with aliases })
  | [] => none

def isBefore (stops : List Token) (state : ReadState) : Bool :=
  state.tokens.head?.any stops.contains

/-- Passes the comma in front of a part, which is there unless this is the first one. -/
def behindComma? (first : Bool) (state : ReadState) : Option ReadState :=
  if first then some state
  else
    match state.tokens with
    | .flowEntry :: rest => some (state.leaving rest)
    | _ => none

end ReadState

/-! ## Properties -/

structure Properties where
  isAnchored : Bool
  tag : Option TagText
deriving DecidableEq

namespace Properties

def isEmpty (properties : Properties) : Bool :=
  properties == ⟨false, none⟩

/-- Takes an anchor and a tag from the front, in any order. The tag is complete. -/
def take : List Token → Properties × List Token
  | .anchor _ :: .tag _ tag :: rest => (⟨true, some tag⟩, rest)
  | .tag _ tag :: .anchor _ :: rest => (⟨true, some tag⟩, rest)
  | .anchor _ :: rest => (⟨true, none⟩, rest)
  | .tag _ tag :: rest => (⟨false, some tag⟩, rest)
  | rest => (⟨false, none⟩, rest)

end Properties

/-! ## Nodes -/

mutual

/-- Takes a node from the front. Block collections may be ruled out, and a sequence whose dashes are
not deeper than its key may be allowed. `fuel` bounds the number of steps. -/
def takeNode? : Nat → Bool → Bool → ReadState → Option (Tree × ReadState)
  | 0, _, _, _ => none
  | fuel + 1, block, shallow, state =>
    match state.tokens with
    | .alias _ :: rest => (state.leaving rest).takeAlias?
    | tokens => do
      let (properties, rest) := Properties.take tokens
      let state := state.leaving rest
      if properties.isAnchored then
        let place := state.anchorCount
        let (tree, state) ←
          takeContent? fuel block shallow properties { state with anchorCount := place + 1 }
        some (tree, { state with anchored := (place, tree) :: state.anchored })
      else takeContent? fuel block shallow properties state

/-- Takes a node from the front behind its properties. -/
def takeContent? : Nat → Bool → Bool → Properties → ReadState → Option (Tree × ReadState)
  | 0, _, _, _, _ => none
  | fuel + 1, block, shallow, properties, state =>
    let list (taken : Option (List Tree × ReadState)) : Option (Tree × ReadState) :=
      taken.map fun (items, state) => (.list properties.tag items, state)
    let map (taken : Option (List (Tree × Tree) × ReadState)) : Option (Tree × ReadState) :=
      taken.map fun (entries, state) => (.map properties.tag entries, state)
    let other : Option (Tree × ReadState) :=
      if properties.isEmpty then none else some (.scalar properties.tag .omitted, state)
    match state.tokens with
    | .scalar source :: rest => some (.scalar properties.tag source, state.leaving rest)
    | .flowSequenceStart :: rest => list (takeFlowItems? fuel true (state.leaving rest))
    | .flowMappingStart :: rest => map (takeFlowMembers? fuel true (state.leaving rest))
    | .blockSequenceStart :: rest =>
      if block then list (takeItems? fuel (state.leaving rest)) else other
    | .blockMappingStart :: rest =>
      if block then map (takeMembers? fuel (state.leaving rest)) else other
    | .blockEntry :: _ => if shallow then list (takeShallowItems? fuel state) else other
    | _ => other

/-- Takes a node from the front that may be absent in front of some tokens. -/
def takeOptional? : Nat → Bool → Bool → List Token → ReadState → Option (Tree × ReadState)
  | 0, _, _, _, _ => none
  | fuel + 1, block, shallow, stops, state =>
    if state.isBefore stops then some (.absent, state) else takeNode? fuel block shallow state

/-- Takes the items of a block sequence from the front, and its end. -/
def takeItems? : Nat → ReadState → Option (List Tree × ReadState)
  | 0, _ => none
  | fuel + 1, state =>
    match state.tokens with
    | .blockEntry :: rest => do
      let stops : List Token := [.blockEntry, .blockEnd]
      let (item, state) ← takeOptional? fuel true false stops (state.leaving rest)
      let (items, state) ← takeItems? fuel state
      some (item :: items, state)
    | .blockEnd :: rest => some ([], state.leaving rest)
    | _ => none

/-- Takes the items of a sequence from the front whose dashes are not deeper than its key. -/
def takeShallowItems? : Nat → ReadState → Option (List Tree × ReadState)
  | 0, _ => none
  | fuel + 1, state =>
    match state.tokens with
    | .blockEntry :: rest => do
      let stops : List Token := [.blockEntry, .key, .value, .blockEnd]
      let (item, state) ← takeOptional? fuel true false stops (state.leaving rest)
      let (items, state) ← takeShallowItems? fuel state
      some (item :: items, state)
    | _ => some ([], state)

/-- Takes the entries of a block mapping from the front, and its end. -/
def takeMembers? : Nat → ReadState → Option (List (Tree × Tree) × ReadState)
  | 0, _ => none
  | fuel + 1, state =>
    match state.tokens with
    | .key :: rest => do
      let stops : List Token := [.key, .value, .blockEnd]
      let (key, state) ← takeOptional? fuel true true stops (state.leaving rest)
      let (value, state) ← takeValue? fuel true stops state
      let (entries, state) ← takeMembers? fuel state
      some ((key, value) :: entries, state)
    | .blockEnd :: rest => some ([], state.leaving rest)
    | _ => none

/-- Takes the value behind a key from the front; there may be none. -/
def takeValue? : Nat → Bool → List Token → ReadState → Option (Tree × ReadState)
  | 0, _, _, _ => none
  | fuel + 1, block, stops, state =>
    match state.tokens with
    | .value :: rest => takeOptional? fuel block block stops (state.leaving rest)
    | _ => some (.absent, state)

/-- Takes the items of a flow sequence from the front, and its closing bracket. A pair of a key and
a value stands for a mapping. Where the key of a pair is missing, the token in its place is passed
over. -/
def takeFlowItems? : Nat → Bool → ReadState → Option (List Tree × ReadState)
  | 0, _, _ => none
  | fuel + 1, first, state =>
    match state.tokens with
    | .flowSequenceEnd :: rest => some ([], state.leaving rest)
    | _ => do
      let state ← state.behindComma? first
      match state.tokens with
      | .flowSequenceEnd :: rest => some ([], state.leaving rest)
      | .key :: rest =>
        let state := state.leaving rest
        let (key, state) ←
          if state.isBefore [.value, .flowEntry, .flowSequenceEnd] then
            some (.absent, state.leaving rest.tail)
          else takeNode? fuel false false state
        let (value, state) ← takeValue? fuel false [.flowEntry, .flowSequenceEnd] state
        let (items, state) ← takeFlowItems? fuel false state
        some (.map none [(key, value)] :: items, state)
      | _ =>
        let (item, state) ← takeNode? fuel false false state
        let (items, state) ← takeFlowItems? fuel false state
        some (item :: items, state)

/-- Takes the entries of a flow mapping from the front, and its closing brace. A node without a
colon is a key. -/
def takeFlowMembers? : Nat → Bool → ReadState → Option (List (Tree × Tree) × ReadState)
  | 0, _, _ => none
  | fuel + 1, first, state =>
    match state.tokens with
    | .flowMappingEnd :: rest => some ([], state.leaving rest)
    | _ => do
      let state ← state.behindComma? first
      match state.tokens with
      | .flowMappingEnd :: rest => some ([], state.leaving rest)
      | .key :: rest =>
        let stops : List Token := [.value, .flowEntry, .flowMappingEnd]
        let (key, state) ← takeOptional? fuel false false stops (state.leaving rest)
        let (value, state) ← takeValue? fuel false [.flowEntry, .flowMappingEnd] state
        let (entries, state) ← takeFlowMembers? fuel false state
        some ((key, value) :: entries, state)
      | _ =>
        let (key, state) ← takeNode? fuel false false state
        let (entries, state) ← takeFlowMembers? fuel false state
        some ((key, .absent) :: entries, state)

end

/-! ## Directives -/

structure Directives where
  hasVersion : Bool
  handles : List (String × TagText)

/-- Takes the directives of a document from the front. There is at most one version, which is 1.1 or
1.2, and at most one definition of a handle. -/
def takeDirectives? (found : Directives) : List Token → Option (Directives × List Token)
  | .versionDirective major minor :: rest =>
    if found.hasVersion ∨ major ≠ 1 ∨ (minor ≠ 1 ∧ minor ≠ 2) then none
    else takeDirectives? { found with hasVersion := true } rest
  | .tagDirective handle start :: rest =>
    if (Entries.find? handle found.handles).isSome then none
    else takeDirectives? { found with handles := found.handles ++ [(handle, start)] } rest
  | rest => some (found, rest)

def completeToken? (handles : List (String × TagText)) (token : Token) : Option Token :=
  match token with
  | .tag handle suffix => (completeTag? handles handle suffix).map (.tag "")
  | token => some token

/-! ## Documents -/

def stepsFor (tokens : List Token) : Nat :=
  4 * tokens.length + 4

/-- The document of these tokens, and the tokens behind it. -/
def takeRoot? (tokens : List Token) : Option (Document × List Token) := do
  let aliases ← aliasPlaces? tokens
  let (root, state) ← takeNode? (stepsFor tokens) true false ⟨tokens, aliases, 0, []⟩
  some (⟨root, state.anchored⟩, state.tokens)

/-- Takes a document from the front, and gives the tokens behind it. The document may have
directives, which end with a mark, and otherwise may have a mark at its start. -/
def takeDocument? (tokens : List Token) : Option (Document × List Token) := do
  let (directives, rest) ← takeDirectives? ⟨false, []⟩ tokens
  let (marked, rest) := match rest with
    | .documentStart :: rest => (true, rest)
    | rest => (false, rest)
  if !marked && (directives.hasVersion || !directives.handles.isEmpty) then none
  else if rest.isEmpty || (marked && rest.head? == some .documentEnd) then
    some (⟨.absent, []⟩, rest)
  else takeRoot? (← rest.mapM (completeToken? directives.handles))

/-- The document of a text, which has to be the only one. -/
def ofChars? (chars : List Char) : Option Document := do
  let (document, rest) ← takeDocument? (← tokens? chars)
  if rest.all (· == .documentEnd) then some document else none

end Yaml

/-- Reads the one document of a YAML text as far as it is taken. -/
def Node.ofYamlText? (outline : Outline) (text : String) : Option Node :=
  (Yaml.ofChars? text.toList).bind (Yaml.Document.toNode? outline)

end NoteBase
