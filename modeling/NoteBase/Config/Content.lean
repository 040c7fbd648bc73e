import NoteBase.Content.Collect
import NoteBase.Json.Reader
import NoteBase.Node

/-!
# Content trees in JSON

An object with a text under `path` is a document, and its other members are the document's
properties. Any other object is a folder: its member `_meta` describes the folder, and the others
are nodes again.
-/

namespace NoteBase

/-! ## Raw objects -/

def rawMembers? (node : Node) : Option (OrderedMap Json) :=
  node.mapping? Node.toJson?

def jsonOfRaw (members : OrderedMap Json) : Json :=
  .object members.entries

/-! ## Documents -/

namespace Document

def pathKey : String := "path"

/-- The document that a mapping stands for: there is one `path`, and it is a text. -/
def ofEntries? (entries : List (Node × Node)) : Option Document := do
  let members ← (Node.map entries).members?
  let path ← Node.required? Node.text? (← Node.member? pathKey members)
  let others := entries.filter fun entry => entry.1.text? ≠ some pathKey
  let properties ← rawMembers? (.map others)
  some ⟨path, properties⟩

def toJson (document : Document) : Json :=
  .object ((pathKey, .text document.path) :: document.properties.entries)

end Document

/-! ## Nodes -/

namespace ContentNode

/-- The description of a folder: absent or null, or one mapping. -/
def description? (entries : List (Node × Node)) : Option (Option (OrderedMap Json)) := do
  let members ← (Node.map entries).members?
  Node.defaulted? none (Node.option? rawMembers?) (← Node.member? descriptionKey members)

mutual

def ofNode? : Node → Option ContentNode
  | .map entries =>
    match Document.ofEntries? entries with
    | some found => some (.document found)
    | none => do
      let description ← description? entries
      let children ← childrenOf? entries
      some (.folder description (Entries.collect children))
  | _ => none

/-- The nodes under the keys of a mapping, without the description. -/
def childrenOf? : List (Node × Node) → Option (List (String × ContentNode))
  | [] => some []
  | (key, value) :: rest => do
    let name ← key.text?
    if name = descriptionKey then childrenOf? rest
    else
      let node ← ofNode? value
      let nodes ← childrenOf? rest
      some ((name, node) :: nodes)

end

mutual

def toJson : ContentNode → Json
  | .document leaf => leaf.toJson
  | .folder description children =>
    .object <|
      (match description with
        | some members => [(descriptionKey, jsonOfRaw members)]
        | none => []) ++ toMembers children

def toMembers : List (String × ContentNode) → List (String × Json)
  | [] => []
  | (key, node) :: rest => (key, toJson node) :: toMembers rest

end

/-- The nodes at the root that a mapping stands for. -/
def rootOf? : List (Node × Node) → Option (List (String × ContentNode))
  | [] => some []
  | (key, value) :: rest => do
    let name ← key.text?
    let node ← ofNode? value
    let nodes ← rootOf? rest
    some ((name, node) :: nodes)

end ContentNode

/-! ## Trees -/

namespace ContentTree

def ofNode? : Node → Option ContentTree
  | .map entries => (ContentNode.rootOf? entries).map fun nodes => ⟨Entries.collect nodes⟩
  | _ => none

def ofText? (text : String) : Option ContentTree :=
  (Node.ofJsonText? text).bind ofNode?

def toJson (tree : ContentTree) : Json :=
  .object (ContentNode.toMembers tree.nodes)

end ContentTree

/-! ## Hints -/

namespace PropertyHints

def ofNode? (node : Node) : Option PropertyHints :=
  node.mapping? fun node => node.variant?.map PropertyHint.ofName

def ofText? (text : String) : Option PropertyHints :=
  (Node.ofJsonText? text).bind ofNode?

/-- Reads hints from JSON text that holds them under `types`. -/
def ofFileText? (text : String) : Option PropertyHints := do
  let node ← Node.ofJsonText? text
  match ← node.fields? ["types"] with
  | [types] => Node.required? ofNode? types
  | _ => none

end PropertyHints

/-! ## Values and records -/

def Value.ofText? (text : String) : Option Value :=
  (Json.ofText? text).map Value.ofJson

def Record.ofText? (text : String) : Option Record :=
  (Node.ofJsonText? text).bind fun node =>
    node.mapping? fun node => (Node.toJson? node).map Value.ofJson

end NoteBase
