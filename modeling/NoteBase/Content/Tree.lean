import NoteBase.Json.Basic
import NoteBase.OrderedMap
import NoteBase.Text.Search

/-!
# Content trees

The notes of a collection as a tree of folders and documents. A document is found by its address,
the keys on the way to it with slashes between them.
-/

namespace NoteBase

/-- A note: the path of its file and its properties. -/
structure Document where
  path : String
  properties : OrderedMap Json

inductive ContentNode where
  | document (document : Document)
  /-- A folder with an optional description and its nodes by key. -/
  | folder (description : Option (OrderedMap Json)) (children : List (String × ContentNode))

structure ContentTree where
  nodes : List (String × ContentNode)

namespace ContentTree

def keys (tree : ContentTree) : List String :=
  Entries.keys tree.nodes

def documentAt (nodes : List (String × ContentNode)) : List String → Option Document
  | [] => none
  | key :: rest =>
    match Entries.find? key nodes, rest with
    | some (.document document), [] => some document
    | some (.folder _ children), _ :: _ => documentAt children rest
    | _, _ => none

/-- The keys of an address; slashes at both ends do not count. -/
def segments (address : String) : List String :=
  let isSlash := fun char : Char => char == '/'
  let trimmed := ((address.toList.dropWhile isSlash).reverse.dropWhile isSlash).reverse
  (Text.pieces ['/'] trimmed).map String.ofList

def document? (tree : ContentTree) (address : String) : Option Document :=
  documentAt tree.nodes (segments address)

end ContentTree

end NoteBase
