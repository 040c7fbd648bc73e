import NoteBase.Content.Hint
import NoteBase.Content.Tree
import NoteBase.Record
import NoteBase.Value.Json

/-!
# Collecting records

Every document of a tree becomes one record, in the order of the tree. Nodes under the keys of
folder descriptions and index pages are passed over.
-/

namespace NoteBase

def descriptionKey : String := "_meta"

def indexKey : String := "index"

/-! ## One document -/

namespace Document

def titleKey : String := "title"

/-- The name of a note: its title if that is truthy, and its key otherwise. -/
def nameOf (document : Document) (key : String) : Value :=
  match document.properties.get? titleKey with
  | some title => if (Value.ofJson title).isTruthy then Value.ofJson title else .text key
  | none => .text key

/-- The properties that say where a note is found. -/
def identity (document : Document) (key address : String) : List (String × Value) :=
  [(Record.fileName, document.nameOf key),
   (Record.filePath, .text document.path),
   (Record.fileFullName, .text (String.ofList (Record.behindLast '/' document.path.toList))),
   (Record.fileUrl, .text ("/" ++ address))]

/-- The value of a property, converted if there are hints. -/
def propertyValue (hints : Option PropertyHints) (property : String) (json : Json) : Value :=
  match hints with
  | some hints => hints.convert property (Value.ofJson json)
  | none => Value.ofJson json

/-- The record of a document. Its own properties replace those that say where it is found. -/
def toRecord (hints : Option PropertyHints) (document : Document) (key address : String) : Record :=
  OrderedMap.ofList <| document.identity key address ++
    document.properties.entries.map fun (property, json) =>
      (property, propertyValue hints property json)

end Document

/-! ## All documents -/

def addressIn (folder key : String) : String :=
  if folder = "" then key else folder ++ "/" ++ key

def isPassedOver (key : String) : Bool :=
  key = descriptionKey || key = indexKey

mutual

def collectNodes (hints : Option PropertyHints) (folder : String) :
    List (String × ContentNode) → List Record
  | [] => []
  | (key, node) :: rest =>
    (if isPassedOver key then [] else collectNode hints key (addressIn folder key) node) ++
      collectNodes hints folder rest

def collectNode (hints : Option PropertyHints) (key address : String) :
    ContentNode → List Record
  | .document document => [document.toRecord hints key address]
  | .folder _ children => collectNodes hints address children

end

/-- The records of all documents of a tree, converted if there are hints. -/
def ContentTree.records (hints : Option PropertyHints) (tree : ContentTree) : List Record :=
  collectNodes hints "" tree.nodes

end NoteBase
