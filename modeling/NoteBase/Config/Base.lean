import NoteBase.Base
import NoteBase.Config.Content
import NoteBase.Config.Formulas
import NoteBase.Config.View
import NoteBase.Yaml.Reader

/-!
# Bases in configuration

A base has the fields `filters`, `formulas` and `views`, and may be given as a list of the three. It
is read from JSON, from YAML, or from the properties of a document in a content tree.
-/

namespace NoteBase.BaseConfig

/-! ## Reading a node -/

def fieldNames : List String :=
  ["filters", "formulas", "views"]

def outline : Outline :=
  .fields [("filters", .whole), ("formulas", .whole), ("views", .items ViewSpec.outline)] false

def ofNode? (node : Node) : Option BaseConfig := do
  match ← node.fields? fieldNames with
  | [filters, formulas, views] =>
    let filters ← Node.defaulted? none (Node.option? FilterSpec.ofNode?) filters
    let formulas ← Node.defaulted? none (Node.option? Formulas.ofNode?) formulas
    let views ← Node.defaulted? [] (Node.list? ViewSpec.ofNode?) views
    some ⟨filters, formulas, views⟩
  | _ => none

/-! ## Sources -/

def ofJsonText (text : String) : Except BaseError BaseConfig :=
  match (Node.ofJsonText? text).bind ofNode? with
  | some base => .ok base
  | none => .error .json

def ofYamlText (text : String) : Except BaseError BaseConfig :=
  match (Node.ofYamlText? outline text).bind ofNode? with
  | some base => .ok base
  | none => .error .yaml

/-- The base that the properties of a document give. -/
def ofDocument (document : Document) : Except BaseError BaseConfig :=
  let members := fieldNames.filterMap fun name =>
    (document.properties.get? name).map fun value => (name, value)
  match ofNode? (Node.ofJson (.object members)) with
  | some base => .ok base
  | none => .error .json

def ofTree (tree : ContentTree) (address : String) : Except BaseError BaseConfig :=
  match tree.document? address with
  | some document => ofDocument document
  | none => .error (.documentNotFound address)

/-! ## Files -/

/-- What stands behind the last point of the name of a file. A point in front of everything else
does not count. -/
def extension? (name : List Char) : Option String :=
  let behind := Record.behindLast '.' name
  if behind.length + 1 < name.length ∧ name ≠ ['.', '.'] then some (String.ofList behind) else none

/-- Reads a base from the text of the file at a path. The extension `json` stands for JSON, and any
other for YAML. -/
def ofFile (path text : String) : Except BaseError BaseConfig :=
  if extension? (Record.behindLast '/' path.toList) = some "json" then ofJsonText text
  else ofYamlText text

/-! ## Writing -/

def toJson (base : BaseConfig) : Json :=
  .object <|
    ViewSpec.optionalMember "filters" FilterSpec.toJson base.filters ++
    ViewSpec.optionalMember "formulas" Formulas.toJson base.formulas ++
    [("views", .array (base.views.map ViewSpec.toJson))]

end NoteBase.BaseConfig
