import NoteBase.Config.Filter
import NoteBase.Outline
import NoteBase.View.Apply

/-!
# Views in configuration, and their results in JSON

A view has named fields, all of which may be absent; other keys are kept in order. A sort rule and a
grouping have a property and a direction, and may be given as a list of the two.
-/

namespace NoteBase

/-! ## Directions, sort rules and groupings -/

namespace SortDirection

def ofName? (name : String) : Option SortDirection :=
  if name = "ASC" ∨ name = "asc" then some .ascending
  else if name = "DESC" ∨ name = "desc" then some .descending
  else none

def name : SortDirection → String
  | .ascending => "ASC"
  | .descending => "DESC"

def ofNode? (node : Node) : Option SortDirection :=
  node.variant?.bind ofName?

/-- The property and the direction that a node gives. The direction is ascending if it is absent. -/
def withProperty? (node : Node) : Option (String × SortDirection) := do
  match ← node.fields? ["property", "direction"] with
  | [property, direction] =>
    let property ← Node.required? Node.text? property
    let direction ← Node.defaulted? .ascending ofNode? direction
    some (property, direction)
  | _ => none

/-- The parts of a property and a direction that are taken. -/
def outlineWithProperty : Outline :=
  .fields [("property", .whole), ("direction", .whole)] false

def jsonWithProperty (property : String) (direction : SortDirection) : Json :=
  .object [("property", .text property), ("direction", .text direction.name)]

end SortDirection

def SortRule.ofNode? (node : Node) : Option SortRule :=
  (SortDirection.withProperty? node).map fun (property, direction) => ⟨property, direction⟩

def SortRule.toJson (rule : SortRule) : Json :=
  rule.direction.jsonWithProperty rule.property

def GroupSpec.ofNode? (node : Node) : Option GroupSpec :=
  (SortDirection.withProperty? node).map fun (property, direction) => ⟨property, direction⟩

def GroupSpec.toJson (group : GroupSpec) : Json :=
  group.direction.jsonWithProperty group.property

/-! ## Views -/

namespace ViewSpec

def fieldNames : List String :=
  ["type", "name", "filters", "order", "properties", "sort", "groupBy", "summaries",
   "indentProperties"]

def optionalField? {Part : Type} (part? : Node → Option Part) (name : String)
    (members : List (String × Node)) : Option (Option Part) := do
  Node.defaulted? none (Node.option? part?) (← Node.member? name members)

/-- The keys that are no fields, with their values. -/
def extra? (members : List (String × Node)) : Option (OrderedMap Json) := do
  let others := members.filter fun member => !fieldNames.contains member.1
  let values ← others.mapM fun (key, node) =>
    (node.settle?.bind Node.toJson?).map fun json => (key, json)
  some (OrderedMap.ofList values)

/-- The parts of a view that are taken: of sort rules and the grouping only their fields. -/
def outline : Outline :=
  .fields [("sort", .items SortDirection.outlineWithProperty),
    ("groupBy", SortDirection.outlineWithProperty)] true

def ofNode? (node : Node) : Option ViewSpec := do
  let members ← node.members?
  let type ← optionalField? Node.text? "type" members
  let name ← optionalField? Node.text? "name" members
  let filters ← optionalField? FilterSpec.ofNode? "filters" members
  let order ← optionalField? (Node.list? Node.text?) "order" members
  let properties ← optionalField? (Node.list? Node.text?) "properties" members
  let sort ← Node.defaulted? [] (Node.list? SortRule.ofNode?) (← Node.member? "sort" members)
  let groupBy ← optionalField? GroupSpec.ofNode? "groupBy" members
  let summaries ← optionalField? (Node.mapping? Node.text?) "summaries" members
  let indentProperties ← optionalField? Node.toJson? "indentProperties" members
  let extra ← extra? members
  some { type, name, filters, order, properties, sort, groupBy, summaries, indentProperties, extra }

/-- A member of an object that is written only if it is there. -/
def optionalMember {Part : Type} (key : String) (json : Part → Json) (part : Option Part) :
    List (String × Json) :=
  match part with
  | none => []
  | some part => [(key, json part)]

def jsonOfTexts (texts : OrderedMap String) : Json :=
  .object (texts.entries.map fun (key, value) => (key, .text value))

def toJson (view : ViewSpec) : Json :=
  .object <|
    optionalMember "type" .text view.type ++
    optionalMember "name" .text view.name ++
    optionalMember "filters" FilterSpec.toJson view.filters ++
    optionalMember "order" .texts view.order ++
    optionalMember "properties" .texts view.properties ++
    (if view.sort.isEmpty then [] else [("sort", .array (view.sort.map SortRule.toJson))]) ++
    optionalMember "groupBy" GroupSpec.toJson view.groupBy ++
    optionalMember "summaries" jsonOfTexts view.summaries ++
    optionalMember "indentProperties" id view.indentProperties ++
    view.extra.entries

end ViewSpec

/-! ## Results -/

def Record.toJson (record : Record) : Json :=
  .object (record.entries.map fun (key, value) => (key, value.toJson))

namespace ViewRow

def markerKey : String := "__isGroupHeader"

def groupKeyKey : String := "__groupKey"

/-- A row in JSON. A header also has the key of its group under the name of the property, unless
that is one of the other two keys. -/
def toJson : ViewRow → Json
  | .entry record => record.toJson
  | .header key property =>
    .object <|
      [(markerKey, .bool true), (groupKeyKey, .text key)] ++
        if property = markerKey ∨ property = groupKeyKey then [] else [(property, .text key)]

end ViewRow

namespace ViewResult

/-- A summary in JSON, which is null if there is none. -/
def jsonOfSummary (summary : Option Float) : Json :=
  match summary with
  | some number => .float number
  | none => .null

def jsonOfSummaries (summaries : List (String × OrderedMap (Option Float))) : Json :=
  .object <| summaries.map fun (key, columns) =>
    (key, .object (columns.entries.map fun (column, summary) => (column, jsonOfSummary summary)))

/-- A part in JSON, which is null if it is absent. -/
def jsonOrNull {Part : Type} (json : Part → Json) (part : Option Part) : Json :=
  match part with
  | some part => json part
  | none => .null

def toJson (result : ViewResult) : Json :=
  .object <|
    ViewSpec.optionalMember "name" .text result.name ++
    [("columns", .texts result.columns),
     ("data", .array (result.rows.map ViewRow.toJson)),
     ("summaries", jsonOfSummaries result.summaries),
     ("viewType", .text result.type),
     ("groupBy", jsonOrNull GroupSpec.toJson result.groupBy),
     ("indentProperties", jsonOrNull id result.indentProperties)] ++
    result.extra.entries

end ViewResult

end NoteBase
