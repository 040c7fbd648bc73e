import NoteBase.View.Group
import NoteBase.View.Sort
import NoteBase.View.Summary

/-!
# Applying views

A view filters records, sorts them, groups them and summarizes the groups. The result holds the rows
in order, with a header in front of each group.
-/

namespace NoteBase

open Calendar (Moment)

inductive ViewRow where
  | header (key property : String)
  | entry (record : Record)

namespace ViewRow

def record? : ViewRow → Option Record
  | .header _ _ => none
  | .entry record => some record

def isHeader : ViewRow → Bool
  | .header _ _ => true
  | .entry _ => false

end ViewRow

structure ViewResult where
  name : Option String
  columns : List String
  rows : List ViewRow
  summaries : List (String × OrderedMap (Option Float))
  type : String
  groupBy : Option GroupSpec
  indentProperties : Option Json
  extra : OrderedMap Json

/-- The records of a result in order, without the headers. -/
def ViewResult.records (result : ViewResult) : List Record :=
  result.rows.filterMap ViewRow.record?

/-- The keys of a result that are computed; a key that is passed on is none of these. -/
def resultKeys : List String :=
  ["name", "columns", "data", "summaries", "viewType", "groupBy", "indentProperties"]

/-- The rows of groups: each group's header, and its records. -/
def rowsOfGroups (property : String) (groups : List (String × List Record)) : List ViewRow :=
  groups.flatMap fun (key, records) => .header key property :: records.map .entry

namespace ViewSpec

/-- The columns: those in order, or else the properties, or else the keys of the first record. -/
def columns (view : ViewSpec) (records : List Record) : List String :=
  match view.order with
  | some order => order
  | none =>
    match view.properties with
    | some properties => properties
    | none =>
      match records with
      | [] => []
      | first :: _ => first.keys

def select (now : Moment) (view : ViewSpec) (records : List Record) : List Record :=
  let passing := FilterSpec.filterRecords now view.filters records
  if view.sort.isEmpty then passing else sortRecords view.sort passing

/-- The rows and the summaries of records that are selected already. -/
def arrange (view : ViewSpec) (records : List Record) :
    List ViewRow × List (String × OrderedMap (Option Float)) :=
  match view.groupBy with
  | none => (records.map .entry, [])
  | some group =>
    let groups := groupRecords group records
    let summaries := match view.summaries with
      | some spec => summarize spec groups
      | none => []
    (rowsOfGroups group.property groups, summaries)

def apply (now : Moment) (view : ViewSpec) (records : List Record) : ViewResult :=
  let selected := view.select now records
  let arranged := view.arrange selected
  { name := view.name
    columns := view.columns selected
    rows := arranged.1
    summaries := arranged.2
    type := view.type.getD defaultType
    groupBy := view.groupBy
    indentProperties := view.indentProperties
    extra := view.extra.filterKeys fun key => !resultKeys.contains key }

end ViewSpec

end NoteBase
