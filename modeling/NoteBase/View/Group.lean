import NoteBase.View.Spec

/-!
# Grouping records

Records are grouped by the text of a property. Within a group they keep their order, and the groups
are ordered by their keys.
-/

namespace NoteBase

/-- The key of the group of records whose property is missing or not truthy. -/
def ungrouped : String := "Ungrouped"

/-- The key of the group that a record belongs to. -/
def groupKey (property : String) (record : Record) : String :=
  match record.lookup property with
  | some value => if value.isTruthy then value.display else ungrouped
  | none => ungrouped

def addToGroup (property : String) (groups : OrderedMap (List Record)) (record : Record) :
    OrderedMap (List Record) :=
  let key := groupKey property record
  groups.insert key ((groups.get? key).getD [] ++ [record])

/-- The groups in the order in which their keys first come. -/
def collectGroups (property : String) (records : List Record) : OrderedMap (List Record) :=
  records.foldl (addToGroup property) OrderedMap.empty

def GroupSpec.compareKeys (group : GroupSpec) (left right : String) : Ordering :=
  group.direction.apply (Text.collate left right)

/-- The groups of records in the order of their keys. -/
def groupRecords (group : GroupSpec) (records : List Record) : List (String × List Record) :=
  (collectGroups group.property records).entries.mergeSort fun left right =>
    (group.compareKeys left.1 right.1).isLE

end NoteBase
