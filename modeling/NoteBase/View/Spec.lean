import NoteBase.Filter
import NoteBase.Json.Basic

/-!
# View specifications

What a view shows of its records: which pass, in which order, in which groups, with which columns
and summaries.
-/

namespace NoteBase

inductive SortDirection where
  | ascending
  | descending
deriving DecidableEq

/-- Turns an order around if the direction is the descending one. -/
def SortDirection.apply (direction : SortDirection) (ordering : Ordering) : Ordering :=
  match direction with
  | .ascending => ordering
  | .descending => ordering.swap

structure SortRule where
  property : String
  direction : SortDirection
deriving DecidableEq

/-- A grouping by one property, and the order of the groups. -/
structure GroupSpec where
  property : String
  direction : SortDirection
deriving DecidableEq

structure ViewSpec where
  type : Option String
  name : Option String
  filters : Option FilterSpec
  order : Option (List String)
  properties : Option (List String)
  sort : List SortRule
  groupBy : Option GroupSpec
  /-- The name of the aggregation of each summarized column. -/
  summaries : Option (OrderedMap String)
  indentProperties : Option Json
  extra : OrderedMap Json

def ViewSpec.defaultType : String := "table"

end NoteBase
