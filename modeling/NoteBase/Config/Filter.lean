import NoteBase.Filter
import NoteBase.Node
import NoteBase.Value.Json

/-!
# Filters in configuration

A filter is read by its shape: a text is a predicate, a list is a bare list of filters, and a
mapping is a combinator if it has one of the keys `and`, `or` and `not` with a list of filters. Any
other mapping gives properties with their values.
-/

namespace NoteBase.FilterSpec

/-! ## Reading -/

/-- The keys of the combinators, in the order in which they are tried. -/
def combinators : List (String × (List FilterSpec → FilterSpec)) :=
  [("and", .and), ("or", .or), ("not", .not)]

/-- The combinator that a mapping stands for. Its key is there once and holds a list of filters; as
the only field of a structure it may also be given by its place. -/
def combinator? (branches : List (Node.FieldKey × Option (List FilterSpec))) : Option FilterSpec :=
  combinators.findSome? fun (key, combine) =>
    match Node.field? key 0 branches with
    | some (some (some filters)) => some (combine filters)
    | _ => none

/-- The properties that a mapping gives, with their values. -/
def expected? (entries : List (Node × Node)) : Option (OrderedMap Value) :=
  (Node.map entries).mapping? fun node => (Node.toJson? node).map Value.ofJson

mutual

def ofSettled? : Node → Option FilterSpec
  | .scalar atom => atom.text.map .expression
  | .list _ items => (ofItems? items).map .all
  | .map entries =>
    match branches? entries with
    | some branches =>
      match combinator? branches with
      | some filter => some filter
      | none => (expected? entries).map .equals
    | none => none
  | .tagged _ _ => none

/-- The filters that the items of a list stand for. -/
def ofItems? : List Node → Option (List FilterSpec)
  | [] => some []
  | item :: rest => do
    let filter ← ofSettled? item
    let filters ← ofItems? rest
    some (filter :: filters)

/-- The keys of a mapping, each with the filters in its list if it has one. -/
def branches? : List (Node × Node) → Option (List (Node.FieldKey × Option (List FilterSpec)))
  | [] => some []
  | (key, .list _ items) :: rest => do
    let key ← key.fieldKey?
    let branches ← branches? rest
    some ((key, ofItems? items) :: branches)
  | (key, _) :: rest => do
    let key ← key.fieldKey?
    let branches ← branches? rest
    some ((key, none) :: branches)

end

def ofNode? (node : Node) : Option FilterSpec :=
  node.settle?.bind ofSettled?

/-! ## Writing -/

mutual

def toJson : FilterSpec → Json
  | .expression text => .text text
  | .all filters => .array (toItems filters)
  | .and filters => .object [("and", .array (toItems filters))]
  | .or filters => .object [("or", .array (toItems filters))]
  | .not filters => .object [("not", .array (toItems filters))]
  | .equals expected => .object (expected.entries.map fun (name, value) => (name, value.toJson))

def toItems : List FilterSpec → List Json
  | [] => []
  | filter :: rest => toJson filter :: toItems rest

end

end NoteBase.FilterSpec
