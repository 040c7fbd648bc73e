import NoteBase.Predicate.Evaluate

/-!
# Filters

A filter is a tree with predicates and equality checks at its leaves. It keeps the records that
pass, in their order.
-/

namespace NoteBase

open Calendar (Moment)

inductive FilterSpec where
  /-- A predicate; the empty text lets every record pass. -/
  | expression (text : String)
  | all (filters : List FilterSpec)
  | and (filters : List FilterSpec)
  | or (filters : List FilterSpec)
  | not (filters : List FilterSpec)
  /-- Every property has to have its value, compared strictly. -/
  | equals (expected : OrderedMap Value)

namespace FilterSpec

def hasValue (record : Record) (name : String) (expected : Value) : Bool :=
  match record.lookup name with
  | some value => value.strictEq expected
  | none => false

mutual

def passes (now : Moment) (record : Record) : FilterSpec → Bool
  | .expression text => text = "" || Predicate.evaluate now record text
  | .all filters => passesAll now record filters
  | .and filters => passesAll now record filters
  | .or filters => passesAny now record filters
  | .not filters => !passesAny now record filters
  | .equals expected =>
    expected.entries.all fun (name, value) => hasValue record name value

/-- Whether a record passes every one of several filters. -/
def passesAll (now : Moment) (record : Record) : List FilterSpec → Bool
  | [] => true
  | filter :: rest => passes now record filter && passesAll now record rest

/-- Whether a record passes at least one of several filters. -/
def passesAny (now : Moment) (record : Record) : List FilterSpec → Bool
  | [] => false
  | filter :: rest => passes now record filter || passesAny now record rest

end

/-- Whether a record passes a filter that may be absent; without one every record passes. -/
def passesOption (now : Moment) (record : Record) (filter : Option FilterSpec) : Bool :=
  match filter with
  | none => true
  | some filter => filter.passes now record

/-- The records that pass a filter, in their order. -/
def filterRecords (now : Moment) (filter : Option FilterSpec) (records : List Record) :
    List Record :=
  records.filter fun record => passesOption now record filter

end FilterSpec

end NoteBase
