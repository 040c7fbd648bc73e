import NoteBase.View.Spec

/-!
# Sorting records

Records are sorted stably by several rules, of which each one decides among the records that are
equal by those before it. By one rule numbers come before everything else that is not null, and
missing and null values come last; the direction turns all of this around.
-/

namespace NoteBase

inductive SortKey where
  /-- A number, by the pattern of its bits, so that there are a positive and a negative `NaN`. -/
  | number (bits : UInt64)
  /-- Any other value that is not null, by its text. -/
  | shown (text : String)
  | absent
deriving DecidableEq

namespace SortKey

/-- Numbers come first, in their total order, then everything that is compared by its text, and
absent values come last. -/
def compare (left right : SortKey) : Ordering :=
  match left, right with
  | .number left, .number right => Number.compareBits left right
  | .shown left, .shown right => Text.collate left right
  | .absent, .absent => .eq
  | .number _, _ => .lt
  | _, .number _ => .gt
  | .shown _, .absent => .lt
  | .absent, .shown _ => .gt

def ofValue : Value → SortKey
  | .null => .absent
  | .number value => .number value.toBits
  | value => .shown value.display

end SortKey

namespace SortRule

def key (rule : SortRule) (record : Record) : SortKey :=
  match record.lookup rule.property with
  | some value => SortKey.ofValue value
  | none => .absent

/-- Compares what two records are sorted by, in the direction of the rule. -/
def compareKeys (rule : SortRule) (left right : SortKey) : Ordering :=
  rule.direction.apply (left.compare right)

end SortRule

section Items

variable {Item : Type}

/-- Compares two items by several rules. `key` is what a rule sorts an item by. -/
def compareByKeys (key : SortRule → Item → SortKey) : List SortRule → Item → Item → Ordering
  | [], _, _ => .eq
  | rule :: rest, left, right =>
    (rule.compareKeys (key rule left) (key rule right)).then (compareByKeys key rest left right)

def sortByKeys (key : SortRule → Item → SortKey) (rules : List SortRule) (items : List Item) :
    List Item :=
  items.mergeSort fun left right => (compareByKeys key rules left right).isLE

/-- Sorts items, each of which has a record, stably by several rules. -/
def sortByRecord (rules : List SortRule) (record : Item → Record) (items : List Item) :
    List Item :=
  sortByKeys (fun rule item => rule.key (record item)) rules items

end Items

def compareByRules : List SortRule → Record → Record → Ordering :=
  compareByKeys SortRule.key

def sortRecords (rules : List SortRule) (records : List Record) : List Record :=
  sortByRecord rules id records

end NoteBase
