import NoteBase.View.Spec

/-!
# Summaries

The numbers of a column in a group, aggregated to one. Values of other kinds are not converted.
-/

namespace NoteBase

inductive Aggregation where
  | sum
  | average
  | count
  | min
  | max
deriving DecidableEq

namespace Aggregation

/-- The aggregation with this name, whatever its case. -/
def ofName? (name : String) : Option Aggregation :=
  let lowered := String.ofList (Text.lower name)
  if lowered = "sum" then some .sum
  else if lowered = "average" ∨ lowered = "avg" then some .average
  else if lowered = "count" then some .count
  else if lowered = "min" then some .min
  else if lowered = "max" then some .max
  else none

/-- The sum of numbers from left to right. It starts from negative zero, the neutral element. -/
def total (numbers : List Float) : Float :=
  numbers.foldl (· + ·) (Number.ofMagnitude true 0)

/-- The aggregate of numbers, if there is one at all. `NaN` is passed over by the smallest and the
largest number, and of zeros with different signs the last one is taken. -/
def apply (aggregation : Aggregation) (numbers : List Float) : Option Float :=
  if numbers.isEmpty then none
  else
    some <| match aggregation with
      | .sum => total numbers
      | .average => total numbers / Number.ofNat numbers.length
      | .count => Number.ofNat numbers.length
      | .min =>
        numbers.foldl (fun best number => if number ≤ best then number else best) Number.infinity
      | .max =>
        numbers.foldl (fun best number => if best ≤ number then number else best)
          Number.negativeInfinity

end Aggregation

/-- The numbers of a column, in the order of the records. -/
def columnNumbers (column : String) (records : List Record) : List Float :=
  records.filterMap fun record => (record.lookup column).bind Value.number?

/-- The summary of one column: nothing if the aggregation is unknown or there are no numbers. -/
def summarizeColumn (records : List Record) (column aggregation : String) : Option Float :=
  (Aggregation.ofName? aggregation).bind fun aggregation =>
    aggregation.apply (columnNumbers column records)

def summarizeGroup (spec : OrderedMap String) (records : List Record) :
    OrderedMap (Option Float) :=
  spec.mapItems (summarizeColumn records)

def summarize (spec : OrderedMap String) (groups : List (String × List Record)) :
    List (String × OrderedMap (Option Float)) :=
  groups.map fun (key, records) => (key, summarizeGroup spec records)

end NoteBase
