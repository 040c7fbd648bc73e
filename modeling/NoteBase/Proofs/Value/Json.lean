import NoteBase.Proofs.Json.Sorted
import NoteBase.Proofs.Number.Integral
import NoteBase.Value.Json

/-!
# Values through JSON and back

A value that stands for JSON is written as JSON that stands for it again, up to the sign of zero:
negative zero is written as an integer. Objects are written as the text that they are kept as.
-/

namespace NoteBase.Value

open Json (FitsWord IsWord IsWritten)

theorem ofJsonItems_eq_map (items : List Json) : ofJsonItems items = items.map ofJson := by
  induction items with
  | nil =>
      rfl
  | cons item items inductionHypothesis =>
      rw [ofJsonItems, inductionHypothesis, List.map_cons]

theorem toJsonItems_eq_map (items : List Value) : toJsonItems items = items.map toJson := by
  induction items with
  | nil =>
      rfl
  | cons item items inductionHypothesis =>
      rw [toJsonItems, inductionHypothesis, List.map_cons]

theorem ofJson_array (items : List Json) : ofJson (.array items) = .list (items.map ofJson) := by
  rw [ofJson, ofJsonItems_eq_map]

theorem toJson_list (items : List Value) : toJson (.list items) = .array (items.map toJson) := by
  rw [toJson, toJsonItems_eq_map]

/-! ## The same value up to the sign of zero -/

mutual

/-- A value with the positive zero for every zero. -/
def plainZeros : Value → Value
  | .number value => .number (Number.plainZero value)
  | .list items => .list (plainZerosOfAll items)
  | value => value

def plainZerosOfAll : List Value → List Value
  | [] => []
  | item :: rest => plainZeros item :: plainZerosOfAll rest

end

theorem plainZeros_list (items : List Value) :
    plainZeros (.list items) = .list (items.map plainZeros) := by
  have all : ∀ items, plainZerosOfAll items = items.map plainZeros := by
    intro items
    induction items with
    | nil =>
        rfl
    | cons item items inductionHypothesis =>
        rw [plainZerosOfAll, inductionHypothesis, List.map_cons]
  rw [plainZeros, all]

theorem ofJson_jsonOfNumber {number : Float} (written : (jsonOfNumber number).Every IsWritten) :
    ofJson (jsonOfNumber number).sorted = .number (Number.plainZero number) := by
  unfold jsonOfNumber at written ⊢
  split
  · next whole =>
    exact congrArg Value.number (Number.ofInt_truncate whole.1 whole.2)
  · next broken =>
    rw [if_neg broken] at written
    cases written with
    | scalar back =>
        have finite := (Json.ReadsBack.takeNumber? back).1
        have nonzero : Number.magnitudeOf number ≠ 0 := by
          intro zero
          refine broken ⟨Number.isIntegral_of_zero zero finite, ?_⟩
          rw [Number.truncate_of_zero zero]
          decide
        rw [Json.float, Json.sorted, Node.jsonScalar, if_pos finite, Number.plainZero,
          if_neg nonzero]
        rfl

/-- The JSON of a value that stands for JSON stands for the same value. -/
theorem ofJson_toJson {json : Json} (written : (ofJson json).toJson.Every IsWritten) :
    ofJson (ofJson json).toJson.sorted = (ofJson json).plainZeros := by
  induction json using Json.induction with
  | scalar value =>
      cases value with
      | null => rfl
      | bool _ => rfl
      | text _ => rfl
      | integer value => exact ofJson_jsonOfNumber written
      | float value => exact ofJson_jsonOfNumber written
  | array items inductionHypothesis =>
      rw [ofJson_array, toJson_list] at written ⊢
      cases written with
      | array inside =>
          rw [Json.sorted_array, ofJson_array, plainZeros_list, List.map_map, List.map_map,
            List.map_map, List.map_map]
          refine congrArg Value.list (List.map_congr_left fun item member => ?_)
          exact inductionHypothesis item member
            (inside _ (List.mem_map_of_mem (List.mem_map_of_mem member)))
  | object members inductionHypothesis =>
      rfl

/-! ## What is written -/

theorem isWord_of_jsonOfNumber {number : Float} {value : Int}
    (integer : jsonOfNumber number = .integer value) : IsWord value := by
  unfold jsonOfNumber at integer
  split at integer
  · next whole =>
    cases integer
    have bound := whole.2
    rw [Nat.pow_eq] at bound
    exact ⟨by omega, by omega⟩
  · cases integer

theorem every_jsonOfNumber (number : Float) : (jsonOfNumber number).Every FitsWord := by
  cases written : jsonOfNumber number with
  | scalar scalar =>
      cases scalar with
      | integer value => exact .scalar (isWord_of_jsonOfNumber written)
      | null => exact .scalar trivial
      | bool _ => exact .scalar trivial
      | float _ => exact .scalar trivial
      | text _ => exact .scalar trivial
  | array items =>
      unfold jsonOfNumber at written
      split at written <;> cases written
  | object members =>
      unfold jsonOfNumber at written
      split at written <;> cases written

theorem every_toJson_ofJson (json : Json) : (ofJson json).toJson.Every FitsWord := by
  induction json using Json.induction with
  | scalar value =>
      cases value with
      | null => exact .scalar trivial
      | bool _ => exact .scalar trivial
      | text _ => exact .scalar trivial
      | integer value => exact every_jsonOfNumber _
      | float value => exact every_jsonOfNumber value
  | array items inductionHypothesis =>
      rw [ofJson_array, toJson_list, List.map_map]
      refine .array fun item member => ?_
      obtain ⟨source, inside, rfl⟩ := List.mem_map.mp member
      exact inductionHypothesis source inside
  | object members inductionHypothesis =>
      exact .scalar trivial

theorem exists_scalar_of_ofScalar (scalar : Scalar) :
    ∃ written, (ofScalar scalar).toJson = .scalar written := by
  have number : ∀ number, ∃ written, jsonOfNumber number = .scalar written := by
    intro number
    unfold jsonOfNumber
    split <;> exact ⟨_, rfl⟩
  cases scalar with
  | null => exact ⟨_, rfl⟩
  | bool _ => exact ⟨_, rfl⟩
  | text _ => exact ⟨_, rfl⟩
  | integer value => exact number _
  | float value => exact number value

theorem nested_toJson_ofJson {depth : Nat} {json : Json} (nested : json.Nested depth) :
    (ofJson json).toJson.Nested depth := by
  induction nested with
  | @scalar depth value =>
      obtain ⟨written, same⟩ := exists_scalar_of_ofScalar value
      rw [ofJson, same]
      exact .scalar
  | array inside inductionHypothesis =>
      rw [ofJson_array, toJson_list, List.map_map]
      refine .array fun item member => ?_
      obtain ⟨source, inside, rfl⟩ := List.mem_map.mp member
      exact inductionHypothesis source inside
  | object inside inductionHypothesis =>
      exact .scalar

theorem distinctKeys_jsonOfNumber (number : Float) : (jsonOfNumber number).DistinctKeys := by
  unfold jsonOfNumber
  split <;> exact .scalar

mutual

/-- No value is written with an object in it. -/
theorem distinctKeys_toJson : ∀ value : Value, value.toJson.DistinctKeys
  | .null => .scalar
  | .bool _ => .scalar
  | .number value => distinctKeys_jsonOfNumber value
  | .text _ => .scalar
  | .date _ => .scalar
  | .list items => .array (distinctKeys_toJsonItems items)

theorem distinctKeys_toJsonItems : ∀ items : List Value, ∀ item ∈ toJsonItems items,
    item.DistinctKeys
  | [] => nofun
  | item :: rest => List.forall_mem_cons.mpr
      ⟨distinctKeys_toJson item, distinctKeys_toJsonItems rest⟩

end

end NoteBase.Value
