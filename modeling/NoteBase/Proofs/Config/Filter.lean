import NoteBase.Config.Filter
import NoteBase.Proofs.Json.Parts
import NoteBase.Proofs.Value.Json

/-!
# Filters are read as they are written

A filter that is read from a JSON value is written as a value that is read as the same filter. No
filter is taken for one of another shape: what is not read as a filter is not one after it has
become the value of a property either.
-/

namespace NoteBase.FilterSpec

open Json (IsWritten)

/-- The filter in a JSON value. -/
def ofJson? (json : Json) : Option FilterSpec :=
  ofSettled? (Node.ofJson json)

theorem ofNode?_ofJson (json : Json) : ofNode? (Node.ofJson json) = ofJson? json := by
  rw [ofNode?, Node.settle?_ofJson]
  rfl

/-! ## Reading by shape -/

theorem ofItems?_ofItems (items : List Json) :
    ofItems? (Node.ofItems items) = items.mapM ofJson? := by
  induction items with
  | nil =>
      rfl
  | cons item items inductionHypothesis =>
      rw [Node.ofItems, ofItems?, inductionHypothesis, List.mapM_cons]
      rfl

theorem ofJson?_array (items : List Json) :
    ofJson? (.array items) = (items.mapM ofJson?).map .all := by
  rw [ofJson?, Node.ofJson, ofSettled?, ofItems?_ofItems]

/-- The filters in a value that is a list of filters. -/
def branch? : Json → Option (List FilterSpec)
  | .array items => items.mapM ofJson?
  | _ => none

theorem branch?_eq_some_iff {json : Json} {filters : List FilterSpec} :
    branch? json = some filters ↔
      ∃ items, json = .array items ∧ ofJson? json = some (.all filters) := by
  cases json with
  | scalar _ => simp [branch?]
  | object _ => simp [branch?]
  | array items =>
      rw [branch?, ofJson?_array]
      cases items.mapM ofJson? <;> simp

theorem branches?_ofMembers (members : List (String × Json)) :
    branches? (Node.ofMembers members) =
      some (members.map fun (key, value) => (.name key, branch? value)) := by
  induction members with
  | nil =>
      rfl
  | cons member members inductionHypothesis =>
      obtain ⟨key, value⟩ := member
      cases value with
      | scalar value =>
          rw [Node.ofMembers, Node.ofJson, branches?, inductionHypothesis]
          · rfl
          · exact fun _ _ absurd => by cases absurd
      | array items =>
          rw [Node.ofMembers, Node.ofJson, branches?, inductionHypothesis, ofItems?_ofItems]
          rfl
      | object others =>
          rw [Node.ofMembers, Node.ofJson, branches?, inductionHypothesis]
          · rfl
          · exact fun _ _ absurd => by cases absurd

/-- The combinator among the members of an object. -/
def combined? (members : List (String × Json)) : Option FilterSpec :=
  combinators.findSome? fun (key, combine) =>
    ((Entries.find? key members).bind branch?).map combine

/-- The values that an object expects of its properties. -/
def expectedOf (members : List (String × Json)) : OrderedMap Value :=
  OrderedMap.ofList (members.map fun (key, value) => (key, Value.ofJson value.sorted))

section Object

variable {members : List (String × Json)}

theorem combinator?_branches (nodup : (Entries.keys members).Nodup) :
    combinator? (members.map fun (key, value) => (.name key, branch? value)) =
      combined? members := by
  unfold combinator? combined?
  refine congrArg (combinators.findSome? ·) (funext fun (key, combine) => ?_)
  simp only [Node.field?_named nodup branch?]
  cases Entries.find? key members with
  | none =>
      rfl
  | some value =>
      cases filters : branch? value <;> simp [filters]

theorem expected?_ofMembers : expected? (Node.ofMembers members) = some (expectedOf members) := by
  refine Node.mapping?_ofJson (fun json => Value.ofJson json.sorted) fun member _ => ?_
  rw [Node.toJson?_ofJson]
  rfl

/-- Whatever an object has for members, it is read as a filter. -/
theorem isSome_ofJson?_object (members : List (String × Json)) :
    (ofJson? (.object members)).isSome = true := by
  rw [ofJson?, Node.ofJson, ofSettled?, branches?_ofMembers]
  simp only [expected?_ofMembers]
  split <;> rfl

theorem ofJson?_object (nodup : (Entries.keys members).Nodup) :
    ofJson? (.object members) = some ((combined? members).getD (.equals (expectedOf members))) := by
  rw [ofJson?, Node.ofJson, ofSettled?, branches?_ofMembers]
  simp only [combinator?_branches nodup, expected?_ofMembers]
  cases combined? members <;> rfl

theorem entries_expectedOf (nodup : (Entries.keys members).Nodup) :
    (expectedOf members).entries =
      members.map fun (key, value) => (key, Value.ofJson value.sorted) := by
  refine OrderedMap.entries_ofList ?_
  rwa [Entries.keys_map members fun value => Value.ofJson value.sorted]

end Object

/-! ## Which values are filters -/

/-- A value that is read as a filter: a text, an object, or a list of such values. -/
inductive IsFilter : Json → Prop
  | text {value : String} : IsFilter (.text value)
  | array {items : List Json} (inside : ∀ item ∈ items, IsFilter item) : IsFilter (.array items)
  | object {members : List (String × Json)} : IsFilter (.object members)

theorem isFilter_array_iff {items : List Json} :
    IsFilter (.array items) ↔ ∀ item ∈ items, IsFilter item := by
  constructor
  · intro isFilter
    cases isFilter with
    | array inside => exact inside
  · exact .array

theorem isSome_ofJson?_iff {json : Json} : (ofJson? json).isSome = true ↔ IsFilter json := by
  induction json using Json.induction with
  | scalar value =>
      cases value with
      | text value => exact ⟨fun _ => .text, fun _ => rfl⟩
      | null => exact ⟨nofun, nofun⟩
      | bool _ => exact ⟨nofun, nofun⟩
      | integer _ => exact ⟨nofun, nofun⟩
      | float _ => exact ⟨nofun, nofun⟩
  | array items inductionHypothesis =>
      rw [ofJson?_array, isFilter_array_iff]
      cases read : items.mapM ofJson? with
      | none =>
          obtain ⟨item, member, unread⟩ := mapM_eq_none_iff.mp read
          refine ⟨nofun, fun all => ?_⟩
          have isSome := (inductionHypothesis item member).mpr (all item member)
          rw [unread] at isSome
          cases isSome
      | some filters =>
          refine ⟨fun _ item member => ?_, fun _ => rfl⟩
          refine (inductionHypothesis item member).mp ?_
          rw [Option.isSome_iff_ne_none]
          intro unread
          rw [mapM_eq_none_iff.mpr ⟨item, member, unread⟩] at read
          cases read
  | object members _ =>
      exact ⟨fun _ => .object, fun _ => isSome_ofJson?_object members⟩

theorem isFilter_sorted_iff (json : Json) : IsFilter json.sorted ↔ IsFilter json := by
  induction json using Json.induction with
  | scalar value =>
      cases value with
      | float value =>
          rw [Json.sorted, Node.jsonScalar]
          split <;> exact ⟨by rintro ⟨⟩, by rintro ⟨⟩⟩
      | null => exact .rfl
      | bool _ => exact .rfl
      | integer _ => exact .rfl
      | text _ => exact .rfl
  | array items inductionHypothesis =>
      rw [Json.sorted_array, isFilter_array_iff, isFilter_array_iff, List.forall_mem_map]
      exact forall₂_congr inductionHypothesis
  | object members _ =>
      rw [Json.sorted]
      exact ⟨fun _ => .object, fun _ => .object⟩

theorem isFilter_toJson_ofJson_iff (json : Json) :
    IsFilter (Value.ofJson json).toJson ↔ IsFilter json := by
  have noNumber : ∀ number, ¬ IsFilter (Value.jsonOfNumber number) := by
    intro number
    unfold Value.jsonOfNumber
    split <;> nofun
  induction json using Json.induction with
  | scalar value =>
      cases value with
      | null => exact ⟨nofun, nofun⟩
      | bool _ => exact ⟨nofun, nofun⟩
      | integer value => exact ⟨fun isFilter => absurd isFilter (noNumber _), nofun⟩
      | float value => exact ⟨fun isFilter => absurd isFilter (noNumber value), nofun⟩
      | text value => exact ⟨fun _ => .text, fun _ => .text⟩
  | array items inductionHypothesis =>
      rw [Value.ofJson_array, Value.toJson_list, List.map_map, isFilter_array_iff,
        isFilter_array_iff, List.forall_mem_map]
      exact forall₂_congr inductionHypothesis
  | object members _ =>
      exact ⟨fun _ => .object, fun _ => .text⟩

/-- A list of filters is what a value that is both a list and a filter is. -/
theorem isSome_branch?_iff {json : Json} :
    (branch? json).isSome = true ↔ (∃ items, json = .array items) ∧ IsFilter json := by
  rw [← isSome_ofJson?_iff]
  cases json with
  | scalar _ => simp [branch?]
  | object _ => simp [branch?]
  | array items =>
      rw [branch?, ofJson?_array]
      cases items.mapM ofJson? <;> simp

theorem isSome_branch?_sorted_iff (json : Json) :
    (branch? json.sorted).isSome = true ↔ (branch? json).isSome = true := by
  have lists : (∃ items, json.sorted = .array items) ↔ ∃ items, json = .array items := by
    cases json with
    | scalar _ => exact ⟨nofun, nofun⟩
    | object _ => exact ⟨nofun, nofun⟩
    | array items => exact ⟨fun _ => ⟨items, rfl⟩, fun _ => ⟨_, Json.sorted_array items⟩⟩
  rw [isSome_branch?_iff, isSome_branch?_iff, lists, isFilter_sorted_iff]

/-- What is no list of filters is none either once it has become a value and JSON again. -/
theorem isSome_branch?_toJson_ofJson_iff (json : Json) :
    (branch? (Value.ofJson json.sorted).toJson).isSome = true ↔ (branch? json).isSome = true := by
  have lists : ∀ json : Json,
      (∃ items, (Value.ofJson json).toJson = .array items) ↔ ∃ items, json = .array items := by
    intro json
    cases json with
    | scalar value =>
        obtain ⟨written, same⟩ := Value.exists_scalar_of_ofScalar value
        rw [Value.ofJson, same]
        simp
    | object _ =>
        exact ⟨by rintro ⟨_, ⟨⟩⟩, by rintro ⟨_, ⟨⟩⟩⟩
    | array items =>
        rw [Value.ofJson_array, Value.toJson_list]
        exact ⟨fun _ => ⟨_, rfl⟩, fun _ => ⟨_, rfl⟩⟩
  rw [← isSome_branch?_sorted_iff json, isSome_branch?_iff, isSome_branch?_iff, lists,
    isFilter_toJson_ofJson_iff]

/-! ## Through JSON and back -/

mutual

/-- A filter with the positive zero for every zero among the values that it expects. -/
def plainZeros : FilterSpec → FilterSpec
  | .expression text => .expression text
  | .all filters => .all (plainZerosOfAll filters)
  | .and filters => .and (plainZerosOfAll filters)
  | .or filters => .or (plainZerosOfAll filters)
  | .not filters => .not (plainZerosOfAll filters)
  | .equals expected => .equals (expected.mapItems fun _ value => value.plainZeros)

def plainZerosOfAll : List FilterSpec → List FilterSpec
  | [] => []
  | filter :: rest => plainZeros filter :: plainZerosOfAll rest

end

theorem plainZerosOfAll_eq_map (filters : List FilterSpec) :
    plainZerosOfAll filters = filters.map plainZeros := by
  induction filters with
  | nil =>
      rfl
  | cons filter filters inductionHypothesis =>
      rw [plainZerosOfAll, inductionHypothesis, List.map_cons]

theorem toItems_eq_map (filters : List FilterSpec) : toItems filters = filters.map toJson := by
  induction filters with
  | nil =>
      rfl
  | cons filter filters inductionHypothesis =>
      rw [toItems, inductionHypothesis, List.map_cons]

/-- A combinator is one among the members of an object, with the filters in its list. -/
theorem combined?_eq_some {members : List (String × Json)} {filter : FilterSpec}
    (combined : combined? members = some filter) :
    ∃ key combine value filters, (key, combine) ∈ combinators ∧
      (key, value) ∈ members ∧ branch? value = some filters ∧ filter = combine filters := by
  obtain ⟨⟨key, combine⟩, isCombinator, found⟩ := List.exists_of_findSome?_eq_some combined
  obtain ⟨filters, branch, same⟩ := Option.map_eq_some_iff.mp found
  obtain ⟨value, member, branch⟩ := Option.bind_eq_some_iff.mp branch
  exact ⟨key, combine, value, filters, isCombinator, Entries.mem_of_find? member, branch, same.symm⟩

theorem combinator_cases {key : String} {combine : List FilterSpec → FilterSpec}
    (isCombinator : (key, combine) ∈ combinators) :
    (key = "and" ∧ combine = .and) ∨ (key = "or" ∧ combine = .or) ∨
      (key = "not" ∧ combine = .not) := by
  simpa only [combinators, List.mem_cons, List.not_mem_nil, or_false, Prod.mk.injEq]
    using isCombinator

/-- What a combinator is written as is read as the same combinator. -/
theorem combinator_laws {key : String} {combine : List FilterSpec → FilterSpec}
    (isCombinator : (key, combine) ∈ combinators) (filters : List FilterSpec) :
    (combine filters).toJson = .object [(key, .array (filters.map toJson))] ∧
      (combine filters).plainZeros = combine (filters.map plainZeros) ∧
        ∀ value found, branch? value = some found →
          combined? [(key, value)] = some (combine found) := by
  rw [← toItems_eq_map, ← plainZerosOfAll_eq_map]
  rcases combinator_cases isCombinator with ⟨rfl, rfl⟩ | ⟨rfl, rfl⟩ | ⟨rfl, rfl⟩
  all_goals
    refine ⟨rfl, rfl, fun value found branch => ?_⟩
    simp [combined?, combinators, Entries.find?, branch]

/-- Members that become others, with lists of filters at the same places, have a combinator both or
neither. -/
theorem combined?_map_eq_none {members : List (String × Json)} (become : Json → Json)
    (alike : ∀ member ∈ members,
      ((branch? (become member.2)).isSome = true ↔ (branch? member.2).isSome = true))
    (noCombinator : combined? members = none) :
    combined? (members.map fun (key, value) => (key, become value)) = none := by
  unfold combined? at noCombinator ⊢
  rw [List.findSome?_eq_none_iff] at noCombinator ⊢
  intro combinator isCombinator
  have absent := noCombinator combinator isCombinator
  rw [Option.map_eq_none_iff, Option.bind_eq_none_iff] at absent ⊢
  rw [Entries.find?_map]
  intro value found
  obtain ⟨source, sourceFound, rfl⟩ := Option.map_eq_some_iff.mp found
  have notSome := mt (alike _ (Entries.mem_of_find? sourceFound)).mp
  rw [absent source sourceFound] at notSome
  simpa using notSome

/-- The values that an object expects are those that it expects once they have become JSON. -/
theorem expectedOf_toJson {members : List (String × Json)} (nodup : (Entries.keys members).Nodup)
    (written : ∀ member ∈ members, (Value.ofJson member.2.sorted).toJson.Every IsWritten) :
    expectedOf (members.map fun (key, value) => (key, (Value.ofJson value.sorted).toJson)) =
      (expectedOf members).mapItems fun _ value => value.plainZeros := by
  refine OrderedMap.ext ?_
  rw [OrderedMap.entries_mapItems, entries_expectedOf nodup, entries_expectedOf, List.map_map,
    List.map_map]
  · refine List.map_congr_left fun member isMember => ?_
    exact congrArg (Prod.mk member.1) (Value.ofJson_toJson (written member isMember))
  · rwa [Entries.keys_map members fun value => (Value.ofJson value.sorted).toJson]

/-- A filter is written as JSON that is read as the same filter. -/
theorem ofJson?_toJson {json : Json} (distinct : json.DistinctKeys) {filter : FilterSpec}
    (read : ofJson? json = some filter) (written : filter.toJson.Every IsWritten) :
    ofJson? filter.toJson = some filter.plainZeros := by
  induction json using Json.induction generalizing filter with
  | scalar value =>
      obtain ⟨text, _, rfl⟩ := Option.map_eq_some_iff.mp read
      rfl
  | array items inductionHypothesis =>
      cases distinct with
      | array distinctItems =>
      rw [ofJson?_array] at read
      obtain ⟨filters, itemsRead, rfl⟩ := Option.map_eq_some_iff.mp read
      rw [toJson, toItems_eq_map] at written ⊢
      cases written with
      | array inside =>
      have each : ∀ filter ∈ filters, ofJson? filter.toJson = some filter.plainZeros := by
        intro filter member
        obtain ⟨item, isItem, itemRead⟩ := exists_of_mem_mapM itemsRead member
        exact inductionHypothesis item isItem (distinctItems item isItem) itemRead
          (inside _ (List.mem_map_of_mem member))
      have again : (filters.map toJson).mapM ofJson? = some (filters.map plainZeros) := by
        rw [List.mapM_map]
        exact mapM_of_forall each
      rw [ofJson?_array, again, plainZeros, plainZerosOfAll_eq_map]
      rfl
  | object members inductionHypothesis =>
      cases distinct with
      | object nodup distinctMembers =>
      rw [ofJson?_object nodup] at read
      cases combined : combined? members with
      | some combinator =>
          rw [combined] at read
          obtain rfl : combinator = filter := Option.some.inj read
          obtain ⟨key, combine, value, filters, isCombinator, member, branch, rfl⟩ :=
            combined?_eq_some combined
          obtain ⟨writtenAs, plainAs, readAs⟩ := combinator_laws isCombinator filters
          rw [writtenAs] at written ⊢
          cases written with
          | object inside =>
          have listWritten := inside _ List.mem_cons_self
          obtain ⟨items, rfl, listRead⟩ := branch?_eq_some_iff.mp branch
          have again := inductionHypothesis _ member (distinctMembers _ member) listRead
            (by rwa [toJson, toItems_eq_map])
          rw [toJson, toItems_eq_map, plainZeros, plainZerosOfAll_eq_map] at again
          have branchAgain := branch?_eq_some_iff.mpr ⟨_, rfl, again⟩
          rw [ofJson?_object (by simp [Entries.keys]), readAs _ _ branchAgain, plainAs]
          rfl
      | none =>
          rw [combined] at read
          obtain rfl : .equals (expectedOf members) = filter := Option.some.inj read
          rw [toJson, entries_expectedOf nodup, List.map_map] at written ⊢
          cases written with
          | object inside =>
          have noCombinator := combined?_map_eq_none
            (fun value => (Value.ofJson value.sorted).toJson)
            (fun member _ => isSome_branch?_toJson_ofJson_iff member.2)
            combined
          have again := ofJson?_object ((Entries.keys_map members fun value =>
            (Value.ofJson value.sorted).toJson).symm ▸ nodup)
          have sameValues := expectedOf_toJson nodup fun member isMember =>
            inside _ (List.mem_map_of_mem isMember)
          rw [noCombinator, sameValues] at again
          rw [plainZeros]
          exact again

/-- A filter is written with integers that are words, and is nested no deeper than what it is read
from. -/
theorem toJson_fits {json : Json} (distinct : json.DistinctKeys) {filter : FilterSpec}
    (read : ofJson? json = some filter) {depth : Nat} (nested : json.Nested depth) :
    filter.toJson.Fits depth := by
  induction nested generalizing filter with
  | scalar =>
      obtain ⟨text, _, rfl⟩ := Option.map_eq_some_iff.mp read
      exact .text text
  | @array depth items _ inductionHypothesis =>
      cases distinct with
      | array distinctItems =>
      rw [ofJson?_array] at read
      obtain ⟨filters, itemsRead, rfl⟩ := Option.map_eq_some_iff.mp read
      rw [toJson, toItems_eq_map]
      refine .array fun json isJson => ?_
      obtain ⟨filter, member, rfl⟩ := List.mem_map.mp isJson
      obtain ⟨item, isItem, itemRead⟩ := exists_of_mem_mapM itemsRead member
      exact inductionHypothesis item isItem (distinctItems item isItem) itemRead
  | @object depth members inside inductionHypothesis =>
      cases distinct with
      | object nodup distinctMembers =>
      rw [ofJson?_object nodup] at read
      cases combined : combined? members with
      | some combinator =>
          rw [combined] at read
          obtain rfl : combinator = filter := Option.some.inj read
          obtain ⟨key, combine, value, filters, isCombinator, member, branch, rfl⟩ :=
            combined?_eq_some combined
          obtain ⟨items, rfl, listRead⟩ := branch?_eq_some_iff.mp branch
          have list := inductionHypothesis _ member (distinctMembers _ member) listRead
          rw [toJson, toItems_eq_map] at list
          rw [(combinator_laws isCombinator filters).1]
          refine .object fun member isMember => ?_
          rw [List.mem_singleton.mp isMember]
          exact list
      | none =>
          rw [combined] at read
          obtain rfl : .equals (expectedOf members) = filter := Option.some.inj read
          rw [toJson, entries_expectedOf nodup, List.map_map]
          refine .object fun member isMember => ?_
          obtain ⟨source, isSource, rfl⟩ := List.mem_map.mp isMember
          exact ⟨Value.nested_toJson_ofJson (inside source isSource).sorted,
            Value.every_toJson_ofJson _⟩

end NoteBase.FilterSpec
