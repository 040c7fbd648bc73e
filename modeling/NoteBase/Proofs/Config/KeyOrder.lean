import NoteBase.Config.Base
import NoteBase.Proofs.Config.View

/-!
# Configuration with sorted keys

A value with sorted keys is read as the configuration that the value is read as, with the entries of
its maps in the order of their keys. This changes neither which records pass a filter nor what a
view shows, but it is the order in which the formulas of a mapping are attached.
-/

namespace NoteBase

open Calendar (Moment)

/-! ## Filters -/

namespace FilterSpec

mutual

/-- A filter with the properties that it expects values of in the order of their names. -/
def inKeyOrder : FilterSpec → FilterSpec
  | .expression text => .expression text
  | .all filters => .all (inKeyOrderAll filters)
  | .and filters => .and (inKeyOrderAll filters)
  | .or filters => .or (inKeyOrderAll filters)
  | .not filters => .not (inKeyOrderAll filters)
  | .equals expected => .equals expected.inKeyOrder

def inKeyOrderAll : List FilterSpec → List FilterSpec
  | [] => []
  | filter :: rest => inKeyOrder filter :: inKeyOrderAll rest

end

theorem inKeyOrderAll_eq_map (filters : List FilterSpec) :
    inKeyOrderAll filters = filters.map inKeyOrder := by
  induction filters with
  | nil =>
      rfl
  | cons filter filters inductionHypothesis =>
      rw [inKeyOrderAll, inductionHypothesis, List.map_cons]

mutual

/-- The order in which values are expected does not change which records pass. -/
theorem passes_inKeyOrder (now : Moment) (record : Record) :
    ∀ filter : FilterSpec, filter.inKeyOrder.passes now record = filter.passes now record
  | .expression _ => rfl
  | .all filters => by
      rw [inKeyOrder, passes, passes, passesAll_inKeyOrderAll now record filters]
  | .and filters => by
      rw [inKeyOrder, passes, passes, passesAll_inKeyOrderAll now record filters]
  | .or filters => by
      rw [inKeyOrder, passes, passes, passesAny_inKeyOrderAll now record filters]
  | .not filters => by
      rw [inKeyOrder, passes, passes, passesAny_inKeyOrderAll now record filters]
  | .equals expected => by
      rw [inKeyOrder, passes, passes, expected.entries_inKeyOrder_perm.all_eq]

theorem passesAll_inKeyOrderAll (now : Moment) (record : Record) :
    ∀ filters : List FilterSpec,
      passesAll now record (inKeyOrderAll filters) = passesAll now record filters
  | [] => rfl
  | filter :: rest => by
      rw [inKeyOrderAll, passesAll, passesAll, passes_inKeyOrder now record filter,
        passesAll_inKeyOrderAll now record rest]

theorem passesAny_inKeyOrderAll (now : Moment) (record : Record) :
    ∀ filters : List FilterSpec,
      passesAny now record (inKeyOrderAll filters) = passesAny now record filters
  | [] => rfl
  | filter :: rest => by
      rw [inKeyOrderAll, passesAny, passesAny, passes_inKeyOrder now record filter,
        passesAny_inKeyOrderAll now record rest]

end

theorem filterRecords_inKeyOrder (now : Moment) (filter : Option FilterSpec)
    (records : List Record) :
    filterRecords now (filter.map inKeyOrder) records = filterRecords now filter records := by
  refine List.filter_congr fun record _ => ?_
  cases filter with
  | none => rfl
  | some filter => exact passes_inKeyOrder now record filter

theorem combine_inKeyOrder {key : String} {combine : List FilterSpec → FilterSpec}
    (isCombinator : (key, combine) ∈ combinators) (filters : List FilterSpec) :
    (combine filters).inKeyOrder = combine (filters.map inKeyOrder) := by
  rw [← inKeyOrderAll_eq_map]
  rcases combinator_cases isCombinator with ⟨_, rfl⟩ | ⟨_, rfl⟩ | ⟨_, rfl⟩ <;> rfl

theorem expectedOf_sorted {members : List (String × Json)}
    (nodup : (Entries.keys members).Nodup) :
    expectedOf (Json.sortedOnto [] members) = (expectedOf members).inKeyOrder := by
  have rising := Json.risingKeys_sortedOnto members List.Pairwise.nil
  refine OrderedMap.ofList_eq_inKeyOrder ?_ ?_ ?_
  · rwa [Entries.keys_map members fun value => Value.ofJson value.sorted]
  · exact List.pairwise_map.mpr rising.le
  · refine ((Json.sorted_object_perm nodup).map _).trans (.of_eq ?_)
    rw [List.map_map]
    refine List.map_congr_left fun member _ => ?_
    simp only [Function.comp_apply, Json.sorted_sorted]

theorem combined?_sorted {members : List (String × Json)} (nodup : (Entries.keys members).Nodup)
    (each : ∀ member ∈ members,
      branch? member.2.sorted = (branch? member.2).map (List.map inKeyOrder)) :
    combined? (Json.sortedOnto [] members) = (combined? members).map inKeyOrder := by
  rw [combined?, combined?, List.map_findSome?]
  have same : ∀ combinator ∈ combinators,
      (((Entries.find? combinator.1 (Json.sortedOnto [] members)).bind branch?).map combinator.2) =
        (((Entries.find? combinator.1 members).bind branch?).map combinator.2).map inKeyOrder := by
    rintro ⟨key, combine⟩ isCombinator
    rw [Json.find?_sortedOnto nodup]
    cases found : Entries.find? key members with
    | none =>
        rfl
    | some value =>
        simp only [Option.map_some, Option.bind_some, each _ (Entries.mem_of_find? found),
          Option.map_map]
        refine congrArg (Option.map · _) (funext fun filters => ?_)
        exact (combine_inKeyOrder isCombinator filters).symm
  simp only [combinators, List.findSome?_cons, List.findSome?_nil, List.forall_mem_cons,
    Function.comp_apply] at same ⊢
  rw [same.1, same.2.1, same.2.2.1]

/-- A value with sorted keys is read as the same filter with its maps in the order of their keys. -/
theorem ofJson?_sorted {json : Json} (distinct : json.DistinctKeys) :
    ofJson? json.sorted = (ofJson? json).map inKeyOrder ∧
      branch? json.sorted = (branch? json).map (List.map inKeyOrder) := by
  induction json using Json.induction with
  | scalar value =>
      refine ⟨?_, rfl⟩
      cases value with
      | float value =>
          rw [Json.sorted, Node.jsonScalar]
          split <;> rfl
      | null => rfl
      | bool _ => rfl
      | integer _ => rfl
      | text _ => rfl
  | array items inductionHypothesis =>
      cases distinct with
      | array distinctItems =>
      have lists : (items.map Json.sorted).mapM ofJson? =
          (items.mapM ofJson?).map (List.map inKeyOrder) := by
        rw [List.mapM_map, ← mapM_map_some]
        exact mapM_congr fun item member =>
          (inductionHypothesis item member (distinctItems item member)).1
      rw [Json.sorted_array, ofJson?_array, ofJson?_array, branch?, branch?, lists]
      refine ⟨?_, rfl⟩
      cases items.mapM ofJson? with
      | none => rfl
      | some filters =>
          simp only [Option.map_some, inKeyOrder, inKeyOrderAll_eq_map]
  | object members inductionHypothesis =>
      cases distinct with
      | object nodup distinctMembers =>
      have sortedNodup := Json.nodup_keys_sortedOnto members
      have combined := combined?_sorted nodup fun member isMember =>
        (inductionHypothesis member isMember (distinctMembers member isMember)).2
      rw [Json.sorted, ofJson?_object nodup, ofJson?_object sortedNodup, combined,
        expectedOf_sorted nodup]
      refine ⟨?_, rfl⟩
      cases combined? members with
      | none => rfl
      | some filter => rfl

theorem ofNode?_sorted {json : Json} (textual : json.IsTextual) :
    ofNode? (Node.ofJson json.sorted) = (ofNode? (Node.ofJson json)).map inKeyOrder := by
  rw [ofNode?_ofJson, ofNode?_ofJson, (ofJson?_sorted textual.distinct).1]

end FilterSpec

/-! ## Formulas -/

namespace Formulas

/-- Formulas in the order of their names, if they are a mapping. -/
def inKeyOrder : Formulas → Formulas
  | .list definitions => .list definitions
  | .map formulas => .map formulas.inKeyOrder

end Formulas

namespace FormulaDef

/-- The definition with these fields. -/
def ofFields? : List (Option Node) → Option FormulaDef
  | [name, formula] =>
    (Node.required? Node.text? name).bind fun name =>
      (Node.required? Node.text? formula).bind fun formula => some ⟨name, formula⟩
  | _ => none

theorem ofNode?_eq (node : Node) :
    ofNode? node = (node.fields? ["name", "formula"]).bind ofFields? :=
  rfl

theorem ofNode?_sorted {json : Json} (textual : json.IsTextual) :
    ofNode? (Node.ofJson json.sorted) = (ofNode? (Node.ofJson json)).map id := by
  refine Node.fields?_bind_sorted textual ofFields? fun parts partsTextual => ?_
  have text : ∀ part ∈ parts,
      Node.required? Node.text? ((part.map Json.sorted).map Node.ofJson) =
        Node.required? Node.text? (part.map Node.ofJson) := fun part member =>
    Node.required?_sorted fun json isPart =>
      Node.text?_ofJson_sorted (partsTextual part json member isPart)
  rw [Option.map_id]
  rcases parts with _ | ⟨name, _ | ⟨formula, _ | ⟨_, _⟩⟩⟩
  · rfl
  · rfl
  · simp only [List.map_cons, List.map_nil, ofFields?, text name (by simp),
      text formula (by simp)]
    rfl
  · rfl

end FormulaDef

namespace Formulas

theorem ofNode?_sorted {json : Json} (textual : json.IsTextual) :
    ofNode? (Node.ofJson json.sorted) = (ofNode? (Node.ofJson json)).map inKeyOrder := by
  have settled : ∀ json : Json, ofNode? (Node.ofJson json) = ofSettled? (Node.ofJson json) := by
    intro json
    rw [ofNode?, Node.settle?_ofJson]
    rfl
  rw [settled, settled]
  cases json with
  | scalar value =>
      rw [textual.sorted_scalar]
      cases value <;> rfl
  | array items =>
      have read : ∀ items : List Json, ofSettled? (Node.ofJson (.array items)) =
          (Node.list? FormulaDef.ofNode? (Node.ofJson (.array items))).map .list :=
        fun _ => rfl
      rw [Json.sorted_array, read, read, ← Json.sorted_array,
        Node.list?_sorted textual fun item => FormulaDef.ofNode?_sorted]
      cases Node.list? FormulaDef.ofNode? (Node.ofJson (.array items)) with
      | none => rfl
      | some definitions => simp [inKeyOrder]
  | object members =>
      have read : ∀ members : List (String × Json), ofSettled? (Node.ofJson (.object members)) =
          ((Node.ofJson (.object members)).mapping? Node.text?).map .map :=
        fun _ => rfl
      have sorted := Node.mapping?_sorted textual fun value => Node.text?_ofJson_sorted
      rw [Json.sorted] at sorted ⊢
      rw [read, read, sorted]
      cases (Node.ofJson (.object members)).mapping? Node.text? <;> rfl

end Formulas

/-! ## Sort rules and groupings -/

/-- An object with several members names no variant. -/
theorem Node.variant?_of_several (first second : String × Json) (rest : List (String × Json)) :
    (Node.ofJson (.object (first :: second :: rest))).variant? = none := by
  obtain ⟨firstKey, firstValue⟩ := first
  obtain ⟨secondKey, secondValue⟩ := second
  cases firstValue <;> rfl

namespace SortDirection

theorem ofNode?_sorted {json : Json} (textual : json.IsTextual) :
    ofNode? (Node.ofJson json.sorted) = ofNode? (Node.ofJson json) := by
  have same : (Node.ofJson json.sorted).variant? = (Node.ofJson json).variant? := by
    cases json with
    | scalar value => rw [textual.sorted_scalar]
    | array items => rw [Json.sorted_array]; rfl
    | object members =>
        have length := (Json.sorted_object_perm textual.nodup).length_eq
        rw [List.length_map] at length
        rcases members with _ | ⟨⟨key, value⟩, _ | ⟨second, rest⟩⟩
        · rfl
        · have textualValue := textual.member (List.mem_singleton_self (key, value))
          show (Node.ofJson (.object [(key, value.sorted)])).variant? = _
          cases value with
          | scalar value => rw [textualValue.sorted_scalar]
          | array items => rw [Json.sorted_array]; rfl
          | object _ => rfl
        · rw [Json.sorted]
          generalize Json.sortedOnto [] _ = ordered at length
          rcases ordered with _ | ⟨first, _ | ⟨other, others⟩⟩
          · cases length
          · cases length
          · rw [Node.variant?_of_several, Node.variant?_of_several]
  rw [ofNode?, ofNode?, same]

/-- The property and the direction in these fields. -/
def ofFields? : List (Option Node) → Option (String × SortDirection)
  | [property, direction] =>
    (Node.required? Node.text? property).bind fun property =>
      (Node.defaulted? .ascending ofNode? direction).bind fun direction =>
        some (property, direction)
  | _ => none

theorem withProperty?_sorted {json : Json} (textual : json.IsTextual) :
    withProperty? (Node.ofJson json.sorted) = (withProperty? (Node.ofJson json)).map id := by
  refine Node.fields?_bind_sorted textual ofFields? fun parts partsTextual => ?_
  rw [Option.map_id]
  rcases parts with _ | ⟨property, _ | ⟨direction, _ | ⟨_, _⟩⟩⟩
  · rfl
  · rfl
  · have propertySame : Node.required? Node.text? ((property.map Json.sorted).map Node.ofJson) =
        Node.required? Node.text? (property.map Node.ofJson) :=
      Node.required?_sorted fun json isPart =>
        Node.text?_ofJson_sorted (partsTextual property json (by simp) isPart)
    have directionSame :
        Node.defaulted? .ascending ofNode? ((direction.map Json.sorted).map Node.ofJson) =
          (Node.defaulted? .ascending ofNode? (direction.map Node.ofJson)).map id :=
      Node.defaulted?_sorted rfl fun json isPart => by
        rw [ofNode?_sorted (partsTextual direction json (by simp) isPart), Option.map_id]
        rfl
    rw [Option.map_id] at directionSame
    simp only [List.map_cons, List.map_nil, ofFields?, propertySame, directionSame]
    rfl
  · rfl

end SortDirection

theorem SortRule.ofNode?_sorted {json : Json} (textual : json.IsTextual) :
    ofNode? (Node.ofJson json.sorted) = (ofNode? (Node.ofJson json)).map id := by
  rw [ofNode?, ofNode?, SortDirection.withProperty?_sorted textual, Option.map_id, Option.map_id]
  rfl

theorem GroupSpec.ofNode?_sorted {json : Json} (textual : json.IsTextual) :
    ofNode? (Node.ofJson json.sorted) = (ofNode? (Node.ofJson json)).map id := by
  rw [ofNode?, ofNode?, SortDirection.withProperty?_sorted textual, Option.map_id, Option.map_id]
  rfl

/-! ## Views -/

/-- Parts that are read one after another give the images of what others give, if each part is the
image of the other one. -/
theorem bind_map_congr {Part Found Whole : Type} {part : Option Part} {found : Option Found}
    {image : Part → Found} {next : Part → Option Whole} {nextFound : Found → Option Whole}
    {wholeImage : Whole → Whole} (same : found = part.map image)
    (rest : ∀ part, nextFound (image part) = (next part).map wholeImage) :
    found.bind nextFound = (part.bind next).map wholeImage := by
  subst same
  cases part with
  | none => rfl
  | some part => exact rest part

namespace ViewSpec

/-- A view with its maps in the order of their keys. -/
def inKeyOrder (view : ViewSpec) : ViewSpec :=
  { view with
    filters := view.filters.map FilterSpec.inKeyOrder
    summaries := view.summaries.map OrderedMap.inKeyOrder
    extra := view.extra.inKeyOrder }

section Fields

variable {members : List (String × Json)}

theorem optionalField?_sorted {Part : Type} {part? : Node → Option Part} {image : Part → Part}
    (textual : (Json.object members).IsTextual) (name : String)
    (each : ∀ value : Json, value.IsTextual →
      part? (Node.ofJson value.sorted) = (part? (Node.ofJson value)).map image) :
    optionalField? part? name
        ((Json.sortedOnto [] members).map fun (key, value) => (key, Node.ofJson value)) =
      (optionalField? part? name (members.map fun (key, value) => (key, Node.ofJson value))).map
        (Option.map image) := by
  have sortedNodup := Json.nodup_keys_sortedOnto members
  rw [optionalField?, optionalField?, Node.member?_ofMembers textual.nodup,
    Node.member?_ofMembers sortedNodup, Json.find?_sortedOnto textual.nodup]
  exact Node.defaulted?_sorted rfl fun value found =>
    Node.option?_sorted (textual.found found) (each value (textual.found found))

theorem extra?_sorted (nodup : (Entries.keys members).Nodup) :
    extra? ((Json.sortedOnto [] members).map fun (key, value) => (key, Node.ofJson value)) =
      (extra? (members.map fun (key, value) => (key, Node.ofJson value))).map
        OrderedMap.inKeyOrder := by
  have rising := (Json.risingKeys_sortedOnto members List.Pairwise.nil).le
  rw [extra?_eq, extra?_eq, Option.map_some]
  refine congrArg some (OrderedMap.ofList_eq_inKeyOrder ?_ ?_ ?_)
  · rw [Entries.keys_map _ Json.sorted]
    exact nodup.sublist (List.filter_sublist.map Prod.fst)
  · exact List.pairwise_map.mpr (rising.sublist List.filter_sublist)
  · refine (((Json.sorted_object_perm nodup).filter _).map _).trans (.of_eq ?_)
    rw [List.filter_map, List.map_map]
    refine List.map_congr_left fun member _ => ?_
    simp only [Function.comp_apply, Json.sorted_sorted]

end Fields

/-- A value with sorted keys is read as the same view with its maps in the order of their keys. -/
theorem ofNode?_sorted {json : Json} (textual : json.IsTextual) :
    ofNode? (Node.ofJson json.sorted) = (ofNode? (Node.ofJson json)).map inKeyOrder := by
  cases json with
  | scalar value =>
      rw [textual.sorted_scalar]
      cases value <;> rfl
  | array items =>
      rw [Json.sorted_array]
      rfl
  | object members =>
      have text : ∀ value : Json, value.IsTextual → (Node.ofJson value.sorted).text? =
          (Node.ofJson value).text?.map id := by
        intro value valueTextual
        rw [Node.text?_ofJson_sorted valueTextual, Option.map_id]
        rfl
      have texts : ∀ value : Json, value.IsTextual →
          Node.list? Node.text? (Node.ofJson value.sorted) =
            (Node.list? Node.text? (Node.ofJson value)).map (List.map id) :=
        fun value valueTextual => Node.list?_sorted valueTextual text
      have json : ∀ value : Json, value.IsTextual → (Node.ofJson value.sorted).toJson? =
          (Node.ofJson value).toJson?.map id := by
        intro value _
        rw [Node.toJson?_ofJson, Node.toJson?_ofJson, Json.sorted_sorted]
        rfl
      have sortedNodup := Json.nodup_keys_sortedOnto members
      have sort : Node.defaulted? [] (Node.list? SortRule.ofNode?)
          (((Entries.find? "sort" members).map Json.sorted).map Node.ofJson) =
            (Node.defaulted? [] (Node.list? SortRule.ofNode?)
              ((Entries.find? "sort" members).map Node.ofJson)).map (List.map id) :=
        Node.defaulted?_sorted rfl fun value found =>
          Node.list?_sorted (textual.found found) fun item => SortRule.ofNode?_sorted
      rw [Json.sorted, ofNode?, ofNode?, Node.members?_ofJson, Node.members?_ofJson]
      rw [Option.bind_eq_bind, Option.bind_eq_bind, Option.bind_some, Option.bind_some]
      refine bind_map_congr (optionalField?_sorted textual "type" text) fun type => ?_
      refine bind_map_congr (optionalField?_sorted textual "name" text) fun name => ?_
      refine bind_map_congr (optionalField?_sorted textual "filters" fun value =>
        FilterSpec.ofNode?_sorted) fun filters => ?_
      refine bind_map_congr (optionalField?_sorted textual "order" texts) fun order => ?_
      refine bind_map_congr (optionalField?_sorted textual "properties" texts) fun properties => ?_
      rw [Node.member?_ofMembers textual.nodup, Node.member?_ofMembers sortedNodup,
        Json.find?_sortedOnto textual.nodup, Option.bind_eq_bind, Option.bind_eq_bind,
        Option.bind_some, Option.bind_some]
      refine bind_map_congr sort fun sort => ?_
      refine bind_map_congr (optionalField?_sorted textual "groupBy" fun value =>
        GroupSpec.ofNode?_sorted) fun groupBy => ?_
      refine bind_map_congr (optionalField?_sorted textual "summaries" fun value valueTextual =>
        Node.mapping?_sorted valueTextual fun value => Node.text?_ofJson_sorted) fun summaries => ?_
      refine bind_map_congr (optionalField?_sorted textual "indentProperties" json)
        fun indentProperties => ?_
      refine bind_map_congr (extra?_sorted textual.nodup) fun extra => ?_
      simp [inKeyOrder]

end ViewSpec

/-! ## Bases -/

namespace BaseConfig

/-- A base with its maps in the order of their keys. -/
def inKeyOrder (base : BaseConfig) : BaseConfig :=
  ⟨base.filters.map FilterSpec.inKeyOrder, base.formulas.map Formulas.inKeyOrder,
    base.views.map ViewSpec.inKeyOrder⟩

/-- The base with these fields. -/
def ofFields? : List (Option Node) → Option BaseConfig
  | [filters, formulas, views] =>
    (Node.defaulted? none (Node.option? FilterSpec.ofNode?) filters).bind fun filters =>
      (Node.defaulted? none (Node.option? Formulas.ofNode?) formulas).bind fun formulas =>
        (Node.defaulted? [] (Node.list? ViewSpec.ofNode?) views).bind fun views =>
          some ⟨filters, formulas, views⟩
  | _ => none

theorem ofNode?_eq (node : Node) : ofNode? node = (node.fields? fieldNames).bind ofFields? :=
  rfl

/-- A value with sorted keys is read as the same base with its maps in the order of their keys. -/
theorem ofNode?_sorted {json : Json} (textual : json.IsTextual) :
    ofNode? (Node.ofJson json.sorted) = (ofNode? (Node.ofJson json)).map inKeyOrder := by
  refine Node.fields?_bind_sorted textual ofFields? fun parts partsTextual => ?_
  rcases parts with _ | ⟨filters, _ | ⟨formulas, _ | ⟨views, _ | ⟨_, _⟩⟩⟩⟩
  · rfl
  · rfl
  · rfl
  · have filtersSame : Node.defaulted? none (Node.option? FilterSpec.ofNode?)
        ((filters.map Json.sorted).map Node.ofJson) =
          (Node.defaulted? none (Node.option? FilterSpec.ofNode?) (filters.map Node.ofJson)).map
            (Option.map FilterSpec.inKeyOrder) :=
      Node.defaulted?_sorted rfl fun json isPart => by
        have textual := partsTextual filters json (by simp) isPart
        exact Node.option?_sorted textual (FilterSpec.ofNode?_sorted textual)
    have formulasSame : Node.defaulted? none (Node.option? Formulas.ofNode?)
        ((formulas.map Json.sorted).map Node.ofJson) =
          (Node.defaulted? none (Node.option? Formulas.ofNode?) (formulas.map Node.ofJson)).map
            (Option.map Formulas.inKeyOrder) :=
      Node.defaulted?_sorted rfl fun json isPart => by
        have textual := partsTextual formulas json (by simp) isPart
        exact Node.option?_sorted textual (Formulas.ofNode?_sorted textual)
    have viewsSame : Node.defaulted? [] (Node.list? ViewSpec.ofNode?)
        ((views.map Json.sorted).map Node.ofJson) =
          (Node.defaulted? [] (Node.list? ViewSpec.ofNode?) (views.map Node.ofJson)).map
            (List.map ViewSpec.inKeyOrder) :=
      Node.defaulted?_sorted rfl fun json isPart => by
        have textual := partsTextual views json (by simp) isPart
        exact Node.list?_sorted textual fun item => ViewSpec.ofNode?_sorted
    simp only [List.map_cons, List.map_nil, ofFields?, filtersSame, formulasSame, viewsSame,
      Option.bind_map, Option.map_bind, Function.comp_def, Option.map_some]
    rfl
  · rfl

end BaseConfig

/-! ## Results -/

/-- A result with its summaries and the members that are passed on in the order of their keys. -/
def ViewResult.inKeyOrder (result : ViewResult) : ViewResult :=
  { result with
    summaries := result.summaries.map fun (group, columns) => (group, columns.inKeyOrder)
    extra := result.extra.inKeyOrder }

theorem summarize_inKeyOrder (spec : OrderedMap String) (groups : List (String × List Record)) :
    (summarize spec.inKeyOrder groups).map (fun (group, columns) => (group, columns.inKeyOrder)) =
      (summarize spec groups).map fun (group, columns) => (group, columns.inKeyOrder) := by
  rw [summarize, summarize, List.map_map, List.map_map]
  refine List.map_congr_left fun (group, records) _ => ?_
  refine congrArg (Prod.mk group) (OrderedMap.inKeyOrder_eq_of_perm ?_)
  exact spec.entries_inKeyOrder_perm.map _

/-- Maps in another order change nothing but the order of maps in the result. -/
theorem ViewSpec.apply_inKeyOrder (now : Moment) (view : ViewSpec) (records : List Record) :
    (view.inKeyOrder.apply now records).inKeyOrder = (view.apply now records).inKeyOrder := by
  have selected : view.inKeyOrder.select now records = view.select now records := by
    rw [select, select, inKeyOrder, FilterSpec.filterRecords_inKeyOrder]
  have rows : ∀ records, (view.inKeyOrder.arrange records).1 = (view.arrange records).1 := by
    intro records
    unfold arrange inKeyOrder
    cases view.groupBy <;> rfl
  have summaries : ∀ records,
      (view.inKeyOrder.arrange records).2.map
          (fun (group, columns) => (group, OrderedMap.inKeyOrder columns)) =
        (view.arrange records).2.map fun (group, columns) => (group, columns.inKeyOrder) := by
    intro records
    unfold arrange inKeyOrder
    cases view.groupBy with
    | none =>
        rfl
    | some group =>
        cases view.summaries with
        | none => rfl
        | some spec => exact summarize_inKeyOrder spec _
  have extra : ((view.extra.inKeyOrder).filterKeys fun key => !resultKeys.contains key).inKeyOrder =
      (view.extra.filterKeys fun key => !resultKeys.contains key).inKeyOrder :=
    OrderedMap.inKeyOrder_eq_of_perm (view.extra.entries_inKeyOrder_perm.filter _)
  unfold apply ViewResult.inKeyOrder
  simp only [selected, rows, summaries]
  exact congrArg (ViewResult.mk _ _ _ _ _ _ _) extra

namespace BaseConfig

/-- A base with the formulas of a mapping in the order of their names. -/
def withOrderedFormulas (base : BaseConfig) : BaseConfig :=
  { base with formulas := base.formulas.map Formulas.inKeyOrder }

theorem process_inKeyOrder (now : Moment) (base : BaseConfig) (records : List Record) :
    base.inKeyOrder.process now records = base.withOrderedFormulas.process now records := by
  rw [process, process, inKeyOrder, FilterSpec.filterRecords_inKeyOrder]
  rfl

/-- Of all maps only that of the formulas matters by its order, up to the order of maps in the
results. -/
theorem render_inKeyOrder (now : Moment) (base : BaseConfig) (records : List Record) :
    (base.inKeyOrder.render now records).map ViewResult.inKeyOrder =
      (base.withOrderedFormulas.render now records).map ViewResult.inKeyOrder := by
  have views : base.inKeyOrder.views = base.views.map ViewSpec.inKeyOrder := rfl
  rw [render, render, process_inKeyOrder, views, List.map_map, List.map_map, List.map_map]
  exact List.map_congr_left fun view _ => view.apply_inKeyOrder now _

end BaseConfig

end NoteBase
