import NoteBase.Config.Base
import NoteBase.Proofs.Config.View

/-!
# Bases are read as they are written

A base that is read from JSON text without repeated keys is written as JSON text that is read as the
same base: with filters of the same shapes, formulas of the same shape and order, and views with the
same fields and the same other keys in order. Only the sign of zero may be lost, and only among the
values that a filter expects.
-/

namespace NoteBase

open Json (IsWritten)

/-! ## Formulas -/

theorem FormulaDef.ofNode?_toJson (definition : FormulaDef) :
    ofNode? (Node.ofJson definition.toJson) = some definition := by
  rw [toJson, ofNode?, Node.fields?_pair (by decide)]
  rfl

namespace Formulas

theorem ofNode?_toJson (formulas : Formulas) :
    ofNode? (Node.ofJson formulas.toJson) = some formulas := by
  rw [ofNode?, Node.settle?_ofJson, Option.bind_some]
  cases formulas with
  | list definitions =>
      have read : (Node.ofItems (definitions.map FormulaDef.toJson)).mapM FormulaDef.ofNode? =
          some (definitions.map id) :=
        Node.list?_ofJson_map FormulaDef.toJson id fun definition _ =>
          FormulaDef.ofNode?_toJson definition
      rw [List.map_id] at read
      rw [toJson, Node.ofJson, ofSettled?, read]
      rfl
  | map formulas =>
      have read : (Node.ofJson (Formulas.map formulas).toJson).mapping? Node.text? =
          some formulas := ViewSpec.mapping?_jsonOfTexts formulas
      rw [toJson, Node.ofJson, ofSettled?]
      · exact congrArg (Option.map Formulas.map) read
      · intro _ _ same
        cases same

theorem toJson_fits (formulas : Formulas) (depth : Nat) : formulas.toJson.Fits (depth + 2) := by
  cases formulas with
  | list definitions =>
      refine .array fun json isJson => ?_
      obtain ⟨definition, _, rfl⟩ := List.mem_map.mp isJson
      refine .object fun member isMember => ?_
      simp only [List.mem_cons, List.not_mem_nil, or_false] at isMember
      rcases isMember with rfl | rfl <;> exact .text _
  | map formulas =>
      exact ViewSpec.fits_jsonOfTexts formulas (depth + 1)

end Formulas

namespace BaseConfig

/-! ## The written members -/

def ownParts (base : BaseConfig) : List (String × Option Json) :=
  [("filters", base.filters.map FilterSpec.toJson),
   ("formulas", base.formulas.map Formulas.toJson),
   ("views", some (.array (base.views.map ViewSpec.toJson)))]

theorem toJson_eq (base : BaseConfig) : base.toJson = .object (Entries.present base.ownParts) := by
  simp only [toJson, ownParts, Entries.present_cons, ViewSpec.optionalMember_eq, List.append_assoc]
  rfl

theorem keys_ownParts (base : BaseConfig) : Entries.keys base.ownParts = fieldNames :=
  rfl

/-! ## What is read -/

/-- What holds of a base that is read from JSON text, with a bound on the nesting of its parts. -/
structure IsRead (depth : Nat) (base : BaseConfig) : Prop where
  filters : ∀ filter, base.filters = some filter →
    ∃ json, json.DistinctKeys ∧ json.Nested (depth + 2) ∧ FilterSpec.ofJson? json = some filter
  views : ∀ view ∈ base.views, view.IsRead depth

theorem isRead_of_ofNode? {depth : Nat} {node : Node} (sound : node.IsSound (depth + 3))
    {base : BaseConfig} (read : ofNode? node = some base) : base.IsRead depth := by
  obtain ⟨parts, fieldsRead, read⟩ := Option.bind_eq_some_iff.mp read
  have partsSound := Node.isSound_of_fields? sound fieldsRead
  split at read
  · next filtersField formulasField viewsField =>
    obtain ⟨filters, filtersRead, read⟩ := Option.bind_eq_some_iff.mp read
    obtain ⟨formulas, _, read⟩ := Option.bind_eq_some_iff.mp read
    obtain ⟨views, viewsRead, same⟩ := Option.bind_eq_some_iff.mp read
    cases same
    constructor
    · rintro filter rfl
      cases filtersField with
      | none => cases filtersRead
      | some part =>
          have partSound := partsSound part (by simp)
          obtain ⟨_, partRead⟩ := Node.exists_of_option? filtersRead
          obtain ⟨settled, settles, _⟩ := Option.bind_eq_some_iff.mp partRead
          obtain ⟨json, rfl, nested, _, distinct⟩ := partSound.settled settles
          exact ⟨json, distinct, nested, FilterSpec.ofNode?_ofJson json ▸ partRead⟩
    · intro view isView
      cases viewsField with
      | none =>
          cases viewsRead
          cases isView
      | some part =>
          have partSound := partsSound part (by simp)
          obtain ⟨positional, items, rfl, itemsRead⟩ :=
            Node.exists_items partSound.isRead viewsRead
          obtain ⟨item, isItem, itemRead⟩ := exists_of_mem_mapM itemsRead isView
          exact ViewSpec.isRead_of_ofNode? (partSound.item isItem) itemRead
  · cases read

/-! ## Through JSON and back -/

/-- A base with the positive zero for every zero among the values that its filters expect. -/
def plainZeros (base : BaseConfig) : BaseConfig :=
  ⟨base.filters.map FilterSpec.plainZeros, base.formulas, base.views.map ViewSpec.plainZeros⟩

theorem ofNode?_toJson {depth : Nat} {base : BaseConfig} (isRead : base.IsRead depth)
    (written : base.toJson.Every IsWritten) :
    ofNode? (Node.ofJson base.toJson) = some base.plainZeros := by
  have namesNodup : (Entries.keys base.ownParts).Nodup := by
    rw [keys_ownParts]
    decide
  have nodup := namesNodup.sublist (Entries.keys_present base.ownParts)
  have found : ∀ name, Entries.find? name (Entries.present base.ownParts) =
      (Entries.find? name base.ownParts).join := fun _ => Entries.find?_present namesNodup
  rw [toJson_eq] at written ⊢
  cases written with
  | object inside =>
  have filtersFound : Entries.find? "filters" (Entries.present base.ownParts) =
      base.filters.map FilterSpec.toJson := found "filters"
  have formulasFound : Entries.find? "formulas" (Entries.present base.ownParts) =
      base.formulas.map Formulas.toJson := found "formulas"
  have viewsFound : Entries.find? "views" (Entries.present base.ownParts) =
      some (.array (base.views.map ViewSpec.toJson)) := found "views"
  have filters : Node.defaulted? none (Node.option? FilterSpec.ofNode?)
      ((base.filters.map FilterSpec.toJson).map Node.ofJson) =
        some (base.filters.map FilterSpec.plainZeros) := by
    cases isFilters : base.filters with
    | none =>
        rfl
    | some filter =>
        obtain ⟨json, distinct, _, filterRead⟩ := isRead.filters filter isFilters
        rw [isFilters] at filtersFound
        have filterWritten := inside _ (Entries.mem_of_find? filtersFound)
        simp only [Option.map_some, Node.defaulted?,
          Node.option?_ofJson _ (ViewSpec.toJson_filter_ne_null filter), FilterSpec.ofNode?_ofJson,
          FilterSpec.ofJson?_toJson distinct filterRead filterWritten]
  have formulas : Node.defaulted? none (Node.option? Formulas.ofNode?)
      ((base.formulas.map Formulas.toJson).map Node.ofJson) = some base.formulas := by
    cases base.formulas with
    | none =>
        rfl
    | some formulas =>
        have notNull : formulas.toJson ≠ .null := by
          cases formulas <;> rintro ⟨⟩
        simp only [Option.map_some, Node.defaulted?, Node.option?_ofJson _ notNull,
          Formulas.ofNode?_toJson]
  have views : Node.defaulted? [] (Node.list? ViewSpec.ofNode?)
      (some (Node.ofJson (.array (base.views.map ViewSpec.toJson)))) =
        some (base.views.map ViewSpec.plainZeros) := by
    have viewsWritten := inside _ (Entries.mem_of_find? viewsFound)
    cases viewsWritten with
    | array eachWritten =>
    exact Node.list?_ofJson_map ViewSpec.toJson ViewSpec.plainZeros fun view isView =>
      ViewSpec.ofNode?_toJson (isRead.views view isView)
        (eachWritten _ (List.mem_map_of_mem isView))
  rw [ofNode?, Node.fields?_ofJson_object fieldNames nodup]
  simp only [fieldNames, List.map_cons, List.map_nil, filtersFound, formulasFound, viewsFound,
    Option.bind_eq_bind, Option.bind_some, Option.map_some, filters, formulas, views]
  rfl

/-- A base is nested no deeper than the bound of JSON text, and its integers are words. -/
theorem toJson_fits {depth : Nat} {base : BaseConfig} (isRead : base.IsRead (depth + 2)) :
    base.toJson.Fits (depth + 5) := by
  rw [toJson_eq]
  refine .object fun member isMember => ?_
  obtain ⟨part, isPart, present⟩ := List.mem_filterMap.mp isMember
  obtain ⟨json, isJson, rfl⟩ := Option.map_eq_some_iff.mp present
  simp only [ownParts, List.mem_cons, List.not_mem_nil, or_false] at isPart
  rcases isPart with rfl | rfl | rfl
  · obtain ⟨filter, isFilter, rfl⟩ := Option.map_eq_some_iff.mp isJson
    obtain ⟨source, distinct, nested, read⟩ := isRead.filters filter isFilter
    exact FilterSpec.toJson_fits distinct read nested
  · obtain ⟨formulas, _, rfl⟩ := Option.map_eq_some_iff.mp isJson
    exact formulas.toJson_fits (depth + 2)
  · cases isJson
    refine .array fun json isJson => ?_
    obtain ⟨view, isView, rfl⟩ := List.mem_map.mp isJson
    exact ViewSpec.toJson_fits (isRead.views view isView)

/-- A double that its text reads back as. -/
def DoubleReadsBack : Scalar → Prop
  | .float value => Json.ReadsBack value
  | _ => True

/-- A base that is read from JSON text is written as JSON text that is read as the same base. No
object in the text has a key twice, and the doubles that are written read back. -/
theorem ofJsonText_toJson {text : String} {base : BaseConfig}
    (distinct : ∀ node, Node.ofJsonText? text = some node → node.DistinctKeys)
    (read : ofJsonText text = .ok base) (back : base.toJson.Every DoubleReadsBack) :
    ofJsonText base.toJson.compact = .ok base.plainZeros := by
  unfold ofJsonText at read
  split at read
  · next found baseRead =>
    cases read
    obtain ⟨node, isNode, nodeRead⟩ := Option.bind_eq_some_iff.mp baseRead
    have sound : node.IsSound (124 + 3) := ⟨Json.isRead_of_ofJsonText? isNode, distinct node isNode⟩
    have isRead := isRead_of_ofNode? sound nodeRead
    have fits : base.toJson.Fits (122 + 5) := toJson_fits isRead
    obtain ⟨nested, words⟩ := fits
    have written : base.toJson.Every IsWritten := (words.and back).imp fun scalar both => by
      cases scalar with
      | integer _ => exact both.1
      | float _ => exact both.2
      | null => trivial
      | bool _ => trivial
      | text _ => trivial
    rw [ofJsonText, Json.nodeOfText?_compact nested written, Option.bind_some,
      ofNode?_toJson isRead written]
  · cases read

/-! ### A base with a filter that is almost a combinator -/

def almostCombinedText : String :=
  "\x7b\"filters\":\x7b\"or\":[true],\"score\":2.5\x7d," ++
  "\"formulas\":\x7b\"b\":\"1\",\"a\":\"formula.b\"\x7d," ++
  "\"views\":[\x7b\"name\":\"All\",\"sort\":[[\"b\",\"desc\"]],\"limit\":3\x7d]\x7d"

def twoAndHalf : Float := Float.ofBits 0x4004000000000000

theorem readsBack_twoAndHalf : Json.ReadsBack twoAndHalf :=
  .of_takeNumber? (by decide +kernel) (by decide +kernel)

def almostCombinedJson : Json :=
  .object
    [("filters", .object [("or", .array [.bool true]), ("score", .float twoAndHalf)]),
     ("formulas", .object [("b", .text "1"), ("a", .text "formula.b")]),
     ("views", .array
       [.object
         [("name", .text "All"), ("sort", .array [.texts ["b", "desc"]]), ("limit", .integer 3)]])]

/-- The list under `or` holds no filter, so the filter expects values of two properties. -/
def almostCombined : BaseConfig where
  filters := some (.equals ⟨[("or", .list [.bool true]), ("score", .number twoAndHalf)], by decide⟩)
  formulas := some (.map ⟨[("b", "1"), ("a", "formula.b")], by decide⟩)
  views :=
    [{ type := none
       name := some "All"
       filters := none
       order := none
       properties := none
       sort := [⟨"b", .descending⟩]
       groupBy := none
       summaries := none
       indentProperties := none
       extra := ⟨[("limit", .integer 3)], by decide⟩ }]

theorem ofJsonText_almostCombinedText :
    Node.ofJsonText? almostCombinedText = some (Node.ofJson almostCombinedJson) ∧
      ofJsonText almostCombinedText = .ok almostCombined := by
  have written : almostCombinedJson.Every IsWritten := by
    simp [almostCombinedJson, Json.bool, Json.text, Json.texts, Json.integer, Json.float,
      IsWritten, Json.IsWord, readsBack_twoAndHalf]
  have nested : almostCombinedJson.Nested 127 := by
    simp [almostCombinedJson, Json.bool, Json.text, Json.texts, Json.integer, Json.float]
  have text : almostCombinedJson.compact = almostCombinedText := by decide +kernel
  have node := Json.nodeOfText?_compact nested written
  rw [text] at node
  refine ⟨node, ?_⟩
  rw [ofJsonText, node]
  rfl

theorem ofJsonText_toJson_almostCombined :
    ofJsonText almostCombinedText = .ok almostCombined ∧
      ofJsonText almostCombined.toJson.compact = .ok almostCombined.plainZeros := by
  obtain ⟨isNode, read⟩ := ofJsonText_almostCombinedText
  refine ⟨read, ofJsonText_toJson ?_ read ?_⟩
  · intro node found
    obtain rfl : Node.ofJson almostCombinedJson = node := Option.some.inj (isNode.symm.trans found)
    rw [Node.distinctKeys_ofJson_iff]
    simp [almostCombinedJson, Json.bool, Json.text, Json.texts, Json.integer, Json.float,
      Entries.keys]
  · have score : Value.jsonOfNumber twoAndHalf = .float twoAndHalf := by
      rw [Value.jsonOfNumber, if_neg (by decide +kernel)]
    simp [almostCombined, toJson, FilterSpec.toJson, Formulas.toJson, ViewSpec.toJson,
      ViewSpec.optionalMember, SortRule.toJson, SortDirection.jsonWithProperty, Value.toJson,
      Value.toJsonItems, Json.bool, Json.text, Json.integer, Json.float, DoubleReadsBack, score,
      readsBack_twoAndHalf]

end BaseConfig

end NoteBase
