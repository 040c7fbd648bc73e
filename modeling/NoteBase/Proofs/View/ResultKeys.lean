import NoteBase.Proofs.Config.View
import NoteBase.Proofs.Value.Json
import NoteBase.Proofs.View.Group

/-!
# The keys of a result

Several writers add members to the JSON of a result: those of its own fields, those of the keys that
are passed on, and those of the headers, whose last key is the property of the grouping. No object
in it has a key twice, so whoever reads its text finds under the key of a field what is computed,
and a header is marked as one whatever the property is called.
-/

namespace NoteBase

open Calendar (Moment)

open Json (takeValue?)

/-! ## Rows -/

theorem Json.distinctKeys_texts (texts : List String) : (Json.texts texts).DistinctKeys := by
  refine .array fun item member => ?_
  obtain ⟨text, _, rfl⟩ := List.mem_map.mp member
  exact .scalar

theorem GroupSpec.distinctKeys_toJson (group : GroupSpec) : group.toJson.DistinctKeys := by
  have different : "property" ≠ "direction" := by decide
  refine .object (by simp [Entries.keys]) fun member isMember => ?_
  simp only [List.mem_cons, List.not_mem_nil, or_false] at isMember
  rcases isMember with rfl | rfl <;> exact .scalar

theorem Record.distinctKeys_toJson (record : Record) : record.toJson.DistinctKeys := by
  refine .object ?_ fun member isMember => ?_
  · rw [Entries.keys_map record.entries Value.toJson]
    exact record.nodup
  · obtain ⟨entry, _, rfl⟩ := List.mem_map.mp isMember
    exact Value.distinctKeys_toJson entry.2

namespace ViewRow

/-- What a header has under its keys: the marks of a header, and its key under the name of the
property unless that is the key of a mark. -/
def headerMembers (key property : String) : List (String × Json) :=
  [(markerKey, .bool true), (groupKeyKey, .text key)] ++
    if property = markerKey ∨ property = groupKeyKey then [] else [(property, .text key)]

theorem toJson_header (key property : String) :
    (ViewRow.header key property).toJson = .object (headerMembers key property) :=
  rfl

theorem nodup_headerMembers (key property : String) :
    (Entries.keys (headerMembers key property)).Nodup := by
  have marks : markerKey ≠ groupKeyKey := by decide
  unfold headerMembers
  split
  · simp [Entries.keys, marks]
  · next noMark =>
    obtain ⟨noMarker, noGroupKey⟩ := not_or.mp noMark
    simp [Entries.keys, marks, Ne.symm noMarker, Ne.symm noGroupKey]

theorem find?_headerMembers_marker (key property : String) :
    Entries.find? markerKey (headerMembers key property) = some (.bool true) :=
  rfl

theorem find?_headerMembers_groupKey (key property : String) :
    Entries.find? groupKeyKey (headerMembers key property) = some (.text key) :=
  rfl

/-- In the text of a header both marks are found, whatever the property is called. -/
theorem readAs_header (key property : String) :
    ∃ members, (ViewRow.header key property).toJson.readAs.members? = some members ∧
      Node.member? markerKey members = some (some (Node.ofJson (.bool true))) ∧
      Node.member? groupKeyKey members = some (some (Node.ofJson (.text key))) := by
  have nodup := nodup_headerMembers key property
  refine ⟨_, by rw [toJson_header]; exact Node.members?_readAs _, ?_, ?_⟩
  · rw [Node.member?_map nodup, find?_headerMembers_marker]
    exact congrArg (some ∘ some) (Json.readAs_of_written (.scalar trivial))
  · rw [Node.member?_map nodup, find?_headerMembers_groupKey]
    exact congrArg (some ∘ some) (Json.readAs_of_written (.scalar trivial))

theorem distinctKeys_toJson (row : ViewRow) : row.toJson.DistinctKeys := by
  cases row with
  | entry record =>
      exact record.distinctKeys_toJson
  | header key property =>
      refine .object (nodup_headerMembers key property) fun member isMember => ?_
      rcases List.mem_append.mp isMember with inMarks | inProperty
      · simp only [List.mem_cons, List.not_mem_nil, or_false] at inMarks
        rcases inMarks with rfl | rfl <;> exact .scalar
      · split at inProperty
        · cases inProperty
        · rw [List.mem_singleton.mp inProperty]
          exact .scalar

end ViewRow

/-! ## Results -/

namespace ViewResult

theorem distinctKeys_jsonOfSummaries {summaries : List (String × OrderedMap (Option Float))}
    (nodup : (Entries.keys summaries).Nodup) : (jsonOfSummaries summaries).DistinctKeys := by
  have cell : ∀ summary, (jsonOfSummary summary).DistinctKeys := by
    intro summary
    cases summary <;> exact .scalar
  refine .object ?_ fun member isMember => ?_
  · rw [Entries.keys, List.map_map]
    exact nodup
  · obtain ⟨⟨key, columns⟩, _, rfl⟩ := List.mem_map.mp isMember
    refine .object ?_ fun column isColumn => ?_
    · rw [Entries.keys_map columns.entries jsonOfSummary]
      exact columns.nodup
    · obtain ⟨entry, _, rfl⟩ := List.mem_map.mp isColumn
      exact cell entry.2

/-- What a result has under the keys that are computed; only the name may be absent. -/
def computed (result : ViewResult) : List (String × Option Json) :=
  [("name", result.name.map .text),
   ("columns", some (.texts result.columns)),
   ("data", some (.array (result.rows.map ViewRow.toJson))),
   ("summaries", some (jsonOfSummaries result.summaries)),
   ("viewType", some (.text result.type)),
   ("groupBy", some (jsonOrNull GroupSpec.toJson result.groupBy)),
   ("indentProperties", some (jsonOrNull id result.indentProperties))]

theorem keys_computed (result : ViewResult) : Entries.keys result.computed = resultKeys :=
  rfl

theorem toJson_eq (result : ViewResult) :
    result.toJson = .object (Entries.present result.computed ++ result.extra.entries) := by
  rw [toJson, computed, Entries.present_cons, ViewSpec.optionalMember_eq]
  rfl

variable {result : ViewResult}

theorem distinctKeys_of_mem_computed (summaries : (Entries.keys result.summaries).Nodup)
    (indent : ∀ json, result.indentProperties = some json → json.DistinctKeys)
    {key : String} {json : Json} (isPart : (key, some json) ∈ result.computed) :
    json.DistinctKeys := by
  have rows : (Json.array (result.rows.map ViewRow.toJson)).DistinctKeys := by
    refine .array fun item member => ?_
    obtain ⟨row, _, rfl⟩ := List.mem_map.mp member
    exact row.distinctKeys_toJson
  have grouping : (jsonOrNull GroupSpec.toJson result.groupBy).DistinctKeys := by
    cases result.groupBy with
    | none => exact .scalar
    | some group => exact group.distinctKeys_toJson
  have indented : (jsonOrNull id result.indentProperties).DistinctKeys := by
    cases raw : result.indentProperties with
    | none => exact .scalar
    | some json => exact indent json raw
  simp only [computed, List.mem_cons, List.not_mem_nil, or_false, Prod.mk.injEq,
    Option.some.injEq] at isPart
  rcases isPart with ⟨_, name⟩ | ⟨_, rfl⟩ | ⟨_, rfl⟩ | ⟨_, rfl⟩ | ⟨_, rfl⟩ | ⟨_, rfl⟩ | ⟨_, rfl⟩
  · obtain ⟨text, _, rfl⟩ := Option.map_eq_some_iff.mp name.symm
    exact .scalar
  · exact Json.distinctKeys_texts _
  · exact rows
  · exact distinctKeys_jsonOfSummaries summaries
  · exact .scalar
  · exact grouping
  · exact indented

/-- What a reader finds in the text of a result. No object in it has a key twice, and the text is
read as a whole, without repeated keys, by every reader that allows for its nesting. Under each key
of the result is what is computed, and under any other key what is passed on. A header is marked as
one and has its key under the key that is reserved for it. -/
structure ReadsAsComputed (result : ViewResult) (passedOn : OrderedMap Json) : Prop where
  distinct : result.toJson.DistinctKeys
  text : ∃ nesting, ∀ depth, nesting ≤ depth →
    takeValue? (2 * result.toJson.chars.length + 1) depth result.toJson.chars =
      some (result.toJson.readAs, [])
  distinctRead : result.toJson.readAs.DistinctKeys
  members : ∃ members, result.toJson.readAs.members? = some members ∧
    (∀ part ∈ result.computed,
      Node.member? part.1 members = some (part.2.map Json.readAs)) ∧
    ∀ key ∉ resultKeys, Node.member? key members = some ((passedOn.get? key).map Json.readAs)
  headers : ∀ key property, ViewRow.header key property ∈ result.rows →
    ∃ members, (ViewRow.header key property).toJson.readAs.members? = some members ∧
      Node.member? ViewRow.markerKey members = some (some (Node.ofJson (.bool true))) ∧
      Node.member? ViewRow.groupKeyKey members = some (some (Node.ofJson (.text key)))

section PassedOn

variable {passedOn : OrderedMap Json}
  (extra : result.extra = passedOn.filterKeys fun key => !resultKeys.contains key)

theorem nodup_keys_computed : (Entries.keys result.computed).Nodup := by
  rw [keys_computed]
  decide

include extra

theorem of_mem_extra {entry : String × Json} (isEntry : entry ∈ result.extra.entries) :
    entry ∈ passedOn.entries ∧ entry.1 ∉ Entries.keys result.computed := by
  rw [extra] at isEntry
  obtain ⟨isPassedOn, kept⟩ := List.mem_filter.mp isEntry
  exact ⟨isPassedOn, by simpa [keys_computed] using kept⟩

theorem nodup_members :
    (Entries.keys (Entries.present result.computed ++ result.extra.entries)).Nodup :=
  Entries.nodup_keys_present_append nodup_keys_computed result.extra.nodup
    fun _ isEntry => (of_mem_extra extra isEntry).2

theorem distinctKeys_toJson (summaries : (Entries.keys result.summaries).Nodup)
    (indent : ∀ json, result.indentProperties = some json → json.DistinctKeys)
    (values : ∀ entry ∈ passedOn.entries, entry.2.DistinctKeys) :
    result.toJson.DistinctKeys := by
  rw [toJson_eq]
  refine .object (nodup_members extra) fun member isMember => ?_
  rcases List.mem_append.mp isMember with inComputed | inExtra
  · obtain ⟨⟨key, part⟩, isPart, same⟩ := List.mem_filterMap.mp inComputed
    obtain ⟨json, rfl, rfl⟩ := Option.map_eq_some_iff.mp same
    exact distinctKeys_of_mem_computed summaries indent isPart
  · exact values member (of_mem_extra extra inExtra).1

/-- In the text of a result each part is found that is computed, and else what is passed on. -/
theorem readAs_members :
    ∃ members, result.toJson.readAs.members? = some members ∧
      (∀ part ∈ result.computed,
        Node.member? part.1 members = some (part.2.map Json.readAs)) ∧
      ∀ key ∉ resultKeys,
        Node.member? key members = some ((passedOn.get? key).map Json.readAs) := by
  have nodup := nodup_members extra
  refine ⟨_, by rw [toJson_eq]; exact Node.members?_readAs _, ?_, ?_⟩
  · intro part isPart
    have inside : part.1 ∈ Entries.keys result.computed := List.mem_map_of_mem isPart
    rw [Node.member?_map nodup,
      Entries.find?_present_append nodup_keys_computed
        (fun _ isEntry => (of_mem_extra extra isEntry).2) inside,
      (Entries.find?_eq_some_iff nodup_keys_computed).mpr isPart]
    rfl
  · intro key noKey
    have kept : (!resultKeys.contains key) = true := by simpa using noKey
    have passed : Entries.find? key result.extra.entries = passedOn.get? key := by
      show result.extra.get? key = _
      rw [extra, OrderedMap.get?_filterKeys, if_pos kept]
    rw [Node.member?_map nodup,
      Entries.find?_present_append_of_not_mem (result.keys_computed ▸ noKey), passed]

end PassedOn

end ViewResult

/-! ## Views -/

namespace ViewSpec

/-- The JSON values in a view have no key twice, as JSON values that are held in maps. -/
structure HasDistinctKeys (view : ViewSpec) : Prop where
  indentProperties : ∀ json, view.indentProperties = some json → json.DistinctKeys
  extra : ∀ entry ∈ view.extra.entries, entry.2.DistinctKeys

/-- What is read as a view has no key twice. -/
theorem hasDistinctKeys_of_ofNode? {node : Node} {view : ViewSpec}
    (read : ofNode? node = some view) : view.HasDistinctKeys := by
  rw [ofNode?] at read
  obtain ⟨members, _, read⟩ := Option.bind_eq_some_iff.mp read
  obtain ⟨type, _, read⟩ := Option.bind_eq_some_iff.mp read
  obtain ⟨name, _, read⟩ := Option.bind_eq_some_iff.mp read
  obtain ⟨filters, _, read⟩ := Option.bind_eq_some_iff.mp read
  obtain ⟨order, _, read⟩ := Option.bind_eq_some_iff.mp read
  obtain ⟨properties, _, read⟩ := Option.bind_eq_some_iff.mp read
  obtain ⟨sortField, _, read⟩ := Option.bind_eq_some_iff.mp read
  obtain ⟨sort, _, read⟩ := Option.bind_eq_some_iff.mp read
  obtain ⟨groupBy, _, read⟩ := Option.bind_eq_some_iff.mp read
  obtain ⟨summaries, _, read⟩ := Option.bind_eq_some_iff.mp read
  obtain ⟨indentProperties, indentRead, read⟩ := Option.bind_eq_some_iff.mp read
  obtain ⟨extra, extraRead, same⟩ := Option.bind_eq_some_iff.mp read
  cases same
  constructor
  · rintro json rfl
    obtain ⟨_, _, _, become⟩ := exists_of_optionalField? indentRead
    exact Node.distinctKeys_of_toJson? become
  · intro entry isEntry
    obtain ⟨values, valuesRead, same⟩ := Option.bind_eq_some_iff.mp extraRead
    cases same
    obtain ⟨member, _, memberRead⟩ :=
      exists_of_mem_mapM valuesRead (Entries.mem_of_mem_collect isEntry)
    obtain ⟨json, jsonRead, rfl⟩ := Option.map_eq_some_iff.mp memberRead
    obtain ⟨settled, _, become⟩ := Option.bind_eq_some_iff.mp jsonRead
    exact Node.distinctKeys_of_toJson? become

/-- The summaries of a view have the keys of its groups. -/
theorem nodup_summaries (view : ViewSpec) (records : List Record) :
    (Entries.keys (view.arrange records).2).Nodup := by
  unfold arrange
  split
  · exact List.nodup_nil
  · next group _ =>
    simp only
    split
    · next spec _ =>
      rw [summarize, Entries.keys_map (groupRecords group records) (summarizeGroup spec)]
      exact (isGrouping_groupRecords group records).distinct
    · exact List.nodup_nil

/-- Whatever a view passes on and whatever the property is called that it groups by, a reader finds
in the text of its result what is computed. -/
theorem apply_readsAsComputed (now : Moment) {view : ViewSpec} (distinct : view.HasDistinctKeys)
    (records : List Record) : (view.apply now records).ReadsAsComputed view.extra := by
  have distinctResult : (view.apply now records).toJson.DistinctKeys :=
    ViewResult.distinctKeys_toJson rfl (view.nodup_summaries _) distinct.indentProperties
      distinct.extra
  obtain ⟨nesting, nested⟩ := Json.exists_nested (view.apply now records).toJson
  exact {
    distinct := distinctResult
    text := ⟨nesting, fun depth enough => Json.takeValue?_chars (nested.mono enough)⟩
    distinctRead := distinctResult.readAs
    members := ViewResult.readAs_members rfl
    headers := fun key property _ => ViewRow.readAs_header key property }

/-- A view that groups by a reserved key and passes on two keys that are computed. -/
def shadowingView : ViewSpec :=
  { shelfView (some ⟨ViewRow.groupKeyKey, .ascending⟩) with
    extra := .ofList [("columns", .text "mine"), ("viewType", .integer 1),
      ("image", .text "a.png")] }

theorem apply_readsAsComputed_shadowing :
    shadowingView.HasDistinctKeys ∧
      (shadowingView.apply Moment.epoch shelfRecords).ReadsAsComputed shadowingView.extra := by
  have distinct : shadowingView.HasDistinctKeys := by
    refine ⟨nofun, fun entry isEntry => ?_⟩
    have isWritten := Entries.mem_of_mem_collect isEntry
    simp only [List.mem_cons, List.not_mem_nil, or_false] at isWritten
    rcases isWritten with rfl | rfl | rfl <;> exact .scalar
  exact ⟨distinct, apply_readsAsComputed Moment.epoch distinct shelfRecords⟩

end ViewSpec

end NoteBase
