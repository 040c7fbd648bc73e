import NoteBase.Config.View
import NoteBase.Proofs.Config.Filter

/-!
# Views are read as they are written

A view that is read from a node of JSON text is written as a value that is read as the same view.
What it writes under its own fields comes back under these fields, and its other keys are none of
them.
-/

namespace NoteBase

open Json (IsHeld IsWritten)

/-! ## Sort rules and groupings -/

theorem SortDirection.withProperty?_jsonWithProperty (property : String)
    (direction : SortDirection) :
    withProperty? (Node.ofJson (direction.jsonWithProperty property)) =
      some (property, direction) := by
  rw [jsonWithProperty, withProperty?, Node.fields?_pair (by decide)]
  cases direction <;> rfl

theorem SortRule.ofNode?_toJson (rule : SortRule) :
    ofNode? (Node.ofJson rule.toJson) = some rule := by
  rw [toJson, ofNode?, SortDirection.withProperty?_jsonWithProperty]
  rfl

theorem GroupSpec.ofNode?_toJson (group : GroupSpec) :
    ofNode? (Node.ofJson group.toJson) = some group := by
  rw [toJson, ofNode?, SortDirection.withProperty?_jsonWithProperty]
  rfl

theorem SortDirection.jsonWithProperty_fits (property : String) (direction : SortDirection)
    (depth : Nat) : (direction.jsonWithProperty property).Fits (depth + 1) := by
  refine .object fun member isMember => ?_
  simp only [List.mem_cons, List.not_mem_nil, or_false] at isMember
  rcases isMember with rfl | rfl <;> exact .text _

namespace ViewSpec

/-! ## The written members -/

/-- What a view writes under its own fields, in their order. -/
def ownParts (view : ViewSpec) : List (String × Option Json) :=
  [("type", view.type.map .text),
   ("name", view.name.map .text),
   ("filters", view.filters.map FilterSpec.toJson),
   ("order", view.order.map .texts),
   ("properties", view.properties.map .texts),
   ("sort",
    if view.sort.isEmpty then none else some (.array (view.sort.map SortRule.toJson))),
   ("groupBy", view.groupBy.map GroupSpec.toJson),
   ("summaries", view.summaries.map jsonOfTexts),
   ("indentProperties", view.indentProperties)]

theorem optionalMember_eq {Part : Type} (key : String) (json : Part → Json) (part : Option Part) :
    optionalMember key json part = ((part.map json).map fun value => (key, value)).toList := by
  cases part <;> rfl

theorem toJson_eq (view : ViewSpec) :
    view.toJson = .object (Entries.present view.ownParts ++ view.extra.entries) := by
  have sort : (if view.sort.isEmpty then []
      else [("sort", Json.array (view.sort.map SortRule.toJson))]) =
        ((if view.sort.isEmpty then none
          else some (Json.array (view.sort.map SortRule.toJson))).map
            fun value => ("sort", value)).toList := by
    split <;> rfl
  simp only [toJson, ownParts, Entries.present_cons, optionalMember_eq, sort, List.append_assoc,
    Option.map_id_fun, id_eq]
  rfl

theorem keys_ownParts (view : ViewSpec) : Entries.keys view.ownParts = fieldNames :=
  rfl

/-! ## What is read -/

/-- What holds of a view that is read from JSON text, with a bound on the nesting of its parts. -/
structure IsRead (depth : Nat) (view : ViewSpec) : Prop where
  filters : ∀ filter, view.filters = some filter →
    ∃ json, json.DistinctKeys ∧ json.Nested depth ∧ FilterSpec.ofJson? json = some filter
  indentProperties : ∀ json, view.indentProperties = some json →
    json ≠ .null ∧ json.IsSorted ∧ json.Nested depth ∧ json.Every IsHeld
  extraKeys : ∀ entry ∈ view.extra.entries, entry.1 ∉ fieldNames
  extraValues : ∀ entry ∈ view.extra.entries,
    entry.2.IsSorted ∧ entry.2.Nested depth ∧ entry.2.Every IsHeld

/-- A field that is there is a member that is not null. -/
theorem exists_of_optionalField? {Part : Type} {part? : Node → Option Part} {name : String}
    {members : List (String × Node)} {part : Part}
    (read : optionalField? part? name members = some (some part)) :
    ∃ node, (name, node) ∈ members ∧ node ≠ .null ∧ part? node = some part := by
  obtain ⟨field, found, fieldRead⟩ := Option.bind_eq_some_iff.mp read
  cases field with
  | none =>
      cases fieldRead
  | some node =>
      exact ⟨node, Node.mem_of_member? found, Node.exists_of_option? fieldRead⟩

theorem isRead_of_extra? {depth : Nat} {members : List (String × Node)}
    (sound : ∀ member ∈ members, member.2.IsSound depth) {extra : OrderedMap Json}
    (read : extra? members = some extra) :
    ∀ entry ∈ extra.entries, entry.1 ∉ fieldNames ∧
      entry.2.IsSorted ∧ entry.2.Nested depth ∧ entry.2.Every IsHeld := by
  obtain ⟨values, valuesRead, same⟩ := Option.bind_eq_some_iff.mp read
  cases same
  intro entry isEntry
  obtain ⟨member, inOthers, memberRead⟩ :=
    exists_of_mem_mapM valuesRead (Entries.mem_of_mem_collect isEntry)
  obtain ⟨isMember, noField⟩ := List.mem_filter.mp inOthers
  obtain ⟨json, jsonRead, rfl⟩ := Option.map_eq_some_iff.mp memberRead
  obtain ⟨settled, settles, become⟩ := Option.bind_eq_some_iff.mp jsonRead
  have memberSound := sound member isMember
  obtain ⟨source, isSource, _⟩ := memberSound.settled settles
  have isSettled : settled = member.2 := by
    rw [isSource, Node.settle?_ofJson] at settles
    exact isSource ▸ (Option.some.inj settles).symm
  rw [isSettled] at become
  exact ⟨by simpa using noField, Node.isSorted_of_toJson? memberSound.isRead become⟩

theorem isRead_of_ofNode? {depth : Nat} {node : Node} (sound : node.IsSound (depth + 1))
    {view : ViewSpec} (read : ofNode? node = some view) : view.IsRead depth := by
  rw [ofNode?] at read
  obtain ⟨members, membersRead, read⟩ := Option.bind_eq_some_iff.mp read
  have parts := Node.isSound_of_members? sound membersRead
  obtain ⟨type, _, read⟩ := Option.bind_eq_some_iff.mp read
  obtain ⟨name, _, read⟩ := Option.bind_eq_some_iff.mp read
  obtain ⟨filters, filtersRead, read⟩ := Option.bind_eq_some_iff.mp read
  obtain ⟨order, _, read⟩ := Option.bind_eq_some_iff.mp read
  obtain ⟨properties, _, read⟩ := Option.bind_eq_some_iff.mp read
  obtain ⟨sortField, _, read⟩ := Option.bind_eq_some_iff.mp read
  obtain ⟨sort, _, read⟩ := Option.bind_eq_some_iff.mp read
  obtain ⟨groupBy, _, read⟩ := Option.bind_eq_some_iff.mp read
  obtain ⟨summaries, _, read⟩ := Option.bind_eq_some_iff.mp read
  obtain ⟨indentProperties, indentRead, read⟩ := Option.bind_eq_some_iff.mp read
  obtain ⟨extra, extraRead, same⟩ := Option.bind_eq_some_iff.mp read
  cases same
  have extraIsRead := isRead_of_extra? parts extraRead
  constructor
  · rintro filter rfl
    obtain ⟨part, isMember, _, partRead⟩ := exists_of_optionalField? filtersRead
    obtain ⟨settled, settles, _⟩ := Option.bind_eq_some_iff.mp partRead
    obtain ⟨json, rfl, nested, _, distinct⟩ := (parts _ isMember).settled settles
    exact ⟨json, distinct, nested, FilterSpec.ofNode?_ofJson json ▸ partRead⟩
  · rintro json rfl
    obtain ⟨part, isMember, notNull, partRead⟩ := exists_of_optionalField? indentRead
    obtain ⟨source, rfl, nested, held⟩ := Node.isWhole_of_toJson? (parts _ isMember).isRead partRead
    have sourceNotNull : source ≠ .null := by
      rintro rfl
      exact notNull rfl
    rw [Node.toJson?_ofJson] at partRead
    cases partRead
    exact ⟨Node.sorted_ne_null held sourceNotNull, Json.isSorted_sorted source, nested.sorted,
      held.isHeld_sorted⟩
  · exact fun entry isEntry => (extraIsRead entry isEntry).1
  · exact fun entry isEntry => (extraIsRead entry isEntry).2

/-! ## Through JSON and back -/

/-- A view with the positive zero for every zero among the values that its filter expects. -/
def plainZeros (view : ViewSpec) : ViewSpec :=
  { view with filters := view.filters.map FilterSpec.plainZeros }

section Fields

variable {members : List (String × Json)}

/-- A field is read as it is written, if what is written under its name is read so. -/
theorem optionalField?_ofMembers {Part : Type} (part? : Node → Option Part) {name : String}
    (json : Part → Json) (image : Part → Part) (part : Option Part)
    (nodup : (Entries.keys members).Nodup) (found : Entries.find? name members = part.map json)
    (back : ∀ value, part = some value →
      json value ≠ .null ∧ part? (Node.ofJson (json value)) = some (image value)) :
    optionalField? part? name (members.map fun (key, value) => (key, Node.ofJson value)) =
      some (part.map image) := by
  rw [optionalField?, Node.member?_ofMembers nodup, found]
  cases part with
  | none =>
      rfl
  | some value =>
      obtain ⟨notNull, read⟩ := back value rfl
      simp only [Option.bind_eq_bind, Option.bind_some, Option.map_some, Node.defaulted?,
        Node.option?_ofJson part? notNull, read]

/-- The members that are no fields, with sorted keys, are read from the nodes of members. -/
theorem extra?_eq (members : List (String × Json)) :
    extra? (members.map fun (key, value) => (key, Node.ofJson value)) =
      some (OrderedMap.ofList
        ((members.filter fun member => !fieldNames.contains member.1).map
          fun (key, value) => (key, value.sorted))) := by
  have keepsNodes : (fun member : String × Node => !fieldNames.contains member.1) ∘
      (fun (key, value) => (key, Node.ofJson value)) =
        fun member : String × Json => !fieldNames.contains member.1 := rfl
  rw [extra?, List.filter_map, keepsNodes]
  refine Option.bind_eq_some_iff.mpr ⟨_, ?_, rfl⟩
  rw [List.mapM_map]
  refine mapM_of_forall fun member _ => ?_
  simp only [Function.comp_apply, Node.settle?_ofJson, Option.bind_some, Node.toJson?_ofJson,
    Option.map_some]

/-- The keys behind the fields are read with values that have sorted keys. -/
theorem extra?_ofMembers {fields : List (String × Json)} {extra : OrderedMap Json}
    (own : ∀ member ∈ fields, member.1 ∈ fieldNames)
    (others : ∀ entry ∈ extra.entries, entry.1 ∉ fieldNames)
    (sorted : ∀ entry ∈ extra.entries, entry.2.IsSorted) :
    extra? ((fields ++ extra.entries).map fun (key, value) => (key, Node.ofJson value)) =
      some extra := by
  have noFields : fields.filter (fun member => !fieldNames.contains member.1) = [] := by
    refine List.filter_eq_nil_iff.mpr fun member isMember => ?_
    simpa using own member isMember
  have allOthers : extra.entries.filter (fun member => !fieldNames.contains member.1) =
      extra.entries := by
    refine List.filter_eq_self.mpr fun entry isEntry => ?_
    simpa using others entry isEntry
  have sameValues : (extra.entries.map fun (key, value) => (key, value.sorted)) =
      extra.entries := by
    refine (List.map_congr_left fun entry isEntry => ?_).trans (List.map_id extra.entries)
    show (entry.1, entry.2.sorted) = entry
    rw [(sorted entry isEntry).sorted_eq]
  rw [extra?_eq, List.filter_append, noFields, allOthers, List.nil_append, sameValues,
    OrderedMap.ofList_entries]

end Fields

theorem mapping?_jsonOfTexts (texts : OrderedMap String) :
    (Node.ofJson (jsonOfTexts texts)).mapping? Node.text? = some texts := by
  rw [jsonOfTexts, Node.mapping?_ofJson_map .text id fun _ _ => rfl]
  refine congrArg some ((congrArg OrderedMap.ofList ?_).trans (OrderedMap.ofList_entries texts))
  exact List.map_id' texts.entries

theorem list?_texts (texts : List String) :
    Node.list? Node.text? (Node.ofJson (.texts texts)) = some texts := by
  have read := Node.list?_ofJson_map .text id fun text (_ : text ∈ texts) => Node.text?_ofText text
  rwa [List.map_id] at read

theorem list?_sortRules (rules : List SortRule) :
    Node.list? SortRule.ofNode? (Node.ofJson (.array (rules.map SortRule.toJson))) =
      some rules := by
  have read := Node.list?_ofJson_map SortRule.toJson id fun rule (_ : rule ∈ rules) =>
    SortRule.ofNode?_toJson rule
  rwa [List.map_id] at read

/-- A filter is never written as null. -/
theorem toJson_filter_ne_null (filter : FilterSpec) : filter.toJson ≠ .null := by
  cases filter <;> rw [FilterSpec.toJson] <;> rintro ⟨⟩

theorem ofNode?_toJson {depth : Nat} {view : ViewSpec} (isRead : view.IsRead depth)
    (written : view.toJson.Every IsWritten) :
    ofNode? (Node.ofJson view.toJson) = some view.plainZeros := by
  have namesNodup : (Entries.keys view.ownParts).Nodup := by
    rw [keys_ownParts]
    decide
  have nodup := Entries.nodup_keys_present_append namesNodup view.extra.nodup isRead.extraKeys
  have found : ∀ name ∈ fieldNames,
      Entries.find? name (Entries.present view.ownParts ++ view.extra.entries) =
        (Entries.find? name view.ownParts).join := fun name inside =>
    Entries.find?_present_append namesNodup isRead.extraKeys inside
  have extra := extra?_ofMembers
    (fun member isMember => (Entries.keys_present view.ownParts).subset
      (List.mem_map_of_mem isMember))
    isRead.extraKeys fun entry isEntry => (isRead.extraValues entry isEntry).1
  rw [toJson_eq] at written ⊢
  generalize Entries.present view.ownParts ++ view.extra.entries = members at *
  cases written with
  | object inside =>
  have type := optionalField?_ofMembers Node.text? .text id view.type nodup
    (found "type" (by decide)) fun _ _ => ⟨nofun, rfl⟩
  have name := optionalField?_ofMembers Node.text? .text id view.name nodup
    (found "name" (by decide)) fun _ _ => ⟨nofun, rfl⟩
  have filtersFound : Entries.find? "filters" members = view.filters.map FilterSpec.toJson :=
    found "filters" (by decide)
  have filters := optionalField?_ofMembers FilterSpec.ofNode? FilterSpec.toJson
    FilterSpec.plainZeros view.filters nodup filtersFound fun filter isFilter => by
      obtain ⟨json, distinct, _, filterRead⟩ := isRead.filters filter isFilter
      rw [isFilter] at filtersFound
      have filterWritten := inside _ (Entries.mem_of_find? filtersFound)
      refine ⟨toJson_filter_ne_null filter, ?_⟩
      rw [FilterSpec.ofNode?_ofJson, FilterSpec.ofJson?_toJson distinct filterRead filterWritten]
  have order := optionalField?_ofMembers (Node.list? Node.text?) .texts id view.order nodup
    (found "order" (by decide)) fun texts _ => ⟨nofun, list?_texts texts⟩
  have properties := optionalField?_ofMembers (Node.list? Node.text?) .texts id view.properties
    nodup (found "properties" (by decide)) fun texts _ => ⟨nofun, list?_texts texts⟩
  have groupBy := optionalField?_ofMembers GroupSpec.ofNode? GroupSpec.toJson id view.groupBy nodup
    (found "groupBy" (by decide)) fun group _ => ⟨nofun, GroupSpec.ofNode?_toJson group⟩
  have summaries := optionalField?_ofMembers (Node.mapping? Node.text?) jsonOfTexts id
    view.summaries nodup (found "summaries" (by decide)) fun texts _ =>
      ⟨nofun, mapping?_jsonOfTexts texts⟩
  have indentFound : Entries.find? "indentProperties" members = view.indentProperties.map id := by
    rw [found "indentProperties" (by decide), Option.map_id]
    rfl
  have indentProperties := optionalField?_ofMembers Node.toJson? id id view.indentProperties nodup
    indentFound fun json isJson => by
      obtain ⟨notNull, isSorted, _⟩ := isRead.indentProperties json isJson
      refine ⟨notNull, ?_⟩
      rw [id_eq, Node.toJson?_ofJson, isSorted.sorted_eq]
  have sortField := Node.member?_ofMembers nodup "sort"
  have sort : Node.defaulted? [] (Node.list? SortRule.ofNode?)
      ((Entries.find? "sort" members).map Node.ofJson) = some view.sort := by
    rw [found "sort" (by decide)]
    show Node.defaulted? [] _ (Option.map Node.ofJson (if view.sort.isEmpty then none else _)) = _
    split
    · next empty =>
      exact congrArg some (List.isEmpty_iff.mp empty).symm
    · exact list?_sortRules view.sort
  rw [ofNode?, Node.members?_ofJson]
  -- one field after another, in the order in which they are read
  refine Option.bind_eq_some_iff.mpr ⟨_, rfl, ?_⟩
  refine Option.bind_eq_some_iff.mpr ⟨_, type, ?_⟩
  refine Option.bind_eq_some_iff.mpr ⟨_, name, ?_⟩
  refine Option.bind_eq_some_iff.mpr ⟨_, filters, ?_⟩
  refine Option.bind_eq_some_iff.mpr ⟨_, order, ?_⟩
  refine Option.bind_eq_some_iff.mpr ⟨_, properties, ?_⟩
  refine Option.bind_eq_some_iff.mpr ⟨_, sortField, ?_⟩
  refine Option.bind_eq_some_iff.mpr ⟨_, sort, ?_⟩
  refine Option.bind_eq_some_iff.mpr ⟨_, groupBy, ?_⟩
  refine Option.bind_eq_some_iff.mpr ⟨_, summaries, ?_⟩
  refine Option.bind_eq_some_iff.mpr ⟨_, indentProperties, ?_⟩
  refine Option.bind_eq_some_iff.mpr ⟨_, extra, ?_⟩
  simp only [Option.map_id, id_eq]
  rfl

/-! ## What is written -/

theorem fits_texts (texts : List String) (depth : Nat) : (Json.texts texts).Fits (depth + 1) := by
  refine .array fun item member => ?_
  obtain ⟨text, _, rfl⟩ := List.mem_map.mp member
  exact .text text

theorem fits_jsonOfTexts (texts : OrderedMap String) (depth : Nat) :
    (jsonOfTexts texts).Fits (depth + 1) := by
  refine .object fun member isMember => ?_
  obtain ⟨entry, _, rfl⟩ := List.mem_map.mp isMember
  exact .text entry.2

theorem fits_sortRules (rules : List SortRule) (depth : Nat) :
    (Json.array (rules.map SortRule.toJson)).Fits (depth + 2) := by
  refine .array fun item member => ?_
  obtain ⟨rule, _, rfl⟩ := List.mem_map.mp member
  exact SortDirection.jsonWithProperty_fits rule.property rule.direction depth

theorem fits_ownParts {depth : Nat} {view : ViewSpec} (isRead : view.IsRead (depth + 2)) :
    ∀ part ∈ view.ownParts, ∀ json, part.2 = some json → json.Fits (depth + 2) := by
  intro part isPart json isJson
  simp only [ownParts, List.mem_cons, List.not_mem_nil, or_false] at isPart
  rcases isPart with rfl | rfl | rfl | rfl | rfl | rfl | rfl | rfl | rfl
  · obtain ⟨text, _, rfl⟩ := Option.map_eq_some_iff.mp isJson
    exact .text text
  · obtain ⟨text, _, rfl⟩ := Option.map_eq_some_iff.mp isJson
    exact .text text
  · obtain ⟨filter, isFilter, rfl⟩ := Option.map_eq_some_iff.mp isJson
    obtain ⟨source, distinct, nested, read⟩ := isRead.filters filter isFilter
    exact FilterSpec.toJson_fits distinct read nested
  · obtain ⟨texts, _, rfl⟩ := Option.map_eq_some_iff.mp isJson
    exact fits_texts texts _
  · obtain ⟨texts, _, rfl⟩ := Option.map_eq_some_iff.mp isJson
    exact fits_texts texts _
  · simp only at isJson
    split at isJson
    · cases isJson
    · cases isJson
      exact fits_sortRules view.sort depth
  · obtain ⟨group, _, rfl⟩ := Option.map_eq_some_iff.mp isJson
    exact SortDirection.jsonWithProperty_fits group.property group.direction _
  · obtain ⟨texts, _, rfl⟩ := Option.map_eq_some_iff.mp isJson
    exact fits_jsonOfTexts texts _
  · obtain ⟨_, _, nested, held⟩ := isRead.indentProperties json isJson
    exact ⟨nested, held.fitsWord⟩

/-- A view is nested no deeper than what it is read from, and its integers are words. -/
theorem toJson_fits {depth : Nat} {view : ViewSpec} (isRead : view.IsRead (depth + 2)) :
    view.toJson.Fits (depth + 3) := by
  rw [toJson_eq]
  refine .object fun member isMember => ?_
  rcases List.mem_append.mp isMember with own | inExtra
  · obtain ⟨part, isPart, present⟩ := List.mem_filterMap.mp own
    obtain ⟨json, isJson, rfl⟩ := Option.map_eq_some_iff.mp present
    exact fits_ownParts isRead part isPart json isJson
  · obtain ⟨_, nested, held⟩ := isRead.extraValues member inExtra
    exact ⟨nested, held.fitsWord⟩

end ViewSpec

end NoteBase
