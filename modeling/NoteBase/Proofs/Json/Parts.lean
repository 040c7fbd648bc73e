import NoteBase.Proofs.Json.Reading

/-!
# The parts of values

What is read of a value part by part, be it an object with the names of fields or an array with
their places, is the same if the keys of the value are sorted.
-/

namespace NoteBase

namespace Json

/-! ## Values without repeated keys -/

/-- A value that JSON text without repeated keys can hold. -/
structure IsTextual (json : Json) : Prop where
  distinct : json.DistinctKeys
  held : json.Every IsHeld

namespace IsTextual

theorem item {items : List Json} (textual : (Json.array items).IsTextual) {item : Json}
    (member : item ∈ items) : item.IsTextual := by
  obtain ⟨distinct, held⟩ := textual
  cases distinct with
  | array distinctItems =>
  cases held with
  | array heldItems => exact ⟨distinctItems item member, heldItems item member⟩

theorem nodup {members : List (String × Json)} (textual : (Json.object members).IsTextual) :
    (Entries.keys members).Nodup := by
  cases textual.distinct with
  | object nodup _ => exact nodup

theorem member {members : List (String × Json)} (textual : (Json.object members).IsTextual)
    {member : String × Json} (isMember : member ∈ members) : member.2.IsTextual := by
  obtain ⟨distinct, held⟩ := textual
  cases distinct with
  | object _ distinctMembers =>
  cases held with
  | object heldMembers => exact ⟨distinctMembers member isMember, heldMembers member isMember⟩

theorem found {members : List (String × Json)} (textual : (Json.object members).IsTextual)
    {key : String} {value : Json} (found : Entries.find? key members = some value) :
    value.IsTextual :=
  textual.member (Entries.mem_of_find? found)

theorem sorted_scalar {scalar : Scalar} (textual : (Json.scalar scalar).IsTextual) :
    (Json.scalar scalar).sorted = .scalar scalar := by
  cases textual.held with
  | scalar held => rw [sorted, jsonScalar_of_isHeld held]

end IsTextual

/-! ## The parts of a structure -/

/-- The values under the names of fields: those of the members of an object, or the items of an
array in the order of the fields. -/
def parts? (names : List String) : Json → Option (List (Option Json))
  | .scalar _ => none
  | .array items =>
    if items.length ≤ names.length then
      some (items.map some ++ List.replicate (names.length - items.length) none)
    else none
  | .object members => some (names.map fun name => Entries.find? name members)

theorem parts?_sorted (names : List String) {json : Json} (distinct : json.DistinctKeys) :
    parts? names json.sorted =
      (parts? names json).map fun parts => parts.map fun part => part.map sorted := by
  cases distinct with
  | scalar =>
      rfl
  | @array items _ =>
      rw [sorted_array, parts?, parts?, List.length_map]
      split
      · simp
      · rfl
  | object nodup _ =>
      rw [sorted, parts?, parts?, Option.map_some, List.map_map]
      simp only [find?_sortedOnto nodup]
      rfl

/-- The parts of a value are parts of what JSON text can hold, if the value is. -/
theorem isTextual_of_parts? {names : List String} {json part : Json} {parts : List (Option Json)}
    (textual : json.IsTextual) (read : parts? names json = some parts)
    (member : some part ∈ parts) : part.IsTextual := by
  cases json with
  | scalar _ =>
      cases read
  | array items =>
      rw [parts?] at read
      split at read
      · cases read
        rcases List.mem_append.mp member with inItems | inRest
        · obtain ⟨item, isItem, same⟩ := List.mem_map.mp inItems
          exact Option.some.inj same ▸ textual.item isItem
        · cases List.eq_of_mem_replicate inRest
      · cases read
  | object members =>
      cases read
      obtain ⟨name, _, found⟩ := List.mem_map.mp member
      exact textual.found found

end Json

/-! ## Reading the node of a value -/

namespace Node

open Json (IsTextual parts?)

theorem text?_ofJson_sorted {json : Json} (textual : json.IsTextual) :
    (ofJson json.sorted).text? = (ofJson json).text? := by
  cases json with
  | scalar value => rw [textual.sorted_scalar]
  | array items => rw [Json.sorted_array]; rfl
  | object members => rfl

/-- Among members with different keys a field is found by its name. -/
theorem field?_named {Part : Type} {members : List (String × Json)}
    (nodup : (Entries.keys members).Nodup) (part : Json → Part) (name : String) (place : Nat) :
    field? name place (members.map fun (key, value) => (.name key, part value)) =
      some ((Entries.find? name members).map part) := by
  have named : (members.map fun (key, value) => (FieldKey.name key, part value)).filter
      (fun field => field.1 = .name name ∨ field.1 = .place place) =
        (members.filter fun member => member.1 = name).map
          fun (key, value) => (FieldKey.name key, part value) := by
    rw [List.filter_map]
    refine congrArg _ (List.filter_congr fun member _ => ?_)
    simp
  rw [field?, named, Entries.filter_key nodup]
  cases Entries.find? name members <;> rfl

theorem fields?_ofJson_object (names : List String) {members : List (String × Json)}
    (nodup : (Entries.keys members).Nodup) :
    fields? names (ofJson (.object members)) =
      some (names.map fun name => (Entries.find? name members).map ofJson) := by
  have keys : (ofMembers members).mapM (fun entry =>
      (fieldKey? entry.1).map fun key => (key, entry.2)) =
        some (members.map fun (key, value) => (FieldKey.name key, ofJson value)) := by
    rw [ofMembers_eq_map, List.mapM_map]
    exact mapM_of_forall fun _ _ => rfl
  have found : names.zipIdx.mapM (fun named => field? named.1 named.2
      (members.map fun (key, value) => (FieldKey.name key, ofJson value))) =
        some (names.zipIdx.map fun named => (Entries.find? named.1 members).map ofJson) :=
    mapM_of_forall fun named _ => field?_named nodup ofJson named.1 named.2
  have unplaced : (names.zipIdx.map fun named => (Entries.find? named.1 members).map ofJson) =
      names.map fun name => (Entries.find? name members).map ofJson := by
    conv => rhs; rw [← List.zipIdx_map_fst 0 names, List.map_map]
    rfl
  rw [unplaced] at found
  exact Option.bind_eq_some_iff.mpr ⟨_, keys, found⟩

theorem fields?_pair {first second : String} (different : first ≠ second) (left right : Json) :
    fields? [first, second] (ofJson (.object [(first, left), (second, right)])) =
      some [some (ofJson left), some (ofJson right)] := by
  rw [fields?_ofJson_object _ (by simpa [Entries.keys] using different)]
  simp [Entries.find?, different]

/-- The fields of a structure are read from the parts of a value. -/
theorem fields?_ofJson (names : List String) {json : Json} (distinct : json.DistinctKeys) :
    fields? names (ofJson json) =
      (parts? names json).map fun parts => parts.map fun part => part.map ofJson := by
  cases distinct with
  | @scalar value =>
      cases value <;> rfl
  | @array items _ =>
      rw [ofJson, ofItems_eq_map, fields?, parts?]
      simp only [untagged, Bool.true_and, List.length_map, decide_eq_true_eq]
      split
      · simp
      · rfl
  | @object members nodup _ =>
      rw [fields?_ofJson_object names nodup, parts?, Option.map_some, List.map_map]
      rfl

/-- Among members with different keys the one with a name is found. -/
theorem member?_map {members : List (String × Json)} (nodup : (Entries.keys members).Nodup)
    (part : Json → Node) (name : String) :
    member? name (members.map fun (key, value) => (key, part value)) =
      some ((Entries.find? name members).map part) := by
  have keys : (Entries.keys (members.map fun (key, value) => (key, part value))).Nodup := by
    rwa [Entries.keys_map members part]
  rw [member?, Entries.filter_key keys, Entries.find?_map part]
  cases Entries.find? name members <;> rfl

theorem member?_ofMembers {members : List (String × Json)} (nodup : (Entries.keys members).Nodup)
    (name : String) :
    member? name (members.map fun (key, value) => (key, ofJson value)) =
      some ((Entries.find? name members).map ofJson) :=
  member?_map nodup ofJson name

theorem members?_readAs (members : List (String × Json)) :
    (Json.object members).readAs.members? =
      some (members.map fun (key, value) => (key, value.readAs)) := by
  rw [Json.readAs_object, members?]
  simp only [entries?, untagged, Option.bind_eq_bind, Option.bind_some]
  rw [List.mapM_map]
  exact mapM_of_forall fun _ _ => rfl

/-- Any value but null counts as there where a part may be absent. -/
theorem option?_ofJson {Part : Type} (part? : Node → Option Part) {json : Json}
    (notNull : json ≠ .null) : option? part? (ofJson json) = (part? (ofJson json)).map some := by
  cases json with
  | scalar value =>
      cases value with
      | null => exact absurd rfl notNull
      | bool _ => rfl
      | integer _ => rfl
      | float _ => rfl
      | text _ => rfl
  | array _ => rfl
  | object _ => rfl

theorem sorted_ne_null {json : Json} (held : json.Every Json.IsHeld) (notNull : json ≠ .null) :
    json.sorted ≠ .null := by
  cases json with
  | scalar value =>
      cases held with
      | scalar here =>
      rwa [Json.sorted, Json.jsonScalar_of_isHeld here]
  | array _ => rintro ⟨⟩
  | object _ => rintro ⟨⟩

/-- A part that is there is read, and is not null. -/
theorem exists_of_option? {Part : Type} {part? : Node → Option Part} {node : Node} {part : Part}
    (read : option? part? node = some (some part)) : node ≠ .null ∧ part? node = some part := by
  unfold option? at read
  simp only at read
  split at read
  · next isPart =>
    obtain ⟨_, partRead, same⟩ := Option.map_eq_some_iff.mp read
    cases same
    refine ⟨?_, partRead⟩
    rintro rfl
    cases isPart
  · cases read
  · cases read

/-! ## Reading with sorted keys -/

section Sorted

variable {Part : Type} {part? : Node → Option Part} {image : Part → Part} {json : Json}

theorem option?_sorted (textual : json.IsTextual)
    (same : part? (ofJson json.sorted) = (part? (ofJson json)).map image) :
    option? part? (ofJson json.sorted) = (option? part? (ofJson json)).map (Option.map image) := by
  rcases Classical.em (json = .null) with rfl | notNull
  · rfl
  · rw [option?_ofJson part? notNull, option?_ofJson part? (sorted_ne_null textual.held notNull),
      same]
    cases part? (ofJson json) <;> rfl

theorem list?_sorted (textual : json.IsTextual)
    (each : ∀ item : Json, item.IsTextual →
      part? (ofJson item.sorted) = (part? (ofJson item)).map image) :
    list? part? (ofJson json.sorted) = (list? part? (ofJson json)).map (List.map image) := by
  cases json with
  | scalar value =>
      rw [textual.sorted_scalar]
      cases value <;> rfl
  | array items =>
      rw [Json.sorted_array, list?_ofItems, list?_ofItems, List.mapM_map, ← mapM_map_some]
      exact mapM_congr fun item member => each item (textual.item member)
  | object members =>
      rfl

/-- A mapping with sorted keys is read with its entries in the order of their keys. -/
theorem mapping?_sorted (textual : json.IsTextual)
    (each : ∀ value : Json, value.IsTextual →
      part? (ofJson value.sorted) = part? (ofJson value)) :
    mapping? part? (ofJson json.sorted) =
      (mapping? part? (ofJson json)).map OrderedMap.inKeyOrder := by
  cases json with
  | scalar value =>
      rw [textual.sorted_scalar]
      cases value <;> rfl
  | array items =>
      rw [Json.sorted_array]
      rfl
  | object members =>
      have sortedAway : (members.map fun (key, value) => (key, value.sorted)).mapM
          (fun member => (part? (ofJson member.2)).map fun part => (member.1, part)) =
            members.mapM fun member => (part? (ofJson member.2)).map fun part =>
              (member.1, part) := by
        rw [List.mapM_map]
        refine mapM_congr fun member isMember => ?_
        simp only [Function.comp_apply, each member.2 (textual.member isMember)]
      have nodup : (Entries.keys (members.map fun (key, value) => (key, value.sorted))).Nodup := by
        rw [Entries.keys_map members Json.sorted]
        exact textual.nodup
      rw [Json.sorted, mapping?_ofMembers, mapping?_ofMembers, ← sortedAway]
      exact OrderedMap.mapM_eq_inKeyOrder (fun value => part? (ofJson value)) nodup
        (Json.risingKeys_sortedOnto members List.Pairwise.nil).le
        (Json.sorted_object_perm textual.nodup)

theorem defaulted?_sorted {default : Part} (plain : image default = default) {part : Option Json}
    (same : ∀ json, part = some json →
      part? (ofJson json.sorted) = (part? (ofJson json)).map image) :
    defaulted? default part? ((part.map Json.sorted).map ofJson) =
      (defaulted? default part? (part.map ofJson)).map image := by
  cases part with
  | none => exact congrArg some plain.symm
  | some json => exact same json rfl

theorem required?_sorted {part : Option Json}
    (same : ∀ json, part = some json → part? (ofJson json.sorted) = part? (ofJson json)) :
    required? part? ((part.map Json.sorted).map ofJson) =
      required? part? (part.map ofJson) := by
  cases part with
  | none => rfl
  | some json => exact same json rfl

/-- What is read of the fields of a structure is the same with sorted keys, if it is so for the
parts. -/
theorem fields?_bind_sorted {names : List String} (textual : json.IsTextual)
    (read : List (Option Node) → Option Part)
    (same : ∀ parts : List (Option Json),
      (∀ part json, part ∈ parts → part = some json → json.IsTextual) →
        read ((parts.map fun part => part.map Json.sorted).map fun part => part.map ofJson) =
          (read (parts.map fun part => part.map ofJson)).map image) :
    (fields? names (ofJson json.sorted)).bind read =
      ((fields? names (ofJson json)).bind read).map image := by
  rw [fields?_ofJson names textual.distinct,
    fields?_ofJson names (Json.isSorted_sorted json).distinctKeys,
    Json.parts?_sorted names textual.distinct]
  cases found : parts? names json with
  | none =>
      rfl
  | some parts =>
      refine same parts fun part json member isPart => ?_
      rw [isPart] at member
      exact Json.isTextual_of_parts? textual found member

end Sorted

end Node

end NoteBase
