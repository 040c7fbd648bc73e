import NoteBase.Proofs.Config.KeyOrder

/-!
# Bases in content trees

A document of a content tree holds its properties with sorted keys. So a base that is read from a
document is the base that is read from the text of the same object with all of its maps in the order
of their keys. It shows the same views, except that formulas of a mapping are attached in the order
of their names and not in that of their declaration.
-/

namespace NoteBase

open Calendar (Moment)
open Json (IsWritten)

/-! ## Documents that extend an object -/

/-- A document is the entries of an object with a path among them. -/
def Document.Extends (entries : List (Node × Node)) (document : Document) : Prop :=
  ∃ (front back : List (Node × Node)) (path : String), entries = front ++ back ∧
    Document.ofEntries?
      (front ++ (.scalar (.ofText pathKey), .scalar (.ofText path)) :: back) = some document

/-- What is read as raw members is an object all of which stands for something. -/
theorem exists_object_of_rawMembers? {depth : Nat} {entries : List (Node × Node)}
    (isRead : (Node.map entries).IsRead (depth + 1)) {properties : OrderedMap Json}
    (read : rawMembers? (.map entries) = some properties) :
    ∃ members, Node.map entries = Node.ofJson (.object members) ∧
      (Json.object members).Every Json.IsHeld := by
  obtain ⟨members, membersRead, read⟩ := Option.bind_eq_some_iff.mp read
  obtain ⟨parts, partsRead, _⟩ := Option.bind_eq_some_iff.mp read
  cases isRead with
  | map keys inside =>
  have whole : (Node.map entries).IsWhole (depth + 1) := by
    refine Node.isWhole_map fun entry isEntry => ?_
    obtain ⟨member, isMember, memberRead⟩ := exists_part_of_mem membersRead isEntry
    obtain ⟨name, keyRead, rfl⟩ := Option.map_eq_some_iff.mp memberRead
    obtain ⟨part, _, partRead⟩ := exists_part_of_mem partsRead isMember
    obtain ⟨json, jsonRead, _⟩ := Option.map_eq_some_iff.mp partRead
    exact ⟨⟨name, Node.isText_of_text? (keys entry isEntry) keyRead⟩,
      Node.isWhole_of_toJson? (inside entry isEntry) jsonRead⟩
  obtain ⟨json, same, _, held⟩ := whole
  cases json with
  | scalar _ => cases same
  | array _ => cases same
  | object members => exact ⟨members, same, held⟩

/-- A document that extends an object has the members of the object, with sorted keys. -/
theorem Document.Extends.exists_members {depth : Nat} {entries : List (Node × Node)}
    {document : Document} (isExtension : document.Extends entries)
    (sound : (Node.map entries).IsSound (depth + 1))
    (noPath : ∀ entry ∈ entries, entry.1.text? ≠ some pathKey) :
    ∃ members, Node.map entries = Node.ofJson (.object members) ∧
      (Json.object members).IsTextual ∧
        document.properties.entries = members.map fun (key, value) => (key, value.sorted) := by
  obtain ⟨front, back, path, rfl, read⟩ := isExtension
  obtain ⟨_, _, read⟩ := Option.bind_eq_some_iff.mp read
  obtain ⟨_, _, read⟩ := Option.bind_eq_some_iff.mp read
  obtain ⟨_, _, read⟩ := Option.bind_eq_some_iff.mp read
  obtain ⟨properties, propertiesRead, same⟩ := Option.bind_eq_some_iff.mp read
  cases same
  have others : (front ++
      (Node.scalar (.ofText pathKey), Node.scalar (.ofText path)) :: back).filter
        (fun entry => entry.1.text? ≠ some pathKey) = front ++ back := by
    have kept : (front ++ back).filter (fun entry => entry.1.text? ≠ some pathKey) =
        front ++ back :=
      List.filter_eq_self.mpr fun entry isEntry => decide_eq_true (noPath entry isEntry)
    rw [List.filter_append] at kept ⊢
    rwa [List.filter_cons_of_neg]
    simp [Node.text?_ofText]
  rw [others] at propertiesRead
  obtain ⟨members, isObject, held⟩ := exists_object_of_rawMembers? sound.isRead propertiesRead
  have textual : (Json.object members).IsTextual :=
    ⟨Node.distinctKeys_ofJson_iff.mp (isObject ▸ sound.distinct), held⟩
  refine ⟨members, isObject, textual, ?_⟩
  rw [isObject, rawMembers?, Node.mapping?_ofJson Json.sorted fun member _ =>
    Node.toJson?_ofJson member.2] at propertiesRead
  cases propertiesRead
  refine OrderedMap.entries_ofList ?_
  rw [Entries.keys_map members Json.sorted]
  exact textual.nodup

namespace BaseConfig

/-- A base is read from the values under the names of its fields. -/
theorem ofNode?_of_sameFields {left right : List (String × Json)}
    (leftNodup : (Entries.keys left).Nodup) (rightNodup : (Entries.keys right).Nodup)
    (same : ∀ name ∈ fieldNames, Entries.find? name left = Entries.find? name right) :
    ofNode? (Node.ofJson (.object left)) = ofNode? (Node.ofJson (.object right)) := by
  have fields : (fieldNames.map fun name => (Entries.find? name left).map Node.ofJson) =
      fieldNames.map fun name => (Entries.find? name right).map Node.ofJson :=
    List.map_congr_left fun name isField => by rw [same name isField]
  rw [ofNode?_eq, ofNode?_eq, Node.fields?_ofJson_object fieldNames leftNodup,
    Node.fields?_ofJson_object fieldNames rightNodup, fields]

/-- The base of a document is that of an object whose members the document has with sorted keys. -/
theorem ofDocument_eq {document : Document} {members : List (String × Json)}
    (textual : (Json.object members).IsTextual)
    (properties : document.properties.entries =
      members.map fun (key, value) => (key, value.sorted)) :
    ofDocument document =
      match (ofNode? (Node.ofJson (.object members))).map inKeyOrder with
      | some base => .ok base
      | none => .error .json := by
  let found := fieldNames.map fun name => (name, document.properties.get? name)
  have foundNodup : (Entries.keys found).Nodup := by
    have names : Entries.keys found = fieldNames := rfl
    rw [names]
    decide
  have given : fieldNames.filterMap (fun name =>
      (document.properties.get? name).map fun value => (name, value)) = Entries.present found := by
    rw [Entries.present, List.filterMap_map]
    rfl
  have same : ∀ name ∈ fieldNames, Entries.find? name (Entries.present found) =
      Entries.find? name (Json.sortedOnto [] members) := by
    intro name isField
    have property : document.properties.get? name =
        Entries.find? name (Json.sortedOnto [] members) := by
      rw [OrderedMap.get?, properties, Json.find?_sortedOnto textual.nodup]
      exact Entries.find?_map Json.sorted
    rw [Entries.find?_present foundNodup, ← property]
    simp only [fieldNames, List.mem_cons, List.not_mem_nil, or_false] at isField
    rcases isField with rfl | rfl | rfl <;> rfl
  have read : ofNode? (Node.ofJson (.object (fieldNames.filterMap fun name =>
      (document.properties.get? name).map fun value => (name, value)))) =
        (ofNode? (Node.ofJson (.object members))).map inKeyOrder := by
    rw [given, ← ofNode?_sorted textual, Json.sorted]
    exact ofNode?_of_sameFields (foundNodup.sublist (Entries.keys_present found))
      (Json.nodup_keys_sortedOnto members) same
  exact congrArg (fun base? : Option BaseConfig =>
    (match base? with
    | some base => .ok base
    | none => .error .json : Except BaseError BaseConfig)) read

/-- A base that is read from a document is the base of the text of the same object, with its maps in
the order of their keys. -/
theorem ofTree_eq {text : String} {entries : List (Node × Node)} {tree : ContentTree}
    {address : String} {document : Document} (object : Node.ofJsonText? text = some (.map entries))
    (distinct : (Node.map entries).DistinctKeys)
    (noPath : ∀ entry ∈ entries, entry.1.text? ≠ some Document.pathKey)
    (found : tree.document? address = some document) (isExtension : document.Extends entries) :
    ofTree tree address = (ofJsonText text).map inKeyOrder := by
  have sound : (Node.map entries).IsSound (126 + 1) :=
    ⟨Json.isRead_of_ofJsonText? object, distinct⟩
  obtain ⟨members, isObject, textual, properties⟩ := isExtension.exists_members sound noPath
  rw [ofTree, found]
  simp only [ofDocument_eq textual properties, ofJsonText, object, Option.bind_some, isObject]
  cases ofNode? (Node.ofJson (.object members)) <;> rfl

/-! ## What is shown -/

/-- Results are the same up to the order of the keys in summaries and in what is passed on. -/
def SameUpToKeyOrder (left right : List ViewResult) : Prop :=
  left.map ViewResult.inKeyOrder = right.map ViewResult.inKeyOrder

/-- The formulas of a base, if they are a mapping, stand in the order of their names. -/
def HasOrderedFormulas (base : BaseConfig) : Prop :=
  ∀ formulas, base.formulas = some (.map formulas) →
    formulas.entries.Pairwise fun left right => left.1 ≤ right.1

theorem withOrderedFormulas_eq_self {base : BaseConfig} (ordered : base.HasOrderedFormulas) :
    base.withOrderedFormulas = base := by
  have same : base.formulas.map Formulas.inKeyOrder = base.formulas := by
    cases isFormulas : base.formulas with
    | none =>
        rfl
    | some formulas =>
        cases formulas with
        | list _ =>
            rfl
        | map formulas =>
            have sorted := OrderedMap.eq_inKeyOrder (ordered formulas isFormulas) (.refl _)
            rw [Option.map_some, Formulas.inKeyOrder, ← sorted]
  rw [withOrderedFormulas, same]

/-- A base in a document is read if it is read from the text of the same object. It shows what that
base shows, with the formulas of a mapping attached in the order of their names. -/
theorem ofTree_render {text : String} {entries : List (Node × Node)} {tree : ContentTree}
    {address : String} {document : Document} (object : Node.ofJsonText? text = some (.map entries))
    (distinct : (Node.map entries).DistinctKeys)
    (noPath : ∀ entry ∈ entries, entry.1.text? ≠ some Document.pathKey)
    (found : tree.document? address = some document) (isExtension : document.Extends entries) :
    ((∃ read, ofTree tree address = .ok read) ↔ ∃ base, ofJsonText text = .ok base) ∧
      ∀ read base, ofTree tree address = .ok read → ofJsonText text = .ok base →
        ∀ now records,
          SameUpToKeyOrder (read.render now records)
            (base.withOrderedFormulas.render now records) ∧
          (base.HasOrderedFormulas →
            SameUpToKeyOrder (read.render now records) (base.render now records)) := by
  have same := ofTree_eq object distinct noPath found isExtension
  constructor
  · rw [same]
    cases ofJsonText text with
    | error _ => exact ⟨nofun, nofun⟩
    | ok base => exact ⟨fun _ => ⟨base, rfl⟩, fun _ => ⟨_, rfl⟩⟩
  · intro read base fromTree fromText now records
    rw [same, fromText] at fromTree
    cases fromTree
    have shown : SameUpToKeyOrder (base.inKeyOrder.render now records)
        (base.withOrderedFormulas.render now records) := render_inKeyOrder now base records
    refine ⟨shown, fun ordered => ?_⟩
    rwa [withOrderedFormulas_eq_self ordered] at shown

/-! ### A base whose formulas are not in the order of their names -/

def chainedText : String :=
  "\x7b\"formulas\":\x7b\"b\":\"rating\",\"a\":\"formula.b\"\x7d," ++
  "\"views\":[\x7b\"name\":\"All\"\x7d]\x7d"

def chainedMembers : List (String × Json) :=
  [("formulas", .object [("b", .text "rating"), ("a", .text "formula.b")]),
   ("views", .array [.object [("name", .text "All")]])]

def chainedDocument : Document :=
  ⟨"b.base", ⟨[("formulas", .object [("a", .text "formula.b"), ("b", .text "rating")]),
    ("views", .array [.object [("name", .text "All")]])], by decide⟩⟩

def chainedTree : ContentTree := ⟨[("b", .document chainedDocument)]⟩

def shownAll : ViewSpec where
  type := none
  name := some "All"
  filters := none
  order := none
  properties := none
  sort := []
  groupBy := none
  summaries := none
  indentProperties := none
  extra := .empty

/-- The base of the text, whose second formula reads the first. -/
def chained : BaseConfig where
  filters := none
  formulas := some (.map ⟨[("b", "rating"), ("a", "formula.b")], by decide⟩)
  views := [shownAll]

/-- The base of the document. -/
def chainedInTree : BaseConfig where
  filters := none
  formulas := some (.map ⟨[("a", "formula.b"), ("b", "rating")], by decide⟩)
  views := [shownAll]

def ratedRecord : Record := OrderedMap.ofList [("rating", .number (Number.ofNat 3))]

/-- Whether each record that is shown has null as its second formula. -/
def dependentIsNull (result : ViewResult) : List (Option Bool) :=
  result.records.map fun record => (record.get? "formula.a").map Value.isNull

theorem SameUpToKeyOrder.dependentIsNull {left right : List ViewResult}
    (same : SameUpToKeyOrder left right) :
    left.map BaseConfig.dependentIsNull = right.map BaseConfig.dependentIsNull := by
  have unchanged : BaseConfig.dependentIsNull ∘ ViewResult.inKeyOrder =
      BaseConfig.dependentIsNull := rfl
  have shown := congrArg (List.map BaseConfig.dependentIsNull) same
  rwa [List.map_map, List.map_map, unchanged] at shown

/-- What the text of a base has to be for a document to extend it. -/
structure IsBaseText (text : String) (members : List (String × Json)) : Prop where
  object : Node.ofJsonText? text = some (.map (Node.ofMembers members))
  distinct : (Node.map (Node.ofMembers members)).DistinctKeys
  noPath : ∀ entry ∈ Node.ofMembers members, entry.1.text? ≠ some Document.pathKey

theorem isBaseText {text : String} {members : List (String × Json)}
    (written : (Json.object members).Every IsWritten) (nested : (Json.object members).Nested 127)
    (compact : (Json.object members).compact = text)
    (distinct : (Json.object members).DistinctKeys)
    (noPath : ∀ entry ∈ Node.ofMembers members, entry.1.text? ≠ some Document.pathKey) :
    IsBaseText text members where
  object := by
    have node := Json.nodeOfText?_compact nested written
    rwa [compact] at node
  distinct := by
    rw [← Node.ofJson, Node.distinctKeys_ofJson_iff]
    exact distinct
  noPath := noPath

theorem isBaseText_chained : IsBaseText chainedText chainedMembers :=
  isBaseText (by simp [chainedMembers, Json.text, IsWritten]) (by simp [chainedMembers, Json.text])
    (by decide +kernel) (by simp [chainedMembers, Json.text, Entries.keys])
    (by simp [chainedMembers, Node.ofMembers, Node.text?_ofText, Document.pathKey])

theorem chainedDocument_extends : chainedDocument.Extends (Node.ofMembers chainedMembers) :=
  ⟨[], _, "b.base", rfl, rfl⟩

theorem ofJsonText_chainedText : ofJsonText chainedText = .ok chained := by
  rw [ofJsonText, isBaseText_chained.object]
  rfl

/-! ### A base whose formulas are in the order of their names -/

def orderedText : String :=
  "\x7b\"formulas\":\x7b\"a\":\"rating\",\"b\":\"formula.a\"\x7d," ++
  "\"views\":[\x7b\"name\":\"All\",\"size\":\"wide\",\"image\":\"cover\"\x7d]\x7d"

def orderedMembers : List (String × Json) :=
  [("formulas", .object [("a", .text "rating"), ("b", .text "formula.a")]),
   ("views", .array [.object [("name", .text "All"), ("size", .text "wide"),
     ("image", .text "cover")]])]

def orderedDocument : Document :=
  ⟨"o.base", ⟨[("formulas", .object [("a", .text "rating"), ("b", .text "formula.a")]),
    ("views", .array [.object [("image", .text "cover"), ("name", .text "All"),
      ("size", .text "wide")]])], by decide⟩⟩

def orderedTree : ContentTree := ⟨[("o", .document orderedDocument)]⟩

/-- A base with the keys that its view passes on in this order. -/
def orderedBase (extra : OrderedMap Json) : BaseConfig where
  filters := none
  formulas := some (.map ⟨[("a", "rating"), ("b", "formula.a")], by decide⟩)
  views := [{ shownAll with extra := extra }]

def orderedFromText : BaseConfig :=
  orderedBase ⟨[("size", .text "wide"), ("image", .text "cover")], by decide⟩

def orderedInTree : BaseConfig :=
  orderedBase ⟨[("image", .text "cover"), ("size", .text "wide")], by decide⟩

theorem isBaseText_ordered : IsBaseText orderedText orderedMembers :=
  isBaseText (by simp [orderedMembers, Json.text, IsWritten])
    (by simp [orderedMembers, Json.text]) (by decide +kernel)
    (by simp [orderedMembers, Json.text, Entries.keys])
    (by simp [orderedMembers, Node.ofMembers, Node.text?_ofText, Document.pathKey])

theorem orderedDocument_extends : orderedDocument.Extends (Node.ofMembers orderedMembers) :=
  ⟨[], _, "o.base", rfl, rfl⟩

theorem ofJsonText_orderedText : ofJsonText orderedText = .ok orderedFromText := by
  rw [ofJsonText, isBaseText_ordered.object]
  rfl

/-- Formulas that are in order stay so, and only the keys that the view passes on are moved. -/
theorem ofTree_render_chained :
    ofTree chainedTree "b" = .ok chainedInTree ∧ ofJsonText chainedText = .ok chained ∧
      SameUpToKeyOrder (chainedInTree.render Moment.epoch [ratedRecord])
        (chained.withOrderedFormulas.render Moment.epoch [ratedRecord]) ∧
      ofTree orderedTree "o" = .ok orderedInTree ∧ ofJsonText orderedText = .ok orderedFromText ∧
      orderedFromText.HasOrderedFormulas ∧
      SameUpToKeyOrder (orderedInTree.render Moment.epoch [ratedRecord])
        (orderedFromText.render Moment.epoch [ratedRecord]) := by
  have chainedFound : chainedTree.document? "b" = some chainedDocument := rfl
  have orderedFound : orderedTree.document? "o" = some orderedDocument := rfl
  have chainedShown := ofTree_render isBaseText_chained.object isBaseText_chained.distinct
    isBaseText_chained.noPath chainedFound chainedDocument_extends
  have orderedShown := ofTree_render isBaseText_ordered.object isBaseText_ordered.distinct
    isBaseText_ordered.noPath orderedFound orderedDocument_extends
  have ordered : orderedFromText.HasOrderedFormulas := by
    rintro formulas same
    cases same
    decide
  have chainedSame := chainedShown.2 chainedInTree chained rfl ofJsonText_chainedText
    Moment.epoch [ratedRecord]
  have orderedSame := orderedShown.2 orderedInTree orderedFromText rfl ofJsonText_orderedText
    Moment.epoch [ratedRecord]
  exact ⟨rfl, ofJsonText_chainedText, chainedSame.1, rfl, ofJsonText_orderedText, ordered,
    orderedSame.2 ordered⟩

/-- The document's base shows null for the formula that the text attaches last. -/
theorem ofTree_chained_showsOther :
    Node.ofJsonText? chainedText = some (.map (Node.ofMembers chainedMembers)) ∧
      (Node.map (Node.ofMembers chainedMembers)).DistinctKeys ∧
      (∀ entry ∈ Node.ofMembers chainedMembers, entry.1.text? ≠ some Document.pathKey) ∧
      chainedTree.document? "b" = some chainedDocument ∧
      chainedDocument.Extends (Node.ofMembers chainedMembers) ∧
      ofTree chainedTree "b" = .ok chainedInTree ∧ ofJsonText chainedText = .ok chained ∧
      ¬ SameUpToKeyOrder (chainedInTree.render Moment.epoch [ratedRecord])
        (chained.render Moment.epoch [ratedRecord]) := by
  refine ⟨isBaseText_chained.object, isBaseText_chained.distinct, isBaseText_chained.noPath, rfl,
    chainedDocument_extends, rfl, ofJsonText_chainedText, fun same => ?_⟩
  have fromTree : (chainedInTree.render Moment.epoch [ratedRecord]).map dependentIsNull =
      [[some true]] := by decide +kernel
  have fromText : (chained.render Moment.epoch [ratedRecord]).map dependentIsNull =
      [[some false]] := by decide +kernel
  have isNull := same.dependentIsNull
  rw [fromTree, fromText] at isNull
  revert isNull
  decide

end BaseConfig

end NoteBase
