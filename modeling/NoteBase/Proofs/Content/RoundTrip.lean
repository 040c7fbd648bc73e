import NoteBase.Config.Content
import NoteBase.Proofs.Config.Base

/-!
# Content trees are read as they are written

A tree that is read from JSON text is written as JSON text that is read as the same tree. Only the
path of a document and the description of a folder may come to stand in front. What is read decides
between documents and folders once more: the nodes in a folder are written as objects, so none of
them is a text under `path`.
-/

namespace NoteBase

open Json (IsHeld IsWritten)
open BaseConfig (DoubleReadsBack)

/-! ## Mappings without a key -/

namespace Node

/-- The entries of a mapping whose keys are other than a text. -/
def others (key : String) (entries : List (Node × Node)) : List (Node × Node) :=
  entries.filter fun entry => entry.1.text? ≠ some key

theorem others_cons (key : String) (entry : Node × Node) (entries : List (Node × Node)) :
    others key (entry :: entries) =
      if entry.1.text? = some key then others key entries else entry :: others key entries := by
  rw [others, List.filter_cons]
  by_cases same : entry.1.text? = some key
  · rw [if_neg (by simpa using same), if_pos same]
    rfl
  · rw [if_pos (by simpa using same), if_neg same]
    rfl

theorem text?_ne_of_mem_others {key : String} {entries : List (Node × Node)} {entry : Node × Node}
    (inside : entry ∈ others key entries) : entry.1.text? ≠ some key :=
  of_decide_eq_true (List.mem_filter.mp inside).2

theorem others_ofMembers (key : String) (members : List (String × Json)) :
    others key (ofMembers members) = ofMembers (Entries.erase key members) := by
  have sameKeys : (fun entry : Node × Node => decide (entry.1.text? ≠ some key)) ∘
      (fun member : String × Json => (.scalar (.ofText member.1), ofJson member.2)) =
        fun member => decide (member.1 ≠ key) := by
    funext member
    simp [text?_ofText]
  rw [others, ofMembers_eq_map, ofMembers_eq_map, List.filter_map, sameKeys]
  rfl

theorem IsRead.others {depth : Nat} {entries : List (Node × Node)} (key : String)
    (isRead : (Node.map entries).IsRead depth) : (Node.map (others key entries)).IsRead depth := by
  cases isRead with
  | map keys inside =>
      exact .map (fun entry isEntry => keys entry (List.mem_of_mem_filter isEntry))
        fun entry isEntry => inside entry (List.mem_of_mem_filter isEntry)

end Node

/-! ## Raw objects -/

/-- What holds of an object that is read from JSON text, with a bound on its nesting. -/
structure IsRawRead (depth : Nat) (members : OrderedMap Json) : Prop where
  sorted : ∀ member ∈ members.entries, member.2.IsSorted
  nested : (jsonOfRaw members).Nested depth
  held : (jsonOfRaw members).Every IsHeld

theorem mem_of_rawMembers? {entries : List (Node × Node)} {members : OrderedMap Json}
    (read : rawMembers? (.map entries) = some members) :
    ∀ member ∈ members.entries,
      ∃ entry ∈ entries, entry.1.text? = some member.1 ∧ entry.2.toJson? = some member.2 := by
  obtain ⟨named, namedRead, read⟩ := Option.bind_eq_some_iff.mp read
  obtain ⟨parts, partsRead, same⟩ := Option.bind_eq_some_iff.mp read
  cases same
  intro member isMember
  obtain ⟨part, isPart, partRead⟩ :=
    exists_of_mem_mapM partsRead (Entries.mem_of_mem_collect isMember)
  obtain ⟨json, jsonRead, rfl⟩ := Option.map_eq_some_iff.mp partRead
  obtain ⟨entry, isEntry, entryRead⟩ := exists_of_mem_mapM namedRead isPart
  obtain ⟨name, nameRead, rfl⟩ := Option.map_eq_some_iff.mp entryRead
  exact ⟨entry, isEntry, nameRead, jsonRead⟩

theorem isRawRead_of_rawMembers? {depth : Nat} {node : Node} (isRead : node.IsRead depth)
    {members : OrderedMap Json} (read : rawMembers? node = some members) :
    IsRawRead depth members := by
  obtain ⟨named, namedRead, _⟩ := Option.bind_eq_some_iff.mp read
  obtain ⟨entries, entriesRead, _⟩ := Option.bind_eq_some_iff.mp namedRead
  obtain rfl := Node.exists_entries isRead entriesRead
  cases isRead with
  | @map depth _ keys inside =>
      have each : ∀ member ∈ members.entries,
          member.2.IsSorted ∧ member.2.Nested depth ∧ member.2.Every IsHeld := by
        intro member isMember
        obtain ⟨entry, isEntry, _, become⟩ := mem_of_rawMembers? read member isMember
        exact Node.isSorted_of_toJson? (inside entry isEntry) become
      exact ⟨fun member isMember => (each member isMember).1,
        .object fun member isMember => (each member isMember).2.1,
        .object fun member isMember => (each member isMember).2.2⟩

namespace IsRawRead

variable {depth : Nat} {members : OrderedMap Json}

theorem fits (isRead : IsRawRead depth members) : (jsonOfRaw members).Fits depth :=
  ⟨isRead.nested, isRead.held.fitsWord⟩

theorem rawMembers?_ofJson (isRead : IsRawRead depth members) :
    rawMembers? (Node.ofJson (jsonOfRaw members)) = some members := by
  have each : ∀ member ∈ members.entries,
      (Node.ofJson member.2).toJson? = some (id member.2) := by
    intro member isMember
    rw [Node.toJson?_ofJson, (isRead.sorted member isMember).sorted_eq, id_eq]
  rw [rawMembers?, jsonOfRaw, Node.mapping?_ofJson id each]
  refine congrArg some (Eq.trans (congrArg OrderedMap.ofList ?_) members.ofList_entries)
  exact List.map_id' members.entries

end IsRawRead

/-! ## Documents -/

namespace Document

/-- What holds of a document that is read from JSON text. -/
structure IsRead (depth : Nat) (document : Document) : Prop where
  noPath : pathKey ∉ document.properties.keys
  properties : IsRawRead depth document.properties

theorem ofEntries?_eq (entries : List (Node × Node)) :
    ofEntries? entries = (Node.map entries).members?.bind fun members =>
      (Node.member? pathKey members).bind fun path =>
        (Node.required? Node.text? path).bind fun path =>
          (rawMembers? (.map (Node.others pathKey entries))).map fun properties =>
            ⟨path, properties⟩ := by
  simp only [Option.map_eq_bind]
  rfl

theorem isRead_of_ofEntries? {depth : Nat} {entries : List (Node × Node)}
    (isRead : (Node.map entries).IsRead depth) {document : Document}
    (read : ofEntries? entries = some document) : document.IsRead depth := by
  rw [ofEntries?_eq] at read
  obtain ⟨members, _, read⟩ := Option.bind_eq_some_iff.mp read
  obtain ⟨field, _, read⟩ := Option.bind_eq_some_iff.mp read
  obtain ⟨path, _, read⟩ := Option.bind_eq_some_iff.mp read
  obtain ⟨properties, propertiesRead, rfl⟩ := Option.map_eq_some_iff.mp read
  refine ⟨fun inside => ?_, isRawRead_of_rawMembers? (isRead.others pathKey) propertiesRead⟩
  obtain ⟨member, isMember, isPath⟩ := List.mem_map.mp inside
  obtain ⟨entry, isEntry, nameRead, _⟩ := mem_of_rawMembers? propertiesRead member isMember
  exact Node.text?_ne_of_mem_others isEntry (nameRead.trans (congrArg some isPath))

theorem ofEntries?_toJson {depth : Nat} {document : Document} (isRead : document.IsRead depth) :
    ofEntries? (Node.ofMembers ((pathKey, .text document.path) :: document.properties.entries)) =
      some document := by
  have nodup : (Entries.keys
      ((pathKey, Json.text document.path) :: document.properties.entries)).Nodup :=
    List.nodup_cons.mpr ⟨isRead.noPath, document.properties.nodup⟩
  have members := Node.members?_ofJson
    ((pathKey, .text document.path) :: document.properties.entries)
  have path : Entries.find? pathKey
      ((pathKey, Json.text document.path) :: document.properties.entries) =
        some (.text document.path) := if_pos rfl
  have others : Node.others pathKey
      (Node.ofMembers ((pathKey, .text document.path) :: document.properties.entries)) =
        Node.ofMembers document.properties.entries := by
    rw [Node.others_ofMembers, Entries.erase_cons_of_not_mem isRead.noPath]
  have properties := isRead.properties.rawMembers?_ofJson
  rw [jsonOfRaw, Node.ofJson] at properties
  rw [Node.ofJson] at members
  rw [ofEntries?_eq, members, Option.bind_some, Node.member?_ofMembers nodup, path, others,
    properties]
  rfl

/-- Entries with no text under `path` are those of no document. -/
theorem ofEntries?_eq_none {entries : List (Node × Node)} {members : List (String × Node)}
    (named : (Node.map entries).members? = some members)
    (noText : ∀ value, (pathKey, value) ∈ members → value.text? = none) :
    ofEntries? entries = none := by
  rw [ofEntries?_eq, named, Option.bind_some]
  cases found : Node.member? pathKey members with
  | none =>
      rfl
  | some field =>
      cases field with
      | none => rfl
      | some value =>
          rw [Option.bind_some, Node.required?, Option.bind_some,
            noText value (Node.mem_of_member? found)]
          rfl

theorem toJson_fits {depth : Nat} {document : Document} (isRead : document.IsRead depth) :
    document.toJson.Fits depth := by
  obtain ⟨nested, words⟩ := isRead.properties.fits
  cases nested with
  | object inside =>
  cases words with
  | object wordsInside =>
      exact .object (List.forall_mem_cons.mpr
        ⟨.text _, fun member isMember => ⟨inside member isMember, wordsInside member isMember⟩⟩)

end Document

/-! ## Nodes -/

namespace ContentNode

/-- What holds of a node that is read from JSON text, with a bound on its nesting. -/
inductive IsRead : Nat → ContentNode → Prop
  | document {depth : Nat} {leaf : Document} (isRead : leaf.IsRead depth) :
      IsRead depth (.document leaf)
  | folder {depth : Nat} {description : Option (OrderedMap Json)}
      {children : List (String × ContentNode)}
      (described : ∀ members, description = some members → IsRawRead depth members)
      (noDescription : descriptionKey ∉ Entries.keys children)
      (nodup : (Entries.keys children).Nodup)
      (inside : ∀ child ∈ children, IsRead depth child.2) :
      IsRead (depth + 1) (.folder description children)

theorem rootOf?_eq_mapM (entries : List (Node × Node)) :
    rootOf? entries = entries.mapM fun entry =>
      entry.1.text?.bind fun name => (ofNode? entry.2).map fun node => (name, node) := by
  induction entries with
  | nil =>
      rfl
  | cons entry entries inductionHypothesis =>
      obtain ⟨key, value⟩ := entry
      rw [rootOf?, List.mapM_cons, inductionHypothesis]
      cases key.text? with
      | none => rfl
      | some name => cases ofNode? value <;> rfl

/-- The nodes in a folder are those of its mapping without the description. -/
theorem childrenOf?_eq_rootOf? (entries : List (Node × Node)) :
    childrenOf? entries = rootOf? (Node.others descriptionKey entries) := by
  induction entries with
  | nil =>
      rfl
  | cons entry entries inductionHypothesis =>
      obtain ⟨key, value⟩ := entry
      rw [childrenOf?, inductionHypothesis, Node.others_cons]
      cases named : key.text? with
      | none =>
          rw [if_neg (Option.some_ne_none _).symm, rootOf?, named]
          rfl
      | some name =>
          by_cases isDescription : name = descriptionKey
          · rw [if_pos (congrArg some isDescription), Option.bind_eq_bind, Option.bind_some,
              if_pos isDescription]
          · rw [if_neg (mt Option.some.inj isDescription), rootOf?, named, Option.bind_eq_bind,
              Option.bind_some, if_neg isDescription]
            rfl

theorem exists_of_mem_rootOf? {entries : List (Node × Node)} {nodes : List (String × ContentNode)}
    (read : rootOf? entries = some nodes) {node : String × ContentNode} (member : node ∈ nodes) :
    ∃ entry ∈ entries, entry.1.text? = some node.1 ∧ ofNode? entry.2 = some node.2 := by
  rw [rootOf?_eq_mapM] at read
  obtain ⟨entry, isEntry, entryRead⟩ := exists_of_mem_mapM read member
  obtain ⟨name, nameRead, entryRead⟩ := Option.bind_eq_some_iff.mp entryRead
  obtain ⟨found, foundRead, rfl⟩ := Option.map_eq_some_iff.mp entryRead
  exact ⟨entry, isEntry, nameRead, foundRead⟩

/-! ### What is read -/

theorem isRawRead_of_description? {depth : Nat} {entries : List (Node × Node)}
    (inside : ∀ entry ∈ entries, entry.2.IsRead depth) {members : OrderedMap Json}
    (read : description? entries = some (some members)) : IsRawRead depth members := by
  obtain ⟨named, namedRead, read⟩ := Option.bind_eq_some_iff.mp read
  obtain ⟨field, found, fieldRead⟩ := Option.bind_eq_some_iff.mp read
  cases field with
  | none =>
      cases fieldRead
  | some value =>
      obtain ⟨_, rawRead⟩ := Node.exists_of_option? fieldRead
      obtain ⟨entry, isEntry, entryRead⟩ :=
        exists_of_mem_mapM namedRead (Node.mem_of_member? found)
      obtain ⟨_, _, same⟩ := Option.map_eq_some_iff.mp entryRead
      cases same
      exact isRawRead_of_rawMembers? (inside entry isEntry) rawRead

/-- The nodes of a read node are those of the parts of what it is read from, so the induction is on
the latter. -/
theorem isRead_of_ofNode? {depth : Nat} {node : Node} (isRead : node.IsRead depth)
    {read : ContentNode} (done : ofNode? node = some read) : read.IsRead depth := by
  induction isRead generalizing read with
  | scalar _ =>
      cases done
  | list _ _ =>
      cases done
  | @map depth entries keys inside inductionHypothesis =>
      have isRead : (Node.map entries).IsRead (depth + 1) := .map keys inside
      rw [ofNode?] at done
      split at done
      · next found =>
        cases done
        exact .document (Document.isRead_of_ofEntries? isRead found)
      · obtain ⟨description, descriptionDone, done⟩ := Option.bind_eq_some_iff.mp done
        obtain ⟨children, childrenDone, done⟩ := Option.bind_eq_some_iff.mp done
        cases done
        rw [childrenOf?_eq_rootOf?] at childrenDone
        -- Repeated keys may drop nodes, so only those that are kept are followed back.
        have each : ∀ child ∈ Entries.collect children, ∃ entry ∈
            Node.others descriptionKey entries, entry.1.text? = some child.1 ∧
              ofNode? entry.2 = some child.2 := fun child isChild =>
          exists_of_mem_rootOf? childrenDone (Entries.mem_of_mem_collect isChild)
        refine .folder ?_ ?_ (Entries.nodup_keys_collect _) ?_
        · rintro members rfl
          exact isRawRead_of_description? inside descriptionDone
        · intro isDescription
          obtain ⟨child, isChild, same⟩ := List.mem_map.mp isDescription
          obtain ⟨entry, isEntry, nameRead, _⟩ := each child isChild
          exact Node.text?_ne_of_mem_others isEntry (nameRead.trans (congrArg some same))
        · intro child isChild
          obtain ⟨entry, isEntry, _, childDone⟩ := each child isChild
          exact inductionHypothesis entry (List.mem_of_mem_filter isEntry) childDone

/-! ### The written members -/

theorem toMembers_eq_map (nodes : List (String × ContentNode)) :
    toMembers nodes = nodes.map fun (key, node) => (key, node.toJson) := by
  induction nodes with
  | nil =>
      rfl
  | cons entry nodes inductionHypothesis =>
      obtain ⟨key, node⟩ := entry
      rw [toMembers, inductionHypothesis, List.map_cons]

theorem keys_toMembers (nodes : List (String × ContentNode)) :
    Entries.keys (toMembers nodes) = Entries.keys nodes := by
  rw [toMembers_eq_map, Entries.keys_map]

/-- The members of the object that a folder is written as. -/
def folderMembers (description : Option (OrderedMap Json))
    (children : List (String × ContentNode)) : List (String × Json) :=
  match description with
  | some members => (descriptionKey, jsonOfRaw members) :: toMembers children
  | none => toMembers children

theorem toJson_folder (description : Option (OrderedMap Json))
    (children : List (String × ContentNode)) :
    (folder description children).toJson = .object (folderMembers description children) := by
  cases description <;> rfl

theorem mem_toMembers {nodes : List (String × ContentNode)} {member : String × Json}
    (inside : member ∈ toMembers nodes) : ∃ entry ∈ nodes, member = (entry.1, entry.2.toJson) := by
  rw [toMembers_eq_map] at inside
  obtain ⟨entry, isEntry, rfl⟩ := List.mem_map.mp inside
  exact ⟨entry, isEntry, rfl⟩

theorem mem_folderMembers {description : Option (OrderedMap Json)}
    {children : List (String × ContentNode)} {member : String × Json}
    (inside : member ∈ folderMembers description children) :
    (∃ members, description = some members ∧ member = (descriptionKey, jsonOfRaw members)) ∨
      ∃ child ∈ children, member = (child.1, child.2.toJson) := by
  cases description with
  | none =>
      exact .inr (mem_toMembers inside)
  | some members =>
      rcases List.mem_cons.mp inside with rfl | isChild
      · exact .inl ⟨members, rfl, rfl⟩
      · exact .inr (mem_toMembers isChild)

/-- A node is written as an object, never as a text. -/
theorem text?_ofJson_toJson (node : ContentNode) : (Node.ofJson node.toJson).text? = none := by
  cases node with
  | document leaf => rfl
  | folder description children => rfl

/-! ### Through JSON and back -/

theorem rootOf?_toMembers {nodes : List (String × ContentNode)}
    (each : ∀ entry ∈ nodes, ofNode? (Node.ofJson entry.2.toJson) = some entry.2) :
    rootOf? (Node.ofMembers (toMembers nodes)) = some nodes := by
  rw [rootOf?_eq_mapM, Node.ofMembers_eq_map, toMembers_eq_map, List.map_map, List.mapM_map]
  refine (mapM_of_forall fun entry isEntry => ?_).trans (congrArg some (List.map_id nodes))
  simp only [Function.comp_apply, Node.text?_ofText, Option.bind_some, each entry isEntry,
    Option.map_some, id_eq]

section Folder

variable {depth : Nat} {description : Option (OrderedMap Json)}
  {children : List (String × ContentNode)}

theorem nodup_keys_folderMembers (noDescription : descriptionKey ∉ Entries.keys children)
    (nodup : (Entries.keys children).Nodup) :
    (Entries.keys (folderMembers description children)).Nodup := by
  rw [← keys_toMembers children] at noDescription nodup
  cases description with
  | none => exact nodup
  | some members => exact List.nodup_cons.mpr ⟨noDescription, nodup⟩

theorem description?_folderMembers
    (described : ∀ members, description = some members → IsRawRead depth members)
    (noDescription : descriptionKey ∉ Entries.keys children)
    (nodup : (Entries.keys children).Nodup) :
    description? (Node.ofMembers (folderMembers description children)) = some description := by
  have allNodup := @nodup_keys_folderMembers description children noDescription nodup
  have named := Node.members?_ofJson (folderMembers description children)
  rw [Node.ofJson] at named
  rw [description?, named, Option.bind_eq_bind, Option.bind_some, Node.member?_ofMembers allNodup,
    Option.bind_eq_bind, Option.bind_some]
  cases description with
  | none =>
      have absent : Entries.find? descriptionKey (toMembers children) = none := by
        rwa [Entries.find?_eq_none_iff, keys_toMembers]
      rw [folderMembers, absent]
      rfl
  | some members =>
      have found : Entries.find? descriptionKey (folderMembers (some members) children) =
          some (jsonOfRaw members) := if_pos rfl
      have notNull : jsonOfRaw members ≠ .null := by rintro ⟨⟩
      rw [found, Option.map_some, Node.defaulted?, Node.option?_ofJson rawMembers? notNull,
        (described members rfl).rawMembers?_ofJson]
      rfl

/-- A folder is never taken for a document: what it writes under `path` is a node. -/
theorem ofEntries?_folderMembers :
    Document.ofEntries? (Node.ofMembers (folderMembers description children)) = none := by
  refine Document.ofEntries?_eq_none (Node.members?_ofJson _) fun value isValue => ?_
  obtain ⟨member, isMember, same⟩ := List.mem_map.mp isValue
  obtain ⟨isPath, rfl⟩ := Prod.mk.inj same
  rcases mem_folderMembers isMember with ⟨members, _, rfl⟩ | ⟨child, _, rfl⟩
  · have different : descriptionKey ≠ Document.pathKey := by decide
    exact absurd isPath different
  · exact text?_ofJson_toJson child.2

theorem childrenOf?_folderMembers (noDescription : descriptionKey ∉ Entries.keys children)
    (each : ∀ child ∈ children, ofNode? (Node.ofJson child.2.toJson) = some child.2) :
    childrenOf? (Node.ofMembers (folderMembers description children)) = some children := by
  rw [← keys_toMembers children] at noDescription
  have others : Entries.erase descriptionKey (folderMembers description children) =
      toMembers children := by
    cases description with
    | none => exact Entries.erase_of_not_mem noDescription
    | some members => exact Entries.erase_cons_of_not_mem noDescription
  rw [childrenOf?_eq_rootOf?, Node.others_ofMembers, others, rootOf?_toMembers each]

end Folder

/-- A node is read as it is written: documents as documents, and folders as folders. -/
theorem ofNode?_toJson {depth : Nat} {node : ContentNode} (isRead : node.IsRead depth) :
    ofNode? (Node.ofJson node.toJson) = some node := by
  induction isRead with
  | document isRead =>
      have read := Document.ofEntries?_toJson isRead
      rw [toJson, Document.toJson, Node.ofJson, ofNode?, read]
  | @folder depth description children described noDescription nodup _ inductionHypothesis =>
      rw [toJson_folder, Node.ofJson, ofNode?, ofEntries?_folderMembers]
      simp only [description?_folderMembers described noDescription nodup,
        childrenOf?_folderMembers noDescription inductionHypothesis, Option.bind_eq_bind,
        Option.bind_some, Entries.collect_of_nodup nodup]

/-- A node is nested no deeper than what it is read from, and its integers are words. -/
theorem toJson_fits {depth : Nat} {node : ContentNode} (isRead : node.IsRead depth) :
    node.toJson.Fits depth := by
  induction isRead with
  | document isRead =>
      exact Document.toJson_fits isRead
  | @folder depth description children described _ _ _ inductionHypothesis =>
      rw [toJson_folder]
      refine .object fun member isMember => ?_
      rcases mem_folderMembers isMember with ⟨members, isDescription, rfl⟩ | ⟨child, isChild, rfl⟩
      · exact (described members isDescription).fits
      · exact inductionHypothesis child isChild

end ContentNode

/-! ## Trees -/

namespace ContentTree

/-- What holds of a tree that is read from JSON text. -/
structure IsRead (depth : Nat) (tree : ContentTree) : Prop where
  nodup : tree.keys.Nodup
  inside : ∀ entry ∈ tree.nodes, entry.2.IsRead depth

theorem isRead_of_ofNode? {depth : Nat} {node : Node} (isRead : node.IsRead (depth + 1))
    {tree : ContentTree} (read : ofNode? node = some tree) : tree.IsRead depth := by
  cases isRead with
  | scalar _ =>
      cases read
  | list _ =>
      cases read
  | map keys inside =>
      obtain ⟨nodes, nodesRead, rfl⟩ := Option.map_eq_some_iff.mp read
      refine ⟨Entries.nodup_keys_collect nodes, fun child isChild => ?_⟩
      obtain ⟨entry, isEntry, _, childRead⟩ :=
        ContentNode.exists_of_mem_rootOf? nodesRead (Entries.mem_of_mem_collect isChild)
      exact ContentNode.isRead_of_ofNode? (inside entry isEntry) childRead

theorem ofNode?_toJson {depth : Nat} {tree : ContentTree} (isRead : tree.IsRead depth) :
    ofNode? (Node.ofJson tree.toJson) = some tree := by
  have nodes := ContentNode.rootOf?_toMembers fun entry isEntry =>
    ContentNode.ofNode?_toJson (isRead.inside entry isEntry)
  rw [toJson, Node.ofJson, ofNode?, nodes, Option.map_some, Entries.collect_of_nodup isRead.nodup]

theorem toJson_fits {depth : Nat} {tree : ContentTree} (isRead : tree.IsRead depth) :
    tree.toJson.Fits (depth + 1) := by
  refine .object fun member isMember => ?_
  obtain ⟨entry, isEntry, rfl⟩ := ContentNode.mem_toMembers isMember
  exact ContentNode.toJson_fits (isRead.inside entry isEntry)

/-- A tree that is read from JSON text is written as JSON text that is read as the same tree, with
the same keys, folders and documents in the same order. The doubles that are written read back. -/
theorem ofText?_toJson {text : String} {tree : ContentTree} (read : ofText? text = some tree)
    (back : tree.toJson.Every DoubleReadsBack) : ofText? tree.toJson.compact = some tree := by
  obtain ⟨node, isNode, nodeRead⟩ := Option.bind_eq_some_iff.mp read
  have fromText : node.IsRead (126 + 1) := Json.isRead_of_ofJsonText? isNode
  have isRead := isRead_of_ofNode? fromText nodeRead
  have fits : tree.toJson.Fits (126 + 1) := toJson_fits isRead
  have written : tree.toJson.Every IsWritten := (fits.words.and back).imp fun scalar both => by
    cases scalar with
    | integer _ => exact both.1
    | float _ => exact both.2
    | null => trivial
    | bool _ => trivial
    | text _ => trivial
  rw [ofText?, Json.nodeOfText?_compact fits.nested written, Option.bind_some,
    ofNode?_toJson isRead]

/-! ### A tree with a folder and a description under the name of a path -/

def shelfText : String :=
  "\x7b\"_meta\":\x7b\"path\":\"m.md\"\x7d," ++
  "\"path\":\x7b\"a\":\x7b\"score\":1,\"tags\":[\"x\"],\"score\":2.5,\"path\":\"path/a.md\"\x7d," ++
  "\"_meta\":\x7b\"path\":\"shelf\"\x7d,\"path\":\x7b\x7d\x7d\x7d"

/-- What the text holds, with the score of a note twice. -/
def shelfJson : Json :=
  .object
    [("_meta", .object [("path", .text "m.md")]),
     ("path", .object
       [("a", .object
          [("score", .integer 1), ("tags", .texts ["x"]), ("score", .float BaseConfig.twoAndHalf),
           ("path", .text "path/a.md")]),
        ("_meta", .object [("path", .text "shelf")]),
        ("path", .object [])])]

def shelf : ContentTree :=
  ⟨[("_meta", .document ⟨"m.md", .empty⟩),
    ("path", .folder (some ⟨[("path", .text "shelf")], by decide⟩)
      [("a", .document ⟨"path/a.md",
         ⟨[("score", .float BaseConfig.twoAndHalf), ("tags", .texts ["x"])], by decide⟩⟩),
       ("path", .folder none [])])]⟩

theorem ofText?_shelfText : ofText? shelfText = some shelf := by
  have written : shelfJson.Every IsWritten := by
    simp [shelfJson, Json.text, Json.texts, Json.integer, Json.float, IsWritten, Json.IsWord,
      BaseConfig.readsBack_twoAndHalf]
  have nested : shelfJson.Nested 127 := by
    simp [shelfJson, Json.text, Json.texts, Json.integer, Json.float]
  have text : shelfJson.compact = shelfText := by decide +kernel
  rw [ofText?, ← text, Json.nodeOfText?_compact nested written]
  rfl

theorem ofText?_toJson_shelf :
    ofText? shelfText = some shelf ∧ ofText? shelf.toJson.compact = some shelf := by
  refine ⟨ofText?_shelfText, ofText?_toJson ofText?_shelfText ?_⟩
  simp [shelf, toJson, ContentNode.toMembers, ContentNode.toJson, Document.toJson, jsonOfRaw,
    OrderedMap.empty, Json.text, Json.texts, Json.float, DoubleReadsBack,
    BaseConfig.readsBack_twoAndHalf]

end ContentTree

end NoteBase
