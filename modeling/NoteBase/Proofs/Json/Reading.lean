import NoteBase.Proofs.Json.Sorted

/-!
# What JSON text is read as

A node that is read from JSON text has lists that are positional, keys that are texts, and no tags.
If all of it stands for something, it is the node of a JSON value.
-/

namespace NoteBase

namespace Node

/-! ## The nodes of JSON text -/

/-- What JSON text can be read as, with a bound on the nesting. A part may stand for nothing. -/
inductive IsRead : Nat → Node → Prop
  | scalar {depth : Nat} {atom : Atom} (taken : Json.IsTaken atom) : IsRead depth (.scalar atom)
  | list {depth : Nat} {items : List Node} (inside : ∀ item ∈ items, IsRead depth item) :
      IsRead (depth + 1) (.list true items)
  | map {depth : Nat} {entries : List (Node × Node)}
      (keys : ∀ entry ∈ entries, entry.1 = .void ∨ ∃ key, entry.1 = .scalar (.ofText key))
      (inside : ∀ entry ∈ entries, IsRead depth entry.2) : IsRead (depth + 1) (.map entries)

/-- No mapping has a text twice among its keys. -/
inductive DistinctKeys : Node → Prop
  | scalar {atom : Atom} : DistinctKeys (.scalar atom)
  | list {positional : Bool} {items : List Node} (inside : ∀ item ∈ items, DistinctKeys item) :
      DistinctKeys (.list positional items)
  | map {entries : List (Node × Node)}
      (nodup : (entries.filterMap fun entry => entry.1.text?).Nodup)
      (inside : ∀ entry ∈ entries, DistinctKeys entry.2) : DistinctKeys (.map entries)
  | tagged {tag : String} {node : Node} (inside : DistinctKeys node) :
      DistinctKeys (.tagged tag node)

theorem text?_ofText (key : String) : (Node.scalar (.ofText key)).text? = some key :=
  rfl

theorem filterMap_text?_ofMembers (members : List (String × Json)) :
    (ofMembers members).filterMap (fun entry => entry.1.text?) = Entries.keys members := by
  rw [ofMembers_eq_map, List.filterMap_map]
  show members.filterMap (some ∘ Prod.fst) = Entries.keys members
  rw [List.filterMap_eq_map]
  rfl

/-- A value has repeated keys exactly if its node has. -/
theorem distinctKeys_ofJson_iff {json : Json} : (ofJson json).DistinctKeys ↔ json.DistinctKeys := by
  induction json using Json.induction with
  | scalar value =>
      exact ⟨fun _ => .scalar, fun _ => .scalar⟩
  | array items inductionHypothesis =>
      rw [ofJson, ofItems_eq_map, Json.distinctKeys_array_iff]
      constructor
      · intro distinct item member
        cases distinct with
        | list inside =>
            exact (inductionHypothesis item member).mp (inside _ (List.mem_map_of_mem member))
      · intro inside
        refine .list fun node isNode => ?_
        obtain ⟨item, member, rfl⟩ := List.mem_map.mp isNode
        exact (inductionHypothesis item member).mpr (inside item member)
  | object members inductionHypothesis =>
      rw [ofJson, Json.distinctKeys_object_iff, ← filterMap_text?_ofMembers]
      constructor
      · intro distinct
        cases distinct with
        | map nodup inside =>
            refine ⟨nodup, fun member isMember => ?_⟩
            refine (inductionHypothesis member isMember).mp
              (inside (.scalar (.ofText member.1), _) ?_)
            rw [ofMembers_eq_map]
            exact List.mem_map_of_mem isMember
      · rintro ⟨nodup, inside⟩
        refine .map nodup fun entry isEntry => ?_
        rw [ofMembers_eq_map] at isEntry
        obtain ⟨member, isMember, rfl⟩ := List.mem_map.mp isEntry
        exact (inductionHypothesis member isMember).mpr (inside member isMember)

end Node

namespace Json

theorem readAs_array (items : List Json) :
    readAs (.array items) = .list true (items.map readAs) := by
  have all : itemsReadAs items = items.map readAs := by
    induction items with
    | nil =>
        rfl
    | cons item items inductionHypothesis =>
        rw [itemsReadAs, inductionHypothesis, List.map_cons]
  rw [readAs, all]

theorem readAs_object (members : List (String × Json)) :
    readAs (.object members) =
      .map (members.map fun member => (.scalar (.ofText member.1), readAs member.2)) := by
  have all : membersReadAs members =
      members.map fun member => (.scalar (.ofText member.1), readAs member.2) := by
    induction members with
    | nil =>
        rfl
    | cons member members inductionHypothesis =>
        obtain ⟨key, value⟩ := member
        rw [membersReadAs, inductionHypothesis, List.map_cons]
  rw [readAs, all]

/-- The text of a value without repeated keys is read without repeated keys. -/
theorem DistinctKeys.readAs {json : Json} (distinct : json.DistinctKeys) :
    json.readAs.DistinctKeys := by
  induction distinct with
  | scalar =>
      exact .scalar
  | array inside inductionHypothesis =>
      rw [readAs_array]
      refine .list fun node isNode => ?_
      obtain ⟨item, member, rfl⟩ := List.mem_map.mp isNode
      exact inductionHypothesis item member
  | @object members nodup inside inductionHypothesis =>
      have keys : (members.map fun member =>
          (Node.scalar (.ofText member.1), member.2.readAs)).filterMap
            (fun entry => entry.1.text?) = Entries.keys members := by
        rw [List.filterMap_map]
        show members.filterMap (some ∘ Prod.fst) = Entries.keys members
        rw [List.filterMap_eq_map]
        rfl
      rw [readAs_object]
      refine .map (keys ▸ nodup) fun entry isEntry => ?_
      obtain ⟨member, isMember, rfl⟩ := List.mem_map.mp isEntry
      exact inductionHypothesis member isMember

/-! ## Reading -/

theorem takeKey?_inversion {chars rest : List Char} {atom : Atom}
    (taken : takeKey? chars = some (atom, rest)) : atom = .void ∨ ∃ text, atom = .ofText text := by
  unfold takeKey? at taken
  obtain ⟨⟨key, after⟩, quoted, taken⟩ := Option.bind_eq_some_iff.mp taken
  simp only at taken
  split at taken
  · cases taken
    exact takeQuoted?_inversion quoted
  · cases taken

/-- All values that are taken with this fuel are what JSON text can be read as. -/
def ValuesRead (fuel : Nat) : Prop :=
  ∀ (depth : Nat) (chars rest : List Char) (node : Node),
    takeValue? fuel depth chars = some (node, rest) → node.IsRead depth

def ItemsRead (fuel : Nat) : Prop :=
  ∀ (depth : Nat) (chars rest : List Char) (items : List Node),
    takeItems? fuel depth chars = some (items, rest) → ∀ item ∈ items, item.IsRead depth

def MembersRead (fuel : Nat) : Prop :=
  ∀ (depth : Nat) (chars rest : List Char) (entries : List (Node × Node)),
    takeMembers? fuel depth chars = some (entries, rest) →
      (∀ entry ∈ entries, entry.1 = .void ∨ ∃ key, entry.1 = .scalar (.ofText key)) ∧
        ∀ entry ∈ entries, entry.2.IsRead depth

section Steps

variable {fuel : Nat}

/-- Beyond the greatest depth a list or an object is passed over, and stands for nothing. -/
theorem valuesRead_succ (items : ItemsRead fuel) (members : MembersRead fuel) :
    ValuesRead (fuel + 1) := by
  intro depth chars rest node taken
  rw [takeValue?] at taken
  split at taken
  · next opened =>
    cases depth with
    | zero =>
        obtain ⟨_, _, same⟩ := Option.map_eq_some_iff.mp taken
        cases same
        exact .scalar (.inl rfl)
    | succ depth =>
        simp only at taken
        split at taken
        · cases taken
          exact .list (by simp)
        · obtain ⟨⟨found, after⟩, itemsTaken, same⟩ := Option.map_eq_some_iff.mp taken
          cases same
          exact .list (items _ _ _ _ itemsTaken)
  · next opened =>
    cases depth with
    | zero =>
        obtain ⟨_, _, same⟩ := Option.map_eq_some_iff.mp taken
        cases same
        exact .scalar (.inl rfl)
    | succ depth =>
        simp only at taken
        split at taken
        · cases taken
          exact .map (by simp) (by simp)
        · obtain ⟨⟨found, after⟩, membersTaken, same⟩ := Option.map_eq_some_iff.mp taken
          cases same
          obtain ⟨keys, inside⟩ := members _ _ _ _ membersTaken
          exact .map keys inside
  · obtain ⟨⟨atom, after⟩, atomTaken, same⟩ := Option.map_eq_some_iff.mp taken
    cases same
    exact .scalar (takeAtom?_inversion atomTaken)

theorem itemsRead_succ (values : ValuesRead fuel) (items : ItemsRead fuel) :
    ItemsRead (fuel + 1) := by
  intro depth chars rest found taken
  rw [takeItems?] at taken
  obtain ⟨⟨item, after⟩, itemTaken, taken⟩ := Option.bind_eq_some_iff.mp taken
  have itemRead := values _ _ _ _ itemTaken
  simp only at taken
  split at taken
  · obtain ⟨⟨others, afterOthers⟩, othersTaken, taken⟩ := Option.bind_eq_some_iff.mp taken
    cases taken
    exact List.forall_mem_cons.mpr ⟨itemRead, items _ _ _ _ othersTaken⟩
  · cases taken
    exact List.forall_mem_cons.mpr ⟨itemRead, by simp⟩
  · cases taken

theorem membersRead_succ (values : ValuesRead fuel) (members : MembersRead fuel) :
    MembersRead (fuel + 1) := by
  intro depth chars rest found taken
  rw [takeMembers?] at taken
  obtain ⟨⟨key, afterKey⟩, keyTaken, taken⟩ := Option.bind_eq_some_iff.mp taken
  obtain ⟨⟨value, after⟩, valueTaken, taken⟩ := Option.bind_eq_some_iff.mp taken
  have valueRead := values _ _ _ _ valueTaken
  have keyRead : Node.scalar key = .void ∨
      ∃ name, Node.scalar key = .scalar (.ofText name) := by
    rcases takeKey?_inversion keyTaken with rfl | ⟨name, rfl⟩
    · exact .inl rfl
    · exact .inr ⟨name, rfl⟩
  simp only at taken
  split at taken
  · obtain ⟨⟨others, afterOthers⟩, othersTaken, taken⟩ := Option.bind_eq_some_iff.mp taken
    cases taken
    obtain ⟨keys, inside⟩ := members _ _ _ _ othersTaken
    exact ⟨List.forall_mem_cons.mpr ⟨keyRead, keys⟩,
      List.forall_mem_cons.mpr ⟨valueRead, inside⟩⟩
  · cases taken
    exact ⟨List.forall_mem_cons.mpr ⟨keyRead, by simp⟩,
      List.forall_mem_cons.mpr ⟨valueRead, by simp⟩⟩
  · cases taken

end Steps

theorem isRead_take (fuel : Nat) : ValuesRead fuel ∧ ItemsRead fuel ∧ MembersRead fuel := by
  induction fuel with
  | zero =>
      refine ⟨?values, ?items, ?members⟩
      case values => exact fun _ _ _ _ taken => nomatch taken
      case items => exact fun _ _ _ _ taken => nomatch taken
      case members => exact fun _ _ _ _ taken => nomatch taken
  | succ fuel inductionHypothesis =>
      obtain ⟨values, items, members⟩ := inductionHypothesis
      exact ⟨valuesRead_succ items members, itemsRead_succ values items,
        membersRead_succ values members⟩

theorem isRead_of_ofJsonText? {text : String} {node : Node}
    (read : Node.ofJsonText? text = some node) : node.IsRead maxNesting := by
  unfold Node.ofJsonText? nodeOfChars? at read
  split at read
  · next taken =>
    split at read
    · cases read
      exact (isRead_take _).1 _ _ _ _ taken
    · cases read
  · cases read

end Json

/-! ## Nodes all of which stand for something -/

namespace Node

/-- A node is that of a JSON value with a bound on its nesting. -/
def IsWhole (depth : Nat) (node : Node) : Prop :=
  ∃ json, node = ofJson json ∧ json.Nested depth ∧ json.Every Json.IsHeld

theorem isWhole_list {depth : Nat} {items : List Node}
    (inside : ∀ item ∈ items, item.IsWhole depth) : (Node.list true items).IsWhole (depth + 1) := by
  obtain ⟨jsons, rfl, held⟩ := exists_map_eq inside
  refine ⟨.array jsons, ?_, ?_, ?_⟩
  · rw [ofJson, ofItems_eq_map]
  · exact .array fun json member => (held json member).1
  · exact .array fun json member => (held json member).2

theorem isWhole_map {depth : Nat} {entries : List (Node × Node)}
    (inside : ∀ entry ∈ entries,
      (∃ key, entry.1 = .scalar (.ofText key)) ∧ entry.2.IsWhole depth) :
    (Node.map entries).IsWhole (depth + 1) := by
  have each : ∀ entry ∈ entries, ∃ member : String × Json,
      entry = (.scalar (.ofText member.1), ofJson member.2) ∧
        member.2.Nested depth ∧ member.2.Every Json.IsHeld := by
    intro entry member
    obtain ⟨⟨key, sameKey⟩, json, sameValue, held⟩ := inside entry member
    exact ⟨(key, json), Prod.ext sameKey sameValue, held⟩
  obtain ⟨members, rfl, held⟩ := exists_map_eq each
  refine ⟨.object members, ?_, ?_, ?_⟩
  · rw [ofJson, ofMembers_eq_map]
  · exact .object fun member isMember => (held member isMember).1
  · exact .object fun member isMember => (held member isMember).2

theorem isWhole_scalar {depth : Nat} {atom : Atom} (taken : Json.IsTaken atom)
    (stands : atom.value ≠ none) : (Node.scalar atom).IsWhole depth := by
  rcases taken with rfl | ⟨scalar, held, rfl⟩
  · exact absurd rfl stands
  · exact ⟨.scalar scalar, rfl, .scalar, .scalar held⟩

theorem isText_of_text? {key : Node} {name : String}
    (isKey : key = .void ∨ ∃ key', key = .scalar (.ofText key')) (text : key.text? = some name) :
    key = .scalar (.ofText name) := by
  rcases isKey with rfl | ⟨other, rfl⟩
  · cases text
  · cases text
    rfl

/-- A node that becomes a JSON value is that of a value. -/
theorem isWhole_of_toJson? {depth : Nat} {node : Node} (isRead : node.IsRead depth) {json : Json}
    (become : node.toJson? = some json) : node.IsWhole depth := by
  induction isRead generalizing json with
  | scalar taken =>
      refine isWhole_scalar taken fun absent => ?_
      rw [toJson?, absent] at become
      cases become
  | list inside inductionHypothesis =>
      rw [toJson?, toItems?_eq_mapM] at become
      obtain ⟨jsons, read, _⟩ := Option.map_eq_some_iff.mp become
      refine isWhole_list fun item member => ?_
      obtain ⟨value, _, itemRead⟩ := exists_part_of_mem read member
      exact inductionHypothesis item member itemRead
  | @map depth entries keys inside inductionHypothesis =>
      rw [toJson?] at become
      obtain ⟨members, read, _⟩ := Option.map_eq_some_iff.mp become
      have eachRead : ∀ (rest : List (Node × Node)) (before : List (String × Json)),
          toMembers? rest before = some members →
            ∀ entry ∈ rest, (∃ name, entry.1.text? = some name) ∧
              ∃ value, entry.2.toJson? = some value := by
        intro rest
        induction rest with
        | nil =>
            exact fun _ _ => by simp
        | cons entry rest restHypothesis =>
            obtain ⟨key, value⟩ := entry
            intro before restRead
            rw [toMembers?] at restRead
            obtain ⟨name, keyRead, restRead⟩ := Option.bind_eq_some_iff.mp restRead
            obtain ⟨value, valueRead, restRead⟩ := Option.bind_eq_some_iff.mp restRead
            exact List.forall_mem_cons.mpr
              ⟨⟨⟨name, keyRead⟩, value, valueRead⟩, restHypothesis _ restRead⟩
      refine isWhole_map fun entry member => ?_
      obtain ⟨⟨name, keyRead⟩, value, valueRead⟩ := eachRead entries [] read entry member
      exact ⟨⟨name, isText_of_text? (keys entry member) keyRead⟩,
        inductionHypothesis entry member valueRead⟩

/-- What a node becomes has sorted keys and is nested no deeper. -/
theorem isSorted_of_toJson? {depth : Nat} {node : Node} (isRead : node.IsRead depth) {json : Json}
    (become : node.toJson? = some json) :
    json.IsSorted ∧ json.Nested depth ∧ json.Every Json.IsHeld := by
  obtain ⟨source, rfl, nested, held⟩ := isWhole_of_toJson? isRead become
  rw [toJson?_ofJson] at become
  cases become
  exact ⟨Json.isSorted_sorted source, nested.sorted, held.isHeld_sorted⟩

theorem settleItems?_eq_mapM (items : List Node) : settleItems? items = items.mapM settle? := by
  induction items with
  | nil =>
      rfl
  | cons item items inductionHypothesis =>
      rw [settleItems?, inductionHypothesis, List.mapM_cons]
      rfl

/-- A node that can be settled is that of a value. -/
theorem isWhole_of_settle? {depth : Nat} {node settled : Node} (isRead : node.IsRead depth)
    (settles : node.settle? = some settled) : node.IsWhole depth := by
  induction isRead generalizing settled with
  | scalar taken =>
      refine isWhole_scalar taken fun absent => ?_
      rw [settle?, Atom.settle?, absent] at settles
      cases settles
  | list inside inductionHypothesis =>
      rw [settle?, settleItems?_eq_mapM] at settles
      obtain ⟨found, read, _⟩ := Option.map_eq_some_iff.mp settles
      refine isWhole_list fun item member => ?_
      obtain ⟨value, _, itemRead⟩ := exists_part_of_mem read member
      exact inductionHypothesis item member itemRead
  | @map depth entries keys inside inductionHypothesis =>
      rw [settle?] at settles
      obtain ⟨found, read, _⟩ := Option.map_eq_some_iff.mp settles
      have eachRead : ∀ (rest found : List (Node × Node)), settleEntries? rest = some found →
          ∀ entry ∈ rest, (∃ key, entry.1.settle? = some key) ∧
            ∃ value, entry.2.settle? = some value := by
        intro rest
        induction rest with
        | nil =>
            exact fun _ _ => by simp
        | cons entry rest restHypothesis =>
            obtain ⟨key, value⟩ := entry
            intro found restRead
            rw [settleEntries?.eq_def] at restRead
            obtain ⟨key, keyRead, restRead⟩ := Option.bind_eq_some_iff.mp restRead
            obtain ⟨value, valueRead, restRead⟩ := Option.bind_eq_some_iff.mp restRead
            obtain ⟨others, othersRead, _⟩ := Option.bind_eq_some_iff.mp restRead
            exact List.forall_mem_cons.mpr
              ⟨⟨⟨key, keyRead⟩, value, valueRead⟩, restHypothesis _ othersRead⟩
      refine isWhole_map fun entry member => ?_
      obtain ⟨⟨key, keyRead⟩, value, valueRead⟩ := eachRead entries found read entry member
      refine ⟨(keys entry member).resolve_left fun void => ?_,
        inductionHypothesis entry member valueRead⟩
      rw [void] at keyRead
      cases keyRead

/-! ## The parts of nodes -/

/-- A node of JSON text without repeated keys. -/
structure IsSound (depth : Nat) (node : Node) : Prop where
  isRead : node.IsRead depth
  distinct : node.DistinctKeys

namespace IsSound

theorem item {depth : Nat} {positional : Bool} {items : List Node}
    (sound : (Node.list positional items).IsSound (depth + 1)) {item : Node}
    (member : item ∈ items) : item.IsSound depth := by
  obtain ⟨isRead, distinct⟩ := sound
  cases isRead with
  | list itemsRead =>
  cases distinct with
  | list itemsDistinct => exact ⟨itemsRead item member, itemsDistinct item member⟩

theorem entry {depth : Nat} {entries : List (Node × Node)}
    (sound : (Node.map entries).IsSound (depth + 1)) {entry : Node × Node}
    (member : entry ∈ entries) : entry.2.IsSound depth := by
  obtain ⟨isRead, distinct⟩ := sound
  cases isRead with
  | map _ valuesRead =>
  cases distinct with
  | map _ valuesDistinct => exact ⟨valuesRead entry member, valuesDistinct entry member⟩

/-- A node that can be settled is that of a JSON value without repeated keys. -/
theorem settled {depth : Nat} {node settled : Node} (sound : node.IsSound depth)
    (settles : node.settle? = some settled) :
    ∃ json, node = ofJson json ∧ json.Nested depth ∧ json.Every Json.IsHeld ∧
      json.DistinctKeys := by
  obtain ⟨json, rfl, nested, held⟩ := isWhole_of_settle? sound.isRead settles
  exact ⟨json, rfl, nested, held, distinctKeys_ofJson_iff.mp sound.distinct⟩

end IsSound

theorem isEmpty_of_isTaken {atom : Atom} (taken : Json.IsTaken atom) : atom.isEmpty = false := by
  rcases taken with rfl | ⟨scalar, _, rfl⟩
  · rfl
  · cases scalar <;> rfl

theorem exists_entries {depth : Nat} {node : Node} (isRead : node.IsRead depth)
    {entries : List (Node × Node)} (read : node.entries? = some entries) : node = .map entries := by
  cases isRead with
  | @scalar _ atom taken =>
      have none : (Node.scalar atom).entries? = Option.none := by
        show (if atom.isEmpty then some [] else Option.none) = Option.none
        rw [isEmpty_of_isTaken taken]
        rfl
      rw [none] at read
      cases read
  | list _ =>
      cases read
  | map _ _ =>
      cases read
      rfl

/-- What is read as a list is a list, and each of its items is read. -/
theorem exists_items {Part : Type} {part? : Node → Option Part} {depth : Nat} {node : Node}
    (isRead : node.IsRead depth) {parts : List Part} (read : list? part? node = some parts) :
    ∃ positional items, node = .list positional items ∧ items.mapM part? = some parts := by
  cases isRead with
  | @scalar _ atom taken =>
      have none : list? part? (Node.scalar atom) = Option.none := by
        show (if atom.isEmpty then some [] else Option.none) = Option.none
        rw [isEmpty_of_isTaken taken]
        rfl
      rw [none] at read
      cases read
  | list _ => exact ⟨_, _, rfl, read⟩
  | map _ _ => cases read

theorem isSound_of_members? {depth : Nat} {node : Node} (sound : node.IsSound (depth + 1))
    {members : List (String × Node)} (read : node.members? = some members) :
    ∀ member ∈ members, member.2.IsSound depth := by
  obtain ⟨entries, entriesRead, membersRead⟩ := Option.bind_eq_some_iff.mp read
  obtain rfl := exists_entries sound.isRead entriesRead
  intro member isMember
  obtain ⟨entry, isEntry, entryRead⟩ := exists_of_mem_mapM membersRead isMember
  obtain ⟨name, _, rfl⟩ := Option.map_eq_some_iff.mp entryRead
  exact sound.entry isEntry

theorem mem_of_member? {name : String} {members : List (String × Node)} {node : Node}
    (found : member? name members = some (some node)) : (name, node) ∈ members := by
  unfold member? at found
  split at found
  · cases found
  · next key value single =>
    cases found
    have inside : (key, node) ∈ members.filter fun member => member.1 = name := by
      rw [single]
      exact List.mem_singleton_self _
    obtain ⟨member, same⟩ := List.mem_filter.mp inside
    exact of_decide_eq_true same ▸ member
  · cases found

theorem mem_of_field? {Part : Type} {name : String} {place : Nat}
    {fields : List (FieldKey × Part)} {part : Part}
    (found : field? name place fields = some (some part)) : ∃ key, (key, part) ∈ fields := by
  unfold field? at found
  split at found
  · cases found
  · next key value single =>
    cases found
    have inside : (key, part) ∈ fields.filter fun field =>
        field.1 = .name name ∨ field.1 = .place place := by
      rw [single]
      exact List.mem_singleton_self _
    exact ⟨key, (List.mem_filter.mp inside).1⟩
  · cases found

theorem isSound_of_fields? {depth : Nat} {names : List String} {node : Node}
    (sound : node.IsSound (depth + 1)) {parts : List (Option Node)}
    (read : fields? names node = some parts) :
    ∀ part, some part ∈ parts → part.IsSound depth := by
  intro part member
  cases node with
  | scalar atom =>
      obtain ⟨entries, entriesRead, _⟩ := Option.bind_eq_some_iff.mp read
      exact nomatch exists_entries sound.isRead entriesRead
  | list positional items =>
      unfold fields? at read
      simp only [untagged] at read
      split at read
      · cases read
        rcases List.mem_append.mp member with inItems | inRest
        · obtain ⟨item, isItem, same⟩ := List.mem_map.mp inItems
          exact Option.some.inj same ▸ sound.item isItem
        · cases List.eq_of_mem_replicate inRest
      · cases read
  | map entries =>
      obtain ⟨fields, keysRead, partsRead⟩ := Option.bind_eq_some_iff.mp read
      obtain ⟨⟨name, place⟩, _, found⟩ := exists_of_mem_mapM partsRead member
      obtain ⟨key, isField⟩ := mem_of_field? found
      obtain ⟨entry, isEntry, entryRead⟩ := exists_of_mem_mapM keysRead isField
      obtain ⟨_, _, same⟩ := Option.map_eq_some_iff.mp entryRead
      cases same
      exact sound.entry isEntry
  | tagged _ _ =>
      cases sound.isRead

/-! ## The nodes of values -/

/-- The node of a value is settled. -/
theorem settle?_ofJson (json : Json) : (ofJson json).settle? = some (ofJson json) := by
  induction json using Json.induction with
  | scalar value =>
      rw [ofJson, settle?, Atom.settle?, value_ofScalar]
      rfl
  | array items inductionHypothesis =>
      have itemsSettle : (items.map ofJson).mapM settle? = some (items.map ofJson) := by
        rw [List.mapM_map]
        exact mapM_of_forall inductionHypothesis
      rw [ofJson, settle?, settleItems?_eq_mapM, ofItems_eq_map, itemsSettle]
      rfl
  | object members inductionHypothesis =>
      have membersSettle : settleEntries? (ofMembers members) = some (ofMembers members) := by
        induction members with
        | nil =>
            rfl
        | cons member members restHypothesis =>
            obtain ⟨key, value⟩ := member
            obtain ⟨first, others⟩ := List.forall_mem_cons.mp inductionHypothesis
            rw [ofMembers, settleEntries?, first, restHypothesis others]
            rfl
      rw [ofJson, settle?, membersSettle]
      rfl

theorem members?_ofJson (members : List (String × Json)) :
    (ofJson (.object members)).members? =
      some (members.map fun (key, value) => (key, ofJson value)) := by
  show (ofMembers members).mapM _ = _
  rw [ofMembers_eq_map, List.mapM_map]
  exact mapM_of_forall fun _ _ => rfl

section Collections

variable {Item Part : Type} {part? : Node → Option Part}

theorem list?_ofItems (items : List Json) :
    list? part? (ofJson (.array items)) = items.mapM fun item => part? (ofJson item) := by
  show (ofItems items).mapM part? = _
  rw [ofItems_eq_map, List.mapM_map]
  rfl

/-- The parts of an array, each written as its item. -/
theorem list?_ofJson_map (json : Item → Json) (part : Item → Part) {items : List Item}
    (each : ∀ item ∈ items, part? (ofJson (json item)) = some (part item)) :
    list? part? (ofJson (.array (items.map json))) = some (items.map part) := by
  rw [list?_ofItems, List.mapM_map]
  exact mapM_of_forall each

theorem mapping?_ofMembers (members : List (String × Json)) :
    (ofJson (.object members)).mapping? part? =
      (members.mapM fun member => (part? (ofJson member.2)).map fun part =>
        (member.1, part)).map OrderedMap.ofList := by
  rw [mapping?, members?_ofJson]
  simp only [Option.bind_eq_bind, Option.bind_some, List.mapM_map, Function.comp_def]
  rw [Option.map_eq_bind]
  rfl

theorem mapping?_ofJson_map (json : Item → Json) (part : Item → Part)
    {entries : List (String × Item)}
    (each : ∀ entry ∈ entries, part? (ofJson (json entry.2)) = some (part entry.2)) :
    (ofJson (.object (entries.map fun (key, item) => (key, json item)))).mapping? part? =
      some (OrderedMap.ofList (entries.map fun (key, item) => (key, part item))) := by
  have parts : (entries.map fun (key, item) => (key, json item)).mapM
      (fun member => (part? (ofJson member.2)).map fun part => (member.1, part)) =
        some (entries.map fun (key, item) => (key, part item)) := by
    rw [List.mapM_map]
    refine mapM_of_forall fun entry isEntry => ?_
    simp only [Function.comp_apply, each entry isEntry, Option.map_some]
  rw [mapping?_ofMembers, parts, Option.map_some]

theorem mapping?_ofJson (part : Json → Part) {members : List (String × Json)}
    (each : ∀ member ∈ members, part? (ofJson member.2) = some (part member.2)) :
    (ofJson (.object members)).mapping? part? =
      some (OrderedMap.ofList (members.map fun (key, value) => (key, part value))) := by
  have read := mapping?_ofJson_map id part each
  rwa [show members.map (fun (key, item) => (key, id item)) = members from List.map_id' members]
    at read

end Collections

end Node

end NoteBase
