import NoteBase.Proofs.Json.RoundTrip
import NoteBase.Proofs.OrderedMap
import NoteBase.Proofs.Traversal

/-!
# Objects with sorted keys

A JSON value that is made from a node has the keys of its objects sorted. A value with sorted keys
stays as it is, and if no keys are repeated, sorting only changes the order of the members.
-/

namespace NoteBase

namespace Json

/-- Induction on a value, with the hypothesis for every item and for the value of every member. -/
@[elab_as_elim]
theorem induction {motive : Json → Prop} (scalar : ∀ value, motive (.scalar value))
    (array : ∀ items : List Json, (∀ item ∈ items, motive item) → motive (.array items))
    (object : ∀ members : List (String × Json),
      (∀ member ∈ members, motive member.2) → motive (.object members)) :
    ∀ json, motive json
  | .scalar value => scalar value
  | .array items => array items fun item _ => induction scalar array object item
  | .object members => object members fun member _ => induction scalar array object member.2
termination_by json => sizeOf json
decreasing_by
  · next member =>
    have smaller := List.sizeOf_lt_of_mem member
    simp only [Json.array.sizeOf_spec]
    omega
  · next isMember =>
    have smaller := List.sizeOf_lt_of_mem isMember
    have part : sizeOf member = 1 + sizeOf member.1 + sizeOf member.2 := rfl
    simp only [Json.object.sizeOf_spec]
    omega

/-! ## Bounds on the nesting -/

theorem Nested.mono {depth more : Nat} {json : Json} (nested : json.Nested depth)
    (le : depth ≤ more) : json.Nested more := by
  induction nested generalizing more with
  | scalar =>
      exact .scalar
  | array inside inductionHypothesis =>
      obtain ⟨more, rfl⟩ := Nat.exists_eq_add_one.mpr (Nat.zero_lt_of_lt le)
      exact .array fun item member => inductionHypothesis item member (Nat.le_of_succ_le_succ le)
  | object inside inductionHypothesis =>
      obtain ⟨more, rfl⟩ := Nat.exists_eq_add_one.mpr (Nat.zero_lt_of_lt le)
      exact .object fun member isMember =>
        inductionHypothesis member isMember (Nat.le_of_succ_le_succ le)

/-- Values each of which has a bound on its nesting have one together. -/
theorem exists_nested_all {jsons : List Json} (each : ∀ json ∈ jsons, ∃ depth, json.Nested depth) :
    ∃ depth, ∀ json ∈ jsons, json.Nested depth := by
  induction jsons with
  | nil =>
      exact ⟨0, nofun⟩
  | cons json jsons inductionHypothesis =>
      obtain ⟨first, others⟩ := List.forall_mem_cons.mp each
      obtain ⟨depth, nested⟩ := first
      obtain ⟨otherDepth, othersNested⟩ := inductionHypothesis others
      exact ⟨max depth otherDepth, List.forall_mem_cons.mpr
        ⟨nested.mono (Nat.le_max_left _ _),
          fun other member => (othersNested other member).mono (Nat.le_max_right _ _)⟩⟩

theorem exists_nested (json : Json) : ∃ depth, json.Nested depth := by
  induction json using Json.induction with
  | scalar value =>
      exact ⟨0, .scalar⟩
  | array items inductionHypothesis =>
      obtain ⟨depth, inside⟩ := exists_nested_all inductionHypothesis
      exact ⟨depth + 1, .array inside⟩
  | object members inductionHypothesis =>
      obtain ⟨depth, inside⟩ := @exists_nested_all (members.map Prod.snd)
        (List.forall_mem_map.mpr inductionHypothesis)
      exact ⟨depth + 1, .object (List.forall_mem_map.mp inside)⟩

/-! ## Sorting the keys -/

mutual

/-- A value with the keys of its objects sorted; of several members with one key the last is
taken. -/
def sorted : Json → Json
  | .scalar value => .scalar (Node.jsonScalar value)
  | .array items => .array (sortedItems items)
  | .object members => .object (sortedOnto [] members)

def sortedItems : List Json → List Json
  | [] => []
  | item :: rest => sorted item :: sortedItems rest

/-- Sets members one after another in those that are there before. -/
def sortedOnto (before : List (String × Json)) : List (String × Json) → List (String × Json)
  | [] => before
  | (key, value) :: rest => sortedOnto (Node.setMember key (sorted value) before) rest

end

theorem sortedItems_eq_map (items : List Json) : sortedItems items = items.map sorted := by
  induction items with
  | nil =>
      rfl
  | cons item items inductionHypothesis =>
      rw [sortedItems, inductionHypothesis, List.map_cons]

@[simp]
theorem sorted_array (items : List Json) : sorted (.array items) = .array (items.map sorted) := by
  rw [sorted, sortedItems_eq_map]

end Json

namespace Node

theorem ofItems_eq_map (items : List Json) : ofItems items = items.map ofJson := by
  induction items with
  | nil =>
      rfl
  | cons item items inductionHypothesis =>
      rw [ofItems, inductionHypothesis, List.map_cons]

theorem ofMembers_eq_map (members : List (String × Json)) :
    ofMembers members =
      members.map fun (key, value) => (.scalar (.ofText key), ofJson value) := by
  induction members with
  | nil =>
      rfl
  | cons member members inductionHypothesis =>
      obtain ⟨key, value⟩ := member
      rw [ofMembers, inductionHypothesis, List.map_cons]

theorem toItems?_eq_mapM (items : List Node) : toItems? items = items.mapM toJson? := by
  induction items with
  | nil =>
      rfl
  | cons item items inductionHypothesis =>
      rw [toItems?, inductionHypothesis, List.mapM_cons]
      rfl

theorem value_ofScalar (scalar : Scalar) : (Atom.ofScalar scalar).value = some scalar := by
  cases scalar <;> rfl

/-- A value in a node becomes the same value with sorted keys. -/
theorem toJson?_ofJson (json : Json) : toJson? (ofJson json) = some json.sorted := by
  induction json using Json.induction with
  | scalar value =>
      rw [ofJson, toJson?, value_ofScalar]
      rfl
  | array items inductionHypothesis =>
      have itemsRead : (items.map ofJson).mapM toJson? = some (items.map Json.sorted) := by
        rw [List.mapM_map]
        exact mapM_of_forall inductionHypothesis
      rw [ofJson, toJson?, toItems?_eq_mapM, ofItems_eq_map, itemsRead, Json.sorted_array]
      rfl
  | object members inductionHypothesis =>
      have onto : ∀ before, toMembers? (ofMembers members) before =
          some (Json.sortedOnto before members) := by
        induction members with
        | nil =>
            exact fun before => rfl
        | cons member members restHypothesis =>
            obtain ⟨key, value⟩ := member
            obtain ⟨first, others⟩ := List.forall_mem_cons.mp inductionHypothesis
            intro before
            rw [ofMembers, toMembers?, first]
            exact restHypothesis others _
      rw [ofJson, toJson?, onto, Json.sorted]
      rfl

end Node

namespace Json

/-! ## Sorted members -/

/-- The keys are strictly rising. -/
def RisingKeys (members : List (String × Json)) : Prop :=
  members.Pairwise fun left right => left.1 < right.1

theorem RisingKeys.le {members : List (String × Json)} (rising : RisingKeys members) :
    members.Pairwise fun left right => left.1 ≤ right.1 :=
  rising.imp fun below => String.not_lt.mp (String.lt_asymm below)

theorem mem_setMember {key : String} {value : Json} {member : String × Json}
    {members : List (String × Json)} (inside : member ∈ Node.setMember key value members) :
    member = (key, value) ∨ member ∈ members := by
  induction members with
  | nil =>
      exact .inl (List.mem_singleton.mp inside)
  | cons head rest inductionHypothesis =>
      obtain ⟨name, other⟩ := head
      rw [Node.setMember] at inside
      split at inside
      · exact (List.mem_cons.mp inside).imp_right (List.mem_cons_of_mem _)
      split at inside
      · exact List.mem_cons.mp inside
      · rcases List.mem_cons.mp inside with rfl | inRest
        · exact .inr List.mem_cons_self
        · exact (inductionHypothesis inRest).imp_right (List.mem_cons_of_mem _)

theorem risingKeys_setMember {key : String} {value : Json} {members : List (String × Json)}
    (rising : RisingKeys members) : RisingKeys (Node.setMember key value members) := by
  induction members with
  | nil =>
      exact List.pairwise_singleton _ _
  | cons head rest inductionHypothesis =>
      obtain ⟨name, other⟩ := head
      obtain ⟨above, restRising⟩ := List.pairwise_cons.mp rising
      rw [Node.setMember]
      split
      · next same =>
        subst same
        exact List.pairwise_cons.mpr ⟨above, restRising⟩
      split
      · next before =>
        refine List.pairwise_cons.mpr ⟨?_, rising⟩
        intro member inside
        rcases List.mem_cons.mp inside with rfl | inRest
        · exact before
        · exact String.lt_trans before (above member inRest)
      · next different notBefore =>
        have behind : name < key := by
          refine Classical.byContradiction fun notBehind => different ?_
          exact String.le_antisymm (String.not_lt.mp notBefore) (String.not_lt.mp notBehind)
        refine List.pairwise_cons.mpr ⟨?_, inductionHypothesis restRising⟩
        intro member inside
        rcases mem_setMember inside with rfl | inRest
        · exact behind
        · exact above member inRest

theorem setMember_append {key : String} {value : Json} {members : List (String × Json)}
    (last : ∀ member ∈ members, member.1 < key) :
    Node.setMember key value members = members ++ [(key, value)] := by
  induction members with
  | nil =>
      rfl
  | cons head rest inductionHypothesis =>
      obtain ⟨name, other⟩ := head
      obtain ⟨headBefore, restBefore⟩ := List.forall_mem_cons.mp last
      have different : name ≠ key := fun same => String.lt_irrefl key (same ▸ headBefore)
      rw [Node.setMember, if_neg different, if_neg (String.lt_asymm headBefore),
        inductionHypothesis restBefore, List.cons_append]

theorem setMember_perm {key : String} {value : Json} {members : List (String × Json)}
    (new : key ∉ Entries.keys members) :
    (Node.setMember key value members).Perm ((key, value) :: members) := by
  induction members with
  | nil =>
      exact .refl _
  | cons head rest inductionHypothesis =>
      obtain ⟨name, other⟩ := head
      obtain ⟨different, restNew⟩ := not_or.mp (mt Entries.mem_keys_cons.mpr new)
      rw [Node.setMember, if_neg fun same => different same.symm]
      split
      · exact .refl _
      · exact ((inductionHypothesis restNew).cons _).trans (.swap _ _ _)

theorem risingKeys_sortedOnto {before : List (String × Json)} (members : List (String × Json))
    (rising : RisingKeys before) : RisingKeys (sortedOnto before members) := by
  induction members generalizing before with
  | nil =>
      exact rising
  | cons member members inductionHypothesis =>
      obtain ⟨key, value⟩ := member
      exact inductionHypothesis (risingKeys_setMember rising)

theorem mem_sortedOnto {before members : List (String × Json)} {member : String × Json}
    (inside : member ∈ sortedOnto before members) :
    member ∈ before ∨ ∃ source ∈ members, member = (source.1, source.2.sorted) := by
  induction members generalizing before with
  | nil =>
      exact .inl inside
  | cons head rest inductionHypothesis =>
      obtain ⟨key, value⟩ := head
      rcases inductionHypothesis inside with inSet | ⟨source, inRest, same⟩
      · rcases mem_setMember inSet with same | inBefore
        · exact .inr ⟨(key, value), List.mem_cons_self, same⟩
        · exact .inl inBefore
      · exact .inr ⟨source, List.mem_cons_of_mem _ inRest, same⟩

/-! ## Values with sorted keys -/

/-- The objects in a value have rising keys, and its doubles are finite. -/
inductive IsSorted : Json → Prop
  | scalar {value : Scalar} (finite : Node.jsonScalar value = value) : IsSorted (.scalar value)
  | array {items : List Json} (inside : ∀ item ∈ items, IsSorted item) : IsSorted (.array items)
  | object {members : List (String × Json)} (rising : RisingKeys members)
      (inside : ∀ member ∈ members, IsSorted member.2) : IsSorted (.object members)

theorem jsonScalar_jsonScalar (scalar : Scalar) :
    Node.jsonScalar (Node.jsonScalar scalar) = Node.jsonScalar scalar := by
  cases scalar with
  | float value =>
      by_cases finite : Number.isFinite value = true
      · simp only [Node.jsonScalar, finite, if_true]
      · simp only [Node.jsonScalar, finite, if_false, Bool.false_eq_true]
  | null => rfl
  | bool _ => rfl
  | integer _ => rfl
  | text _ => rfl

theorem jsonScalar_of_isHeld {scalar : Scalar} (held : IsHeld scalar) :
    Node.jsonScalar scalar = scalar := by
  cases scalar with
  | float value =>
      have finite : Number.isFinite value = true := held
      rw [Node.jsonScalar, if_pos finite]
  | null => rfl
  | bool _ => rfl
  | integer _ => rfl
  | text _ => rfl

theorem isSorted_sorted (json : Json) : json.sorted.IsSorted := by
  induction json using Json.induction with
  | scalar value =>
      exact .scalar (jsonScalar_jsonScalar value)
  | array items inductionHypothesis =>
      rw [sorted_array]
      refine .array fun item inside => ?_
      obtain ⟨source, member, rfl⟩ := List.mem_map.mp inside
      exact inductionHypothesis source member
  | object members inductionHypothesis =>
      rw [sorted]
      refine .object (risingKeys_sortedOnto members List.Pairwise.nil) fun member inside => ?_
      obtain ⟨source, isMember, rfl⟩ := (mem_sortedOnto inside).resolve_left List.not_mem_nil
      exact inductionHypothesis source isMember

/-- A value with sorted keys stays as it is. -/
theorem IsSorted.sorted_eq {json : Json} (isSorted : json.IsSorted) : json.sorted = json := by
  induction isSorted with
  | scalar finite =>
      rw [sorted, finite]
  | array inside inductionHypothesis =>
      rw [sorted_array, List.map_congr_left inductionHypothesis, List.map_id']
  | @object members rising inside inductionHypothesis =>
      have onto : ∀ (rest before : List (String × Json)),
          (∀ member ∈ rest, member.2.sorted = member.2) → RisingKeys (before ++ rest) →
            sortedOnto before rest = before ++ rest := by
        intro rest
        induction rest with
        | nil =>
            exact fun before _ _ => (List.append_nil before).symm
        | cons member rest restHypothesis =>
            obtain ⟨key, value⟩ := member
            intro before same keysRise
            obtain ⟨first, others⟩ := List.forall_mem_cons.mp same
            have last : ∀ member ∈ before, member.1 < key := fun member inBefore =>
              (List.pairwise_append.mp keysRise).2.2 member inBefore _ List.mem_cons_self
            have shifted : before ++ (key, value) :: rest = before ++ [(key, value)] ++ rest := by
              rw [List.append_assoc]
              rfl
            rw [sortedOnto, first, setMember_append last,
              restHypothesis _ others (shifted ▸ keysRise), shifted]
      rw [sorted, onto members [] inductionHypothesis rising, List.nil_append]

theorem sorted_sorted (json : Json) : json.sorted.sorted = json.sorted :=
  (isSorted_sorted json).sorted_eq

/-- Sorting keys does not nest anything deeper. -/
theorem Nested.sorted {depth : Nat} {json : Json} (nested : json.Nested depth) :
    json.sorted.Nested depth := by
  induction nested with
  | scalar =>
      exact .scalar
  | array inside inductionHypothesis =>
      rw [sorted_array]
      refine .array fun item member => ?_
      obtain ⟨source, inside, rfl⟩ := List.mem_map.mp member
      exact inductionHypothesis source inside
  | object inside inductionHypothesis =>
      rw [Json.sorted]
      refine .object fun member isMember => ?_
      obtain ⟨source, inside, rfl⟩ := (mem_sortedOnto isMember).resolve_left List.not_mem_nil
      exact inductionHypothesis source inside

theorem Every.sorted {holds : Scalar → Prop} {json : Json} (every : json.Every holds)
    (kept : ∀ scalar, holds scalar → holds (Node.jsonScalar scalar)) :
    json.sorted.Every holds := by
  induction every with
  | scalar here =>
      exact .scalar (kept _ here)
  | array inside inductionHypothesis =>
      rw [sorted_array]
      refine .array fun item member => ?_
      obtain ⟨source, inside, rfl⟩ := List.mem_map.mp member
      exact inductionHypothesis source inside
  | object inside inductionHypothesis =>
      rw [Json.sorted]
      refine .object fun member isMember => ?_
      obtain ⟨source, inside, rfl⟩ := (mem_sortedOnto isMember).resolve_left List.not_mem_nil
      exact inductionHypothesis source inside

theorem Every.isHeld_sorted {json : Json} (held : json.Every IsHeld) : json.sorted.Every IsHeld :=
  held.sorted fun scalar here => by rwa [jsonScalar_of_isHeld here]

/-! ## Values without repeated keys -/

/-- No object in a value has a key twice. -/
inductive DistinctKeys : Json → Prop
  | scalar {value : Scalar} : DistinctKeys (.scalar value)
  | array {items : List Json} (inside : ∀ item ∈ items, DistinctKeys item) :
      DistinctKeys (.array items)
  | object {members : List (String × Json)} (nodup : (Entries.keys members).Nodup)
      (inside : ∀ member ∈ members, DistinctKeys member.2) : DistinctKeys (.object members)

@[simp]
theorem distinctKeys_scalar {value : Scalar} : (scalar value).DistinctKeys :=
  .scalar

@[simp]
theorem distinctKeys_array_iff {items : List Json} :
    (array items).DistinctKeys ↔ ∀ item ∈ items, item.DistinctKeys := by
  constructor
  · intro distinct
    cases distinct with
    | array inside => exact inside
  · exact .array

@[simp]
theorem distinctKeys_object_iff {members : List (String × Json)} :
    (object members).DistinctKeys ↔
      (Entries.keys members).Nodup ∧ ∀ member ∈ members, member.2.DistinctKeys := by
  constructor
  · intro distinct
    cases distinct with
    | object nodup inside => exact ⟨nodup, inside⟩
  · rintro ⟨nodup, inside⟩
    exact .object nodup inside

theorem RisingKeys.nodup {members : List (String × Json)} (rising : RisingKeys members) :
    (Entries.keys members).Nodup := by
  refine List.pairwise_map.mpr (rising.imp ?_)
  intro left right below same
  exact String.lt_irrefl right.1 (same ▸ below)

theorem nodup_keys_sortedOnto (members : List (String × Json)) :
    (Entries.keys (sortedOnto [] members)).Nodup :=
  (risingKeys_sortedOnto members List.Pairwise.nil).nodup

theorem IsSorted.distinctKeys {json : Json} (isSorted : json.IsSorted) : json.DistinctKeys := by
  induction isSorted with
  | scalar => exact .scalar
  | array _ inductionHypothesis => exact .array inductionHypothesis
  | object rising _ inductionHypothesis => exact .object rising.nodup inductionHypothesis

theorem sortedOnto_perm {before members : List (String × Json)}
    (nodup : (Entries.keys (before ++ members)).Nodup) :
    (sortedOnto before members).Perm
      (before ++ members.map fun (key, value) => (key, value.sorted)) := by
  induction members generalizing before with
  | nil =>
      rw [sortedOnto, List.map_nil, List.append_nil]
  | cons member members inductionHypothesis =>
      obtain ⟨key, value⟩ := member
      have moved : (before ++ (key, value.sorted) :: members).Perm
          ((key, value.sorted) :: (before ++ members)) := List.perm_middle
      have sameKeys : Entries.keys (before ++ (key, value) :: members) =
          Entries.keys (before ++ (key, value.sorted) :: members) := by
        simp [Entries.keys]
      rw [sameKeys] at nodup
      have distinct := (moved.map Prod.fst).nodup_iff.mp nodup
      obtain ⟨new, restDistinct⟩ := List.nodup_cons.mp distinct
      have newBefore : key ∉ Entries.keys before := fun inside => new <| by
        rw [List.map_append]
        exact List.mem_append_left _ inside
      have set := @setMember_perm key value.sorted before newBefore
      have setDistinct :
          (Entries.keys (Node.setMember key value.sorted before ++ members)).Nodup :=
        ((set.append_right members).map Prod.fst).nodup_iff.mpr distinct
      refine (inductionHypothesis setDistinct).trans ((set.append_right _).trans ?_)
      exact List.perm_middle.symm

/-- Without repeated keys, sorting them only changes the order of the members. -/
theorem sorted_object_perm {members : List (String × Json)}
    (nodup : (Entries.keys members).Nodup) :
    (sortedOnto [] members).Perm (members.map fun (key, value) => (key, value.sorted)) :=
  sortedOnto_perm nodup

theorem find?_sortedOnto {members : List (String × Json)} {key : String}
    (nodup : (Entries.keys members).Nodup) :
    Entries.find? key (sortedOnto [] members) = (Entries.find? key members).map sorted := by
  rw [← Entries.find?_map, ← Entries.find?_perm (sorted_object_perm nodup).symm]
  rwa [Entries.keys_map]

end Json

namespace Node

mutual

/-- What a node becomes has no key twice, also where the node has. -/
theorem distinctKeys_of_toJson? : ∀ {node : Node} {json : Json}, node.toJson? = some json →
    json.DistinctKeys
  | .scalar _, _, become => by
      rw [toJson?] at become
      obtain ⟨_, _, rfl⟩ := Option.map_eq_some_iff.mp become
      exact .scalar
  | .list _ _, _, become => by
      rw [toJson?] at become
      obtain ⟨_, read, rfl⟩ := Option.map_eq_some_iff.mp become
      exact .array (distinctKeys_of_toItems? read)
  | .map _, _, become => by
      rw [toJson?] at become
      obtain ⟨_, read, rfl⟩ := Option.map_eq_some_iff.mp become
      obtain ⟨rising, inside⟩ := distinctKeys_of_toMembers? read List.Pairwise.nil nofun
      exact .object rising.nodup inside
  | .tagged _ _, _, become => by
      rw [toJson?] at become
      cases become

theorem distinctKeys_of_toItems? : ∀ {items : List Node} {jsons : List Json},
    toItems? items = some jsons → ∀ json ∈ jsons, json.DistinctKeys
  | [], _, read => by
      cases read
      nofun
  | item :: rest, _, read => by
      rw [toItems?] at read
      obtain ⟨json, itemRead, read⟩ := Option.bind_eq_some_iff.mp read
      obtain ⟨jsons, restRead, same⟩ := Option.bind_eq_some_iff.mp read
      cases same
      exact List.forall_mem_cons.mpr
        ⟨distinctKeys_of_toJson? itemRead, distinctKeys_of_toItems? restRead⟩

theorem distinctKeys_of_toMembers? : ∀ {entries : List (Node × Node)}
    {before members : List (String × Json)}, toMembers? entries before = some members →
      Json.RisingKeys before → (∀ member ∈ before, member.2.DistinctKeys) →
        Json.RisingKeys members ∧ ∀ member ∈ members, member.2.DistinctKeys
  | [], _, _, read, rising, inside => by
      cases read
      exact ⟨rising, inside⟩
  | (key, value) :: rest, before, _, read, rising, inside => by
      rw [toMembers?] at read
      obtain ⟨name, _, read⟩ := Option.bind_eq_some_iff.mp read
      obtain ⟨json, valueRead, read⟩ := Option.bind_eq_some_iff.mp read
      refine distinctKeys_of_toMembers? read (Json.risingKeys_setMember rising) ?_
      intro member isMember
      rcases Json.mem_setMember isMember with rfl | inBefore
      · exact distinctKeys_of_toJson? valueRead
      · exact inside member inBefore

end

end Node

end NoteBase
