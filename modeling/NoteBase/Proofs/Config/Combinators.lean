import Mathlib.Logic.Relation
import NoteBase.Proofs.Config.Filter

/-!
# Objects with the keys of combinators

An object that has one of the keys `and`, `or` and `not` is a combinator if there is a list of
filters under one of them; the first such key decides. An object with these keys but no such list is
read as values of its properties, and the keys of combinators are then names of properties. This
holds of an object at any depth of a filter, because what is read below a filter are the filters
below what is read.
-/

namespace NoteBase.FilterSpec

/-! ## Which combinator decides -/

/-- The keys of the combinators, in the order in which they are tried. -/
def combinatorKeys : List String :=
  combinators.map Prod.fst

/-- Under a key there is a list of filters. -/
def HoldsFilters (members : List (String × Json)) (key : String) (items : List Json) : Prop :=
  (key, .array items) ∈ members ∧ ∀ item ∈ items, IsFilter item

/-- A combinator decides what an object is read as: it has a list of filters, and no combinator that
is tried before it has one. -/
structure Decides (members : List (String × Json)) (key : String)
    (combine : List FilterSpec → FilterSpec) (items : List Json) : Prop where
  holds : HoldsFilters members key items
  first : ∃ before after, combinators = before ++ (key, combine) :: after ∧
    ∀ earlier ∈ before, ∀ others, ¬ HoldsFilters members earlier.1 others

/-- An object has the key of a combinator, but no list of filters under such a key. -/
structure LacksFilters (members : List (String × Json)) : Prop where
  named : ∃ key ∈ combinatorKeys, key ∈ Entries.keys members
  unheld : ∀ key ∈ combinatorKeys, ∀ items, ¬ HoldsFilters members key items

theorem Decides.isCombinator {members : List (String × Json)} {key : String}
    {combine : List FilterSpec → FilterSpec} {items : List Json}
    (decides : Decides members key combine items) : (key, combine) ∈ combinators := by
  obtain ⟨before, after, split, _⟩ := decides.first
  rw [split]
  exact List.mem_append_right before List.mem_cons_self

theorem isSome_mapM_iff {items : List Json} :
    (items.mapM ofJson?).isSome = true ↔ ∀ item ∈ items, IsFilter item := by
  rw [← isFilter_array_iff, ← isSome_ofJson?_iff, ofJson?_array, Option.isSome_map]

section Object

variable {members : List (String × Json)} (nodup : (Entries.keys members).Nodup)

include nodup

theorem branch?_find?_eq_some_iff {key : String} {filters : List FilterSpec} :
    (Entries.find? key members).bind branch? = some filters ↔
      ∃ items, HoldsFilters members key items ∧ items.mapM ofJson? = some filters := by
  rw [Option.bind_eq_some_iff]
  constructor
  · rintro ⟨value, found, branch⟩
    obtain ⟨items, rfl, _⟩ := branch?_eq_some_iff.mp branch
    have read : items.mapM ofJson? = some filters := branch
    have areFilters := isSome_mapM_iff.mp (Option.isSome_of_mem read)
    exact ⟨items, ⟨(Entries.find?_eq_some_iff nodup).mp found, areFilters⟩, read⟩
  · rintro ⟨items, ⟨member, _⟩, read⟩
    exact ⟨.array items, (Entries.find?_eq_some_iff nodup).mpr member, read⟩

theorem branch?_find?_eq_none_iff {key : String} :
    (Entries.find? key members).bind branch? = none ↔
      ∀ items, ¬ HoldsFilters members key items := by
  rw [Option.eq_none_iff_forall_ne_some]
  constructor
  · intro unread items holds
    obtain ⟨filters, read⟩ := Option.isSome_iff_exists.mp (isSome_mapM_iff.mpr holds.2)
    exact unread filters ((branch?_find?_eq_some_iff nodup).mpr ⟨items, holds, read⟩)
  · intro unheld filters read
    obtain ⟨items, holds, _⟩ := (branch?_find?_eq_some_iff nodup).mp read
    exact unheld items holds

theorem combined?_eq_some_iff {filter : FilterSpec} :
    combined? members = some filter ↔
      ∃ key combine items filters, Decides members key combine items ∧
        items.mapM ofJson? = some filters ∧ filter = combine filters := by
  rw [combined?, List.findSome?_eq_some_iff]
  constructor
  · rintro ⟨before, ⟨key, combine⟩, after, split, read, unread⟩
    obtain ⟨filters, branch, rfl⟩ := Option.map_eq_some_iff.mp read
    obtain ⟨items, holds, itemsRead⟩ := (branch?_find?_eq_some_iff nodup).mp branch
    refine ⟨key, combine, items, filters, ⟨holds, before, after, split, ?_⟩, itemsRead, rfl⟩
    intro earlier isEarlier
    exact (branch?_find?_eq_none_iff nodup).mp
      (Option.map_eq_none_iff.mp (unread earlier isEarlier))
  · rintro ⟨key, combine, items, filters, ⟨holds, before, after, split, unheld⟩, read, rfl⟩
    have branch := (branch?_find?_eq_some_iff nodup).mpr ⟨items, holds, read⟩
    refine ⟨before, (key, combine), after, split, Option.map_eq_some_iff.mpr ⟨_, branch, rfl⟩, ?_⟩
    intro earlier isEarlier
    exact Option.map_eq_none_iff.mpr
      ((branch?_find?_eq_none_iff nodup).mpr (unheld earlier isEarlier))

theorem combined?_eq_none_iff :
    combined? members = none ↔
      ∀ key ∈ combinatorKeys, ∀ items, ¬ HoldsFilters members key items := by
  rw [combined?, List.findSome?_eq_none_iff, combinatorKeys, List.forall_mem_map]
  refine forall₂_congr fun combinator _ => ?_
  rw [Option.map_eq_none_iff, branch?_find?_eq_none_iff nodup]

theorem keys_expectedOf : (expectedOf members).keys = Entries.keys members := by
  rw [OrderedMap.keys, entries_expectedOf nodup,
    Entries.keys_map members fun value => Value.ofJson value.sorted]

/-- The combinator that decides gives the filters in its list. -/
theorem ofJson?_of_decides {key : String} {combine : List FilterSpec → FilterSpec}
    {items : List Json} (decides : Decides members key combine items) :
    ∃ filters, items.mapM ofJson? = some filters ∧
      ofJson? (.object members) = some (combine filters) := by
  obtain ⟨filters, read⟩ := Option.isSome_iff_exists.mp (isSome_mapM_iff.mpr decides.holds.2)
  have combined := (combined?_eq_some_iff nodup).mpr
    ⟨key, combine, items, filters, decides, read, rfl⟩
  refine ⟨filters, read, ?_⟩
  rw [ofJson?_object nodup, combined, Option.getD_some]

theorem ofJson?_of_unheld
    (unheld : ∀ key ∈ combinatorKeys, ∀ items, ¬ HoldsFilters members key items) :
    ofJson? (.object members) = some (.equals (expectedOf members)) := by
  rw [ofJson?_object nodup, (combined?_eq_none_iff nodup).mpr unheld, Option.getD_none]

/-- Either a combinator decides, or there is no list of filters. -/
theorem exists_decides_or_unheld :
    (∃ key combine items, Decides members key combine items) ∨
      ∀ key ∈ combinatorKeys, ∀ items, ¬ HoldsFilters members key items := by
  cases combined : combined? members with
  | none =>
      exact .inr ((combined?_eq_none_iff nodup).mp combined)
  | some filter =>
      obtain ⟨key, combine, items, _, decides, _⟩ := (combined?_eq_some_iff nodup).mp combined
      exact .inl ⟨key, combine, items, decides⟩

end Object

/-! ## What stands below a filter -/

/-- The filters that a filter is made of. -/
def children : FilterSpec → List FilterSpec
  | .all filters => filters
  | .and filters => filters
  | .or filters => filters
  | .not filters => filters
  | .expression _ => []
  | .equals _ => []

theorem children_combine {key : String} {combine : List FilterSpec → FilterSpec}
    (isCombinator : (key, combine) ∈ combinators) (filters : List FilterSpec) :
    (combine filters).children = filters ∧ ∀ expected, combine filters ≠ .equals expected := by
  rcases combinator_cases isCombinator with ⟨_, rfl⟩ | ⟨_, rfl⟩ | ⟨_, rfl⟩ <;> exact ⟨rfl, nofun⟩

/-- A filter that stands somewhere in a filter, or is that filter. -/
def IsWithin : FilterSpec → FilterSpec → Prop :=
  Relation.ReflTransGen fun child filter => child ∈ filter.children

/-- A value that is read as one of the filters that another value is made of: an item of a list, or
of the list under the combinator that decides. -/
inductive IsBelow : Json → Json → Prop
  | item {items : List Json} {item : Json} : item ∈ items → IsBelow item (.array items)
  | branch {members : List (String × Json)} {key : String}
      {combine : List FilterSpec → FilterSpec} {items : List Json} {item : Json} :
      Decides members key combine items → item ∈ items → IsBelow item (.object members)

/-- A value that stands where a filter is expected, at any depth. -/
def IsPart : Json → Json → Prop :=
  Relation.ReflTransGen IsBelow

theorem IsBelow.distinctKeys {part whole : Json} (below : IsBelow part whole)
    (distinct : whole.DistinctKeys) : part.DistinctKeys := by
  cases below with
  | item member =>
      exact Json.distinctKeys_array_iff.mp distinct part member
  | branch decides member =>
      have inside := (Json.distinctKeys_object_iff.mp distinct).2 _ decides.holds.1
      exact Json.distinctKeys_array_iff.mp inside part member

theorem IsPart.distinctKeys {part whole : Json} (isPart : IsPart part whole)
    (distinct : whole.DistinctKeys) : part.DistinctKeys := by
  induction isPart with
  | refl => exact distinct
  | tail _ below inductionHypothesis => exact inductionHypothesis (below.distinctKeys distinct)

/-- No object that stands where a filter is expected has a key twice. -/
def HasDistinctParts (json : Json) : Prop :=
  ∀ members, IsPart (.object members) json → (Entries.keys members).Nodup

theorem HasDistinctParts.nodup {members : List (String × Json)}
    (distinct : HasDistinctParts (.object members)) : (Entries.keys members).Nodup :=
  distinct members .refl

theorem HasDistinctParts.of_distinctKeys {json : Json} (distinct : json.DistinctKeys) :
    HasDistinctParts json :=
  fun _ isPart => (Json.distinctKeys_object_iff.mp (isPart.distinctKeys distinct)).1

theorem HasDistinctParts.part {part whole : Json} (distinct : HasDistinctParts whole)
    (isPart : IsPart part whole) : HasDistinctParts part :=
  fun members inner => distinct members (inner.trans isPart)

section Reading

variable {part whole : Json} {filter : FilterSpec}

/-- What stands right below a value is read as one of the filters below it. -/
theorem IsBelow.exists_child (below : IsBelow part whole) (distinct : HasDistinctParts whole)
    (read : ofJson? whole = some filter) :
    ∃ child ∈ filter.children, ofJson? part = some child := by
  cases below with
  | item member =>
      rw [ofJson?_array] at read
      obtain ⟨filters, itemsRead, rfl⟩ := Option.map_eq_some_iff.mp read
      exact exists_part_of_mem itemsRead member
  | branch decides member =>
      obtain ⟨filters, itemsRead, combined⟩ := ofJson?_of_decides distinct.nodup decides
      obtain rfl := Option.some.inj (combined.symm.trans read)
      rw [(children_combine decides.isCombinator filters).1]
      exact exists_part_of_mem itemsRead member

/-- A filter right below what is read is what a value right below is read as. -/
theorem exists_isBelow_of_mem_children (distinct : HasDistinctParts whole)
    (read : ofJson? whole = some filter) {child : FilterSpec} (member : child ∈ filter.children) :
    ∃ part, IsBelow part whole ∧ ofJson? part = some child := by
  cases whole with
  | scalar value =>
      obtain ⟨text, _, rfl⟩ := Option.map_eq_some_iff.mp read
      cases member
  | array items =>
      rw [ofJson?_array] at read
      obtain ⟨filters, itemsRead, rfl⟩ := Option.map_eq_some_iff.mp read
      obtain ⟨item, isItem, itemRead⟩ := exists_of_mem_mapM itemsRead member
      exact ⟨item, .item isItem, itemRead⟩
  | object members =>
      have nodup := distinct.nodup
      rcases exists_decides_or_unheld nodup with ⟨key, combine, items, decides⟩ | unheld
      · obtain ⟨filters, itemsRead, combined⟩ := ofJson?_of_decides nodup decides
        obtain rfl := Option.some.inj (combined.symm.trans read)
        rw [(children_combine decides.isCombinator filters).1] at member
        obtain ⟨item, isItem, itemRead⟩ := exists_of_mem_mapM itemsRead member
        exact ⟨item, .branch decides isItem, itemRead⟩
      · obtain rfl := Option.some.inj ((ofJson?_of_unheld nodup unheld).symm.trans read)
        cases member

theorem IsPart.exists_isWithin (isPart : IsPart part whole) (distinct : HasDistinctParts whole)
    (read : ofJson? whole = some filter) :
    ∃ inner, IsWithin inner filter ∧ ofJson? part = some inner := by
  induction isPart generalizing filter with
  | refl =>
      exact ⟨filter, .refl, read⟩
  | tail _ below inductionHypothesis =>
      obtain ⟨child, isChild, childRead⟩ := below.exists_child distinct read
      obtain ⟨inner, within, innerRead⟩ :=
        inductionHypothesis (distinct.part (.single below)) childRead
      exact ⟨inner, within.tail isChild, innerRead⟩

theorem IsWithin.exists_isPart {inner : FilterSpec} (within : IsWithin inner filter)
    (distinct : HasDistinctParts whole) (read : ofJson? whole = some filter) :
    ∃ part, IsPart part whole ∧ ofJson? part = some inner := by
  induction within generalizing whole with
  | refl =>
      exact ⟨whole, .refl, read⟩
  | tail _ isChild inductionHypothesis =>
      obtain ⟨middle, below, middleRead⟩ := exists_isBelow_of_mem_children distinct read isChild
      obtain ⟨part, isPart, partRead⟩ :=
        inductionHypothesis (distinct.part (.single below)) middleRead
      exact ⟨part, isPart.tail below, partRead⟩

/-- A filter that expects values of properties is what an object without a list of filters is read
as. -/
theorem exists_unheld_of_equals (distinct : HasDistinctParts whole) {expected : OrderedMap Value}
    (read : ofJson? whole = some (.equals expected)) :
    ∃ members, whole = .object members ∧ (Entries.keys members).Nodup ∧
      expected = expectedOf members ∧
      ∀ key ∈ combinatorKeys, ∀ items, ¬ HoldsFilters members key items := by
  cases whole with
  | scalar value =>
      obtain ⟨_, _, absurd⟩ := Option.map_eq_some_iff.mp read
      cases absurd
  | array items =>
      rw [ofJson?_array] at read
      obtain ⟨_, _, absurd⟩ := Option.map_eq_some_iff.mp read
      cases absurd
  | object members =>
      have nodup := distinct.nodup
      rcases exists_decides_or_unheld nodup with ⟨key, combine, items, decides⟩ | unheld
      · obtain ⟨filters, _, combined⟩ := ofJson?_of_decides nodup decides
        have same := Option.some.inj (combined.symm.trans read)
        exact absurd same ((children_combine decides.isCombinator filters).2 expected)
      · have same := (ofJson?_of_unheld nodup unheld).symm.trans read
        exact ⟨members, rfl, nodup, (FilterSpec.equals.inj (Option.some.inj same)).symm, unheld⟩

end Reading

/-! ## Keys of combinators as names of properties -/

/-- At some depth a value of a property is expected whose name is the key of a combinator. -/
def ExpectsCombinatorKey (filter : FilterSpec) : Prop :=
  ∃ expected, IsWithin (.equals expected) filter ∧ ∃ key ∈ combinatorKeys, key ∈ expected.keys

theorem expectsCombinatorKey_iff {json : Json} {filter : FilterSpec}
    (distinct : HasDistinctParts json) (read : ofJson? json = some filter) :
    filter.ExpectsCombinatorKey ↔
      ∃ members, IsPart (.object members) json ∧ LacksFilters members := by
  constructor
  · rintro ⟨expected, within, key, isKey, named⟩
    obtain ⟨part, isPart, partRead⟩ := within.exists_isPart distinct read
    obtain ⟨members, rfl, nodup, rfl, unheld⟩ :=
      exists_unheld_of_equals (distinct.part isPart) partRead
    rw [keys_expectedOf nodup] at named
    exact ⟨members, isPart, ⟨key, isKey, named⟩, unheld⟩
  · rintro ⟨members, isPart, ⟨key, isKey, named⟩, unheld⟩
    have nodup := distinct members isPart
    obtain ⟨inner, within, innerRead⟩ := isPart.exists_isWithin distinct read
    obtain rfl := Option.some.inj ((ofJson?_of_unheld nodup unheld).symm.trans innerRead)
    rw [← keys_expectedOf nodup] at named
    exact ⟨expectedOf members, within, key, isKey, named⟩

/-- An object with the key of a combinator is read as the first combinator that has a list of
filters. If none has, it is read as values of properties, with that key among their names. A filter
expects the value of a property with such a name, at any depth, exactly if such an object stands in
what it is read from. -/
theorem ofNode?_combinatorKey (json : Json) :
    (∀ members, json = .object members → (Entries.keys members).Nodup →
      (∃ key ∈ combinatorKeys, key ∈ Entries.keys members) →
        (∃ key combine items filters, Decides members key combine items ∧
          items.mapM (fun item => ofNode? (Node.ofJson item)) = some filters ∧
          ofNode? (Node.ofJson json) = some (combine filters)) ∨
        (LacksFilters members ∧
          ofNode? (Node.ofJson json) = some (.equals (expectedOf members)) ∧
          ∃ key ∈ combinatorKeys, key ∈ (expectedOf members).keys)) ∧
    ∀ filter, HasDistinctParts json → ofNode? (Node.ofJson json) = some filter →
      (filter.ExpectsCombinatorKey ↔
        ∃ members, IsPart (.object members) json ∧ LacksFilters members) := by
  simp only [ofNode?_ofJson]
  refine ⟨?_, fun filter => expectsCombinatorKey_iff⟩
  rintro members rfl nodup named
  rcases exists_decides_or_unheld nodup with ⟨key, combine, items, decides⟩ | unheld
  · obtain ⟨filters, itemsRead, read⟩ := ofJson?_of_decides nodup decides
    exact .inl ⟨key, combine, items, filters, decides, itemsRead, read⟩
  · refine .inr ⟨⟨named, unheld⟩, ofJson?_of_unheld nodup unheld, ?_⟩
    rwa [keys_expectedOf nodup]

/-- `{"or": [{"and": "artist"}]}` -/
def nestedMembers : List (String × Json) :=
  [("or", .array [.object [("and", .text "artist")]])]

/-- The outer object is a combinator. The inner one has a text under the key of one, so a property
with that name is compared. -/
theorem ofNode?_combinatorKey_nested :
    (∃ key combine items filters, Decides nestedMembers key combine items ∧
      items.mapM (fun item => ofNode? (Node.ofJson item)) = some filters ∧
      ofNode? (Node.ofJson (.object nestedMembers)) = some (combine filters)) ∧
    ofNode? (Node.ofJson (.object nestedMembers)) =
      some (.or [.equals (OrderedMap.ofList [("and", .text "artist")])]) ∧
    ∃ members, IsPart (.object members) (.object nestedMembers) ∧ LacksFilters members := by
  have distinct : HasDistinctParts (.object nestedMembers) :=
    .of_distinctKeys (by simp [nestedMembers, Entries.keys, Json.text])
  have read : ofNode? (Node.ofJson (.object nestedMembers)) =
      some (.or [.equals (OrderedMap.ofList [("and", .text "artist")])]) := rfl
  have named : ∃ key ∈ combinatorKeys, key ∈ Entries.keys nestedMembers :=
    ⟨"or", by decide, by decide⟩
  have holds : HoldsFilters nestedMembers "or" [.object [("and", .text "artist")]] := by
    refine ⟨List.mem_cons_self, fun item member => ?_⟩
    obtain rfl := List.mem_singleton.mp member
    exact .object
  obtain ⟨object, tree⟩ := ofNode?_combinatorKey (.object nestedMembers)
  have combined := (object nestedMembers rfl distinct.nodup named).resolve_right fun lacks =>
    lacks.1.unheld "or" (by decide) _ holds
  refine ⟨combined, read, (tree _ distinct read).mp ?_⟩
  exact ⟨_, .single List.mem_cons_self, "and", by decide, by decide⟩

/-- `{"and": ["rating > 3", true]}` -/
def almostAnd : Json :=
  .object [("and", .array [.text "rating > 3", .bool true])]

/-- A truth value is no filter, so the list under `and` is taken for the value of a property. -/
theorem almostAnd_readAsProperty :
    Node.ofJsonText? "\x7b\"and\":[\"rating > 3\",true]\x7d" = some (Node.ofJson almostAnd) ∧
      almostAnd.DistinctKeys ∧ "and" ∈ combinatorKeys ∧
      ofNode? (Node.ofJson almostAnd) =
        some (.equals (OrderedMap.ofList [("and", .list [.text "rating > 3", .bool true])])) := by
  have written : almostAnd.Every Json.IsWritten := by
    simp [almostAnd, Json.bool, Json.text, Json.IsWritten]
  have nested : almostAnd.Nested 127 := by
    simp [almostAnd, Json.bool, Json.text]
  have text : almostAnd.compact = "\x7b\"and\":[\"rating > 3\",true]\x7d" := by decide +kernel
  have node := Json.nodeOfText?_compact nested written
  rw [text] at node
  refine ⟨node, ?_, by decide, rfl⟩
  simp [almostAnd, Entries.keys, Json.text, Json.bool]

end NoteBase.FilterSpec
