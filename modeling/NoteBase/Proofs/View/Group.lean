import NoteBase.Proofs.View.Sort
import NoteBase.View.Apply

/-!
# Grouping is a stable sort with headers

The groups are collected so that each key has the records of that key in order. Ordering the groups
by key orders the records by key as well, so what is shown without the headers is the stable sort of
the records.
-/

namespace NoteBase

open Calendar (Moment)

/-! ## Collecting -/

def groupMembers (property : String) (records : List Record) (key : String) : List Record :=
  records.filter fun record => groupKey property record == key

theorem mem_groupMembers {property : String} {records : List Record} {key : String}
    {record : Record} : record ∈ groupMembers property records key ↔
      record ∈ records ∧ groupKey property record = key := by
  rw [groupMembers, List.mem_filter, beq_iff_eq]

/-- Every key of a map has the records of its group, and every group has its key. -/
def Collected (property : String) (records : List Record) (groups : OrderedMap (List Record)) :
    Prop :=
  ∀ key block, groups.get? key = some block ↔
    block ≠ [] ∧ block = groupMembers property records key

theorem Collected.getD {property : String} {records : List Record}
    {groups : OrderedMap (List Record)} (collected : Collected property records groups)
    (key : String) : (groups.get? key).getD [] = groupMembers property records key := by
  cases found : groups.get? key with
  | some block =>
      exact ((collected key block).mp found).2
  | none =>
      by_cases empty : groupMembers property records key = []
      · exact empty.symm
      · have present := (collected key _).mpr ⟨empty, rfl⟩
        rw [found] at present
        cases present

theorem collected_addToGroup {property : String} {records : List Record}
    {groups : OrderedMap (List Record)} (collected : Collected property records groups)
    (record : Record) :
    Collected property (records ++ [record]) (addToGroup property groups record) := by
  intro key block
  rw [addToGroup, OrderedMap.get?_insert, collected.getD]
  by_cases same : key = groupKey property record
  · subst same
    have grown : groupMembers property (records ++ [record]) (groupKey property record) =
        groupMembers property records (groupKey property record) ++ [record] := by
      simp [groupMembers]
    rw [if_pos rfl, grown, Option.some.injEq]
    constructor
    · rintro rfl
      exact ⟨by simp, rfl⟩
    · exact fun blockEq => blockEq.2.symm
  · have kept : groupMembers property (records ++ [record]) key =
        groupMembers property records key := by
      have other : (groupKey property record == key) = false :=
        beq_false_of_ne fun equality => same equality.symm
      simp [groupMembers, other]
    rw [if_neg same, kept]
    exact collected key block

theorem collected_collectGroups (property : String) (records : List Record) :
    Collected property records (collectGroups property records) := by
  have collectedFrom : ∀ (rest before : List Record) (groups : OrderedMap (List Record)),
      Collected property before groups →
        Collected property (before ++ rest) (rest.foldl (addToGroup property) groups) := by
    intro rest
    induction rest with
    | nil =>
        intro before groups collected
        rw [List.append_nil]
        exact collected
    | cons record rest inductionHypothesis =>
        intro before groups collected
        have step := inductionHypothesis _ _ (collected_addToGroup collected record)
        rw [List.append_assoc] at step
        exact step
  refine collectedFrom records [] OrderedMap.empty ?_
  intro key block
  constructor
  · intro found
    cases found
  · rintro ⟨nonempty, rfl⟩
    exact absurd rfl nonempty

/-! ## Ordering the groups -/

section Keys

variable (group : GroupSpec)

instance GroupSpec.transCmp_compareKeys : Std.TransCmp group.compareKeys :=
  inferInstanceAs (Std.TransCmp fun left right => group.direction.apply (Text.collate left right))

instance GroupSpec.lawfulEqCmp_compareKeys : Std.LawfulEqCmp group.compareKeys where
  compare_self := Std.ReflCmp.compare_self
  eq_of_compare {left right} same := by
    have collated : Text.collate left right = .eq := by
      revert same
      unfold GroupSpec.compareKeys SortDirection.apply
      cases group.direction <;> cases Text.collate left right <;> decide
    exact Std.LawfulEqCmp.eq_of_compare collated

/-- Compares two records by the keys of their groups. -/
def GroupSpec.compareRecords (left right : Record) : Ordering :=
  group.compareKeys (groupKey group.property left) (groupKey group.property right)

instance GroupSpec.transCmp_compareRecords : Std.TransCmp group.compareRecords where
  eq_swap := group.transCmp_compareKeys.eq_swap
  isLE_trans := group.transCmp_compareKeys.isLE_trans

theorem tiesWith_compareRecords (record : Record) (records : List Record) :
    tiesWith group.compareRecords record records =
      groupMembers group.property records (groupKey group.property record) := by
  refine List.filter_congr fun other _ => ?_
  rw [Bool.eq_iff_iff, beq_iff_eq, beq_iff_eq, GroupSpec.compareRecords,
    Std.LawfulEqCmp.compare_eq_iff_eq, eq_comm]

/-- Blocks of rows are the groups of the rows: each block has exactly the rows with its key, in
order, and the keys increase strictly in the direction of the grouping. -/
structure IsGrouping (rows : List Record) (blocks : List (String × List Record)) : Prop where
  nonempty : ∀ block ∈ blocks, block.2 ≠ []
  members : ∀ block ∈ blocks, block.2 = groupMembers group.property rows block.1
  complete : ∀ row ∈ rows, groupKey group.property row ∈ Entries.keys blocks
  distinct : (Entries.keys blocks).Nodup
  increasing : (Entries.keys blocks).Pairwise fun left right =>
    group.direction.apply (Text.collate left right) = .lt

instance GroupSpec.transCmp_compareBlocks :
    Std.TransCmp fun left right : String × List Record => group.compareKeys left.1 right.1 where
  eq_swap := group.transCmp_compareKeys.eq_swap
  isLE_trans := group.transCmp_compareKeys.isLE_trans

/-- The groups are in order as soon as their keys increase. -/
theorem groupRecords_of_increasing {rows : List Record} {blocks : List (String × List Record)}
    (perm : blocks.Perm (collectGroups group.property rows).entries)
    (increasing : blocks.Pairwise fun left right => group.compareKeys left.1 right.1 = .lt) :
    groupRecords group rows = blocks :=
  ((eq_mergeSort_iff _ blocks).mpr (isStableSort_of_increasing perm increasing)).symm

theorem isGrouping_groupRecords (rows : List Record) :
    IsGrouping group rows (groupRecords group rows) := by
  have collected := collected_collectGroups group.property rows
  have sorted : IsStableSort (fun left right => group.compareKeys left.1 right.1)
      (collectGroups group.property rows).entries (groupRecords group rows) :=
    isStableSort_mergeSort _
  have distinct : (Entries.keys (groupRecords group rows)).Nodup :=
    (sorted.perm.map Prod.fst).nodup_iff.mpr (collectGroups group.property rows).nodup
  have found : ∀ block ∈ groupRecords group rows,
      block.2 ≠ [] ∧ block.2 = groupMembers group.property rows block.1 := by
    intro block member
    apply (collected block.1 block.2).mp
    exact (OrderedMap.get?_eq_some_iff _ _ _).mpr (sorted.perm.mem_iff.mp member)
  refine ⟨fun block member => (found block member).1, fun block member => (found block member).2,
    ?_, distinct, ?_⟩
  · intro row inRows
    have inGroup : row ∈ groupMembers group.property rows (groupKey group.property row) :=
      mem_groupMembers.mpr ⟨inRows, rfl⟩
    have present := (collected _ _).mpr ⟨List.ne_nil_of_mem inGroup, rfl⟩
    have entry := (OrderedMap.get?_eq_some_iff _ _ _).mp present
    exact List.mem_map_of_mem (sorted.perm.mem_iff.mpr entry)
  · have ordered : (Entries.keys (groupRecords group rows)).Pairwise fun left right =>
        (group.compareKeys left right).isLE :=
      List.pairwise_map.mpr sorted.ordered
    refine (ordered.and distinct).imp ?_
    intro left right both
    rcases Ordering.isLE_iff_eq_lt_or_eq_eq.mp both.1 with less | same
    · exact less
    · exact absurd (Std.LawfulEqCmp.eq_of_compare same) both.2

end Keys

/-! ## The records of the groups -/

theorem groupMembers_append (property : String) (left right : List Record) (key : String) :
    groupMembers property (left ++ right) key =
      groupMembers property left key ++ groupMembers property right key :=
  List.filter_append ..

theorem groupMembers_groupMembers (property : String) (records : List Record)
    (key name : String) :
    groupMembers property (groupMembers property records name) key =
      if key = name then groupMembers property records name else [] := by
  rw [groupMembers, groupMembers, List.filter_filter]
  split
  · next same =>
    subst same
    simp
  · next different =>
    refine List.filter_eq_nil_iff.mpr fun record _ both => different ?_
    rw [Bool.and_eq_true, beq_iff_eq, beq_iff_eq] at both
    exact both.1.symm.trans both.2

/-- One block has the rows of a key, and no other block has any. -/
theorem groupMembers_flatMap {property : String} {rows : List Record} (key : String) :
    ∀ {blocks : List (String × List Record)}, (Entries.keys blocks).Nodup →
      (∀ block ∈ blocks, block.2 = groupMembers property rows block.1) →
        groupMembers property (blocks.flatMap Prod.snd) key =
          if key ∈ Entries.keys blocks then groupMembers property rows key else []
  | [], _, _ => by
      simp [groupMembers, Entries.keys]
  | (name, block) :: rest, distinct, members => by
      obtain ⟨absent, restDistinct⟩ := List.nodup_cons.mp distinct
      have restMembers := groupMembers_flatMap key restDistinct fun other member =>
        members other (List.mem_cons_of_mem _ member)
      have blockMembers : block = groupMembers property rows name :=
        members (name, block) List.mem_cons_self
      rw [List.flatMap_cons, groupMembers_append, restMembers, blockMembers,
        groupMembers_groupMembers]
      by_cases same : key = name
      · subst same
        have notInRest : key ∉ Entries.keys rest := absent
        simp [notInRest, Entries.mem_keys_cons]
      · simp [same, Entries.mem_keys_cons]

theorem isStableSort_of_isGrouping {group : GroupSpec} {rows : List Record}
    {blocks : List (String × List Record)} (grouping : IsGrouping group rows blocks) :
    IsStableSort group.compareRecords rows (blocks.flatMap Prod.snd) := by
  have stable : ∀ record, tiesWith group.compareRecords record (blocks.flatMap Prod.snd) =
      tiesWith group.compareRecords record rows := by
    intro record
    rw [tiesWith_compareRecords, tiesWith_compareRecords,
      groupMembers_flatMap _ grouping.distinct grouping.members]
    split
    · rfl
    · next absent =>
      refine (List.filter_eq_nil_iff.mpr fun row inRows sameKey => absent ?_).symm
      rw [← beq_iff_eq.mp sameKey]
      exact grouping.complete row inRows
  have keyOf : ∀ block ∈ blocks, ∀ row ∈ block.2, groupKey group.property row = block.1 := by
    intro block member row inBlock
    rw [grouping.members block member] at inBlock
    exact (mem_groupMembers.mp inBlock).2
  refine ⟨perm_of_tiesWith stable, ?_, stable⟩
  rw [List.pairwise_flatMap]
  constructor
  · intro block member
    refine List.pairwise_of_forall_mem_list fun left inLeft right inRight => ?_
    have same : group.compareKeys block.1 block.1 = .eq := Std.ReflCmp.compare_self
    rw [GroupSpec.compareRecords, keyOf block member left inLeft, keyOf block member right inRight,
      same]
    rfl
  · have increasing := List.pairwise_map.mp grouping.increasing
    refine increasing.imp_of_mem ?_
    intro first second inFirst inSecond less left inLeft right inRight
    rw [GroupSpec.compareRecords, keyOf first inFirst left inLeft,
      keyOf second inSecond right inRight, GroupSpec.compareKeys, less]
    rfl

theorem filterMap_rowsOfGroups (property : String) (blocks : List (String × List Record)) :
    (rowsOfGroups property blocks).filterMap ViewRow.record? = blocks.flatMap Prod.snd := by
  induction blocks with
  | nil =>
      rfl
  | cons block rest inductionHypothesis =>
      have entries : ∀ records : List Record,
          (records.map ViewRow.entry).filterMap ViewRow.record? = records := by
        intro records
        rw [List.filterMap_map]
        exact List.filterMap_some
      rw [List.flatMap_cons, ← inductionHypothesis, rowsOfGroups, List.flatMap_cons,
        List.filterMap_append, List.filterMap_cons]
      simp only [ViewRow.record?, entries]
      rfl

/-! ## Views -/

theorem sortRecords_nil (records : List Record) : sortRecords [] records = records :=
  sortByKeys_nil SortRule.key records

/-- The records that a view selects are those that pass its filter, sorted by its rules. -/
theorem ViewSpec.select_eq (now : Moment) (view : ViewSpec) (records : List Record) :
    view.select now records =
      sortRecords view.sort (FilterSpec.filterRecords now view.filters records) := by
  unfold ViewSpec.select
  cases view.sort with
  | nil => exact (sortRecords_nil _).symm
  | cons rule rest => rfl

/-- The records that pass the filter are sorted by the rules, if there are any. Without a grouping a
view shows exactly these. With one it shows their groups, each behind a header, and the records are
these, sorted stably by group. -/
theorem apply_grouping (now : Moment) (view : ViewSpec) (records : List Record) :
    (view.groupBy = none → (view.apply now records).rows =
      (sortRecords view.sort (FilterSpec.filterRecords now view.filters records)).map .entry) ∧
    ∀ group, view.groupBy = some group →
      (∃ blocks,
        IsGrouping group
          (sortRecords view.sort (FilterSpec.filterRecords now view.filters records)) blocks ∧
        (view.apply now records).rows = blocks.flatMap fun block =>
          .header block.1 group.property :: block.2.map .entry) ∧
      ∀ sorted, sorted = (view.apply now records).records ↔
        IsStableSort group.compareRecords
          (sortRecords view.sort (FilterSpec.filterRecords now view.filters records)) sorted := by
  rw [← ViewSpec.select_eq]
  constructor
  · intro ungrouped
    simp only [ViewSpec.apply, ViewSpec.arrange, ungrouped]
  · intro group grouped
    have rowsEq : (view.apply now records).rows =
        rowsOfGroups group.property (groupRecords group (view.select now records)) := by
      simp only [ViewSpec.apply, ViewSpec.arrange, grouped]
    have grouping := isGrouping_groupRecords group (view.select now records)
    refine ⟨⟨_, grouping, rowsEq⟩, fun sorted => ?_⟩
    rw [ViewResult.records, rowsEq, filterMap_rowsOfGroups,
      (eq_mergeSort_iff _ _).mpr (isStableSort_of_isGrouping grouping)]
    exact eq_mergeSort_iff _ sorted

def shelfView (groupBy : Option GroupSpec) : ViewSpec where
  type := none
  name := none
  filters := none
  order := none
  properties := none
  sort := []
  groupBy := groupBy
  summaries := none
  indentProperties := none
  extra := .empty

def byShelf : GroupSpec := ⟨"shelf", .descending⟩

def shelved (shelf title : String) (rating : Nat) : Record :=
  .ofList [("shelf", .text shelf), ("title", .text title), ("rating", .number (.ofNat rating))]

/-- Records of two shelves; one of them is rated too low to pass. -/
def shelfRecords : List Record :=
  [shelved "B" "y" 4, shelved "B" "w" 1, shelved "C" "z" 4, shelved "B" "x" 5]

/-- The records with a high rating, by title. -/
def bestView (groupBy : Option GroupSpec) : ViewSpec :=
  { shelfView groupBy with
    filters := some (.expression "rating > 3"), sort := [⟨"title", .ascending⟩] }

/-- What the view shows: the last record first, and the second one not at all. -/
def bestRecords : List Record :=
  [shelved "B" "x" 5, shelved "B" "y" 4, shelved "C" "z" 4]

theorem apply_grouping_shelf :
    ((bestView none).apply Moment.epoch shelfRecords).rows = bestRecords.map .entry ∧
      (∃ blocks, IsGrouping byShelf bestRecords blocks ∧
        ((bestView (some byShelf)).apply Moment.epoch shelfRecords).rows =
          blocks.flatMap fun block => .header block.1 byShelf.property :: block.2.map .entry) ∧
      IsStableSort byShelf.compareRecords bestRecords
        ((bestView (some byShelf)).apply Moment.epoch shelfRecords).records := by
  have passing : FilterSpec.filterRecords Moment.epoch (some (.expression "rating > 3"))
      shelfRecords = [shelved "B" "y" 4, shelved "C" "z" 4, shelved "B" "x" 5] := rfl
  have increasing : bestRecords.Pairwise fun left right =>
      compareByKeys SortRule.key [⟨"title", .ascending⟩] left right = .lt := by decide +kernel
  have moved : bestRecords.Perm
      [shelved "B" "y" 4, shelved "C" "z" 4, shelved "B" "x" 5] :=
    (List.perm_append_singleton (shelved "B" "x" 5) _).symm
  have selected (groupBy : Option GroupSpec) : sortRecords (bestView groupBy).sort
      (FilterSpec.filterRecords Moment.epoch (bestView groupBy).filters shelfRecords) =
        bestRecords := by
    rw [bestView, passing]
    exact sortRecords_of_increasing moved increasing
  have ungrouped := (apply_grouping Moment.epoch (bestView none) shelfRecords).1 rfl
  have grouped := (apply_grouping Moment.epoch (bestView (some byShelf)) shelfRecords).2 byShelf rfl
  rw [selected] at ungrouped grouped
  exact ⟨ungrouped, grouped.1, (grouped.2 _).mp rfl⟩

end NoteBase
