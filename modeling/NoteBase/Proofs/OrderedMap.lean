import NoteBase.OrderedMap
import NoteBase.Proofs.Traversal

/-!
# Entries with different keys

Among entries with different keys each one is found by its key, in whatever order they stand, and
collecting them changes nothing.
-/

namespace NoteBase

universe u v

variable {Item : Type u} {Part : Type v}

namespace Entries

theorem keys_map (entries : List (String × Item)) (part : Item → Part) :
    keys (entries.map fun (name, item) => (name, part item)) = keys entries := by
  rw [keys, List.map_map]
  rfl

theorem keys_append (front back : List (String × Item)) :
    keys (front ++ back) = keys front ++ keys back :=
  List.map_append

theorem find?_append {key : String} {front back : List (String × Item)} :
    find? key (front ++ back) = (find? key front).or (find? key back) := by
  induction front with
  | nil =>
      rfl
  | cons head rest inductionHypothesis =>
      obtain ⟨name, item⟩ := head
      rw [List.cons_append, find?, find?, inductionHypothesis]
      split <;> rfl

theorem find?_map {key : String} {entries : List (String × Item)} (part : Item → Part) :
    find? key (entries.map fun (name, item) => (name, part item)) =
      (find? key entries).map part := by
  induction entries with
  | nil =>
      rfl
  | cons head rest inductionHypothesis =>
      obtain ⟨name, item⟩ := head
      rw [List.map_cons, find?, find?, inductionHypothesis]
      split <;> rfl

theorem mem_of_find? {key : String} {item : Item} {entries : List (String × Item)}
    (found : find? key entries = some item) : (key, item) ∈ entries := by
  induction entries with
  | nil =>
      cases found
  | cons head rest inductionHypothesis =>
      obtain ⟨name, other⟩ := head
      rw [find?] at found
      split at found
      · next same =>
        cases found
        exact same ▸ List.mem_cons_self
      · exact List.mem_cons_of_mem _ (inductionHypothesis found)

theorem find?_eq_none_iff {key : String} {entries : List (String × Item)} :
    find? key entries = none ↔ key ∉ keys entries := by
  rw [← isSome_find?_iff, Bool.not_eq_true, Option.isSome_eq_false_iff, Option.isNone_iff_eq_none]

/-- Among entries with different keys, the order does not matter for what is found. -/
theorem find?_perm {key : String} {entries others : List (String × Item)}
    (same : entries.Perm others) (nodup : (keys entries).Nodup) :
    find? key entries = find? key others := by
  have othersNodup : (keys others).Nodup := (same.map Prod.fst).nodup_iff.mp nodup
  refine Option.ext fun item => ?_
  rw [find?_eq_some_iff nodup, find?_eq_some_iff othersNodup, same.mem_iff]

/-- Entries with the same keys in the same order are the same if each key has the same item. -/
theorem eq_of_keys {left right : List (String × Item)}
    (nodup : (keys left).Nodup) (sameKeys : keys left = keys right)
    (same : ∀ key, find? key left = find? key right) : left = right := by
  induction left generalizing right with
  | nil =>
      exact (List.map_eq_nil_iff.mp sameKeys.symm).symm
  | cons entry lefts inductionHypothesis =>
      cases right with
      | nil =>
          cases sameKeys
      | cons other rights =>
          obtain ⟨key, item⟩ := entry
          obtain ⟨otherKey, otherItem⟩ := other
          obtain ⟨absent, restNodup⟩ := List.nodup_cons.mp nodup
          obtain ⟨rfl, restKeys⟩ : key = otherKey ∧ keys lefts = keys rights :=
            List.cons.inj sameKeys
          have first := same key
          simp only [find?, if_true, Option.some.injEq] at first
          have rest : lefts = rights := by
            refine inductionHypothesis restNodup restKeys fun name => ?_
            by_cases isKey : name = key
            · subst isKey
              rw [find?_eq_none_iff.mpr absent, find?_eq_none_iff.mpr (restKeys ▸ absent)]
            · have behind := same name
              rwa [find?, find?, if_neg (Ne.symm isKey), if_neg (Ne.symm isKey)] at behind
          rw [first, rest]

theorem filter_key {key : String} {entries : List (String × Item)}
    (nodup : (keys entries).Nodup) :
    entries.filter (fun entry => entry.1 = key) =
      ((find? key entries).map fun item => (key, item)).toList := by
  induction entries with
  | nil =>
      rfl
  | cons head rest inductionHypothesis =>
      obtain ⟨name, item⟩ := head
      obtain ⟨absent, restNodup⟩ := List.nodup_cons.mp nodup
      rw [List.filter_cons, find?]
      by_cases same : name = key
      · subst same
        rw [if_pos (by simp), if_pos rfl, inductionHypothesis restNodup,
          find?_eq_none_iff.mpr absent]
        rfl
      · rw [if_neg (by simpa using same), if_neg same, inductionHypothesis restNodup]

theorem erase_of_not_mem {key : String} {entries : List (String × Item)}
    (absent : key ∉ keys entries) : erase key entries = entries := by
  refine List.filter_eq_self.mpr fun entry isEntry => decide_eq_true ?_
  rintro rfl
  exact absent (List.mem_map_of_mem isEntry)

theorem erase_cons_of_not_mem {key : String} {item : Item} {entries : List (String × Item)}
    (absent : key ∉ keys entries) : erase key ((key, item) :: entries) = entries := by
  rw [erase, List.filter_cons_of_neg (by simp)]
  exact erase_of_not_mem absent

/-- The entries that are there, of a list in which each may be absent. -/
def present (parts : List (String × Option Item)) : List (String × Item) :=
  parts.filterMap fun (key, part) => part.map fun item => (key, item)

theorem present_cons (key : String) (part : Option Item) (parts : List (String × Option Item)) :
    present ((key, part) :: parts) =
      (part.map fun item => (key, item)).toList ++ present parts := by
  rw [present, List.filterMap_cons]
  cases part <;> rfl

theorem keys_present (parts : List (String × Option Item)) :
    (keys (present parts)).Sublist (keys parts) := by
  induction parts with
  | nil =>
      exact List.Sublist.refl _
  | cons head rest inductionHypothesis =>
      obtain ⟨key, part⟩ := head
      rw [present_cons]
      cases part with
      | none => exact inductionHypothesis.cons key
      | some item => exact inductionHypothesis.cons_cons key

theorem find?_present {key : String} {parts : List (String × Option Item)}
    (nodup : (keys parts).Nodup) : find? key (present parts) = (find? key parts).join := by
  induction parts with
  | nil =>
      rfl
  | cons head rest inductionHypothesis =>
      obtain ⟨name, part⟩ := head
      obtain ⟨absent, restNodup⟩ := List.nodup_cons.mp nodup
      rw [present_cons, find?_append, inductionHypothesis restNodup, find?]
      by_cases same : name = key
      · subst same
        rw [find?_eq_none_iff.mpr absent, if_pos rfl]
        cases part <;> simp [find?]
      · rw [if_neg same]
        cases part <;> simp [find?, same]

section Others

variable {parts : List (String × Option Item)} {others : List (String × Item)}

theorem nodup_keys_present_append (nodup : (keys parts).Nodup) (othersNodup : (keys others).Nodup)
    (different : ∀ entry ∈ others, entry.1 ∉ keys parts) :
    (keys (present parts ++ others)).Nodup := by
  rw [keys_append, List.nodup_append]
  refine ⟨nodup.sublist (keys_present parts), othersNodup, ?_⟩
  intro key inPresent other inOthers same
  obtain ⟨entry, isEntry, rfl⟩ := List.mem_map.mp inOthers
  exact different entry isEntry (same ▸ (keys_present parts).subset inPresent)

theorem find?_present_append {key : String} (nodup : (keys parts).Nodup)
    (different : ∀ entry ∈ others, entry.1 ∉ keys parts) (inside : key ∈ keys parts) :
    find? key (present parts ++ others) = (find? key parts).join := by
  have absent : find? key others = none := by
    refine find?_eq_none_iff.mpr fun inOthers => ?_
    obtain ⟨entry, isEntry, rfl⟩ := List.mem_map.mp inOthers
    exact different entry isEntry inside
  rw [find?_append, find?_present nodup, absent, Option.or_none]

theorem find?_present_append_of_not_mem {key : String} (outside : key ∉ keys parts) :
    find? key (present parts ++ others) = find? key others := by
  have absent : find? key (present parts) = none :=
    find?_eq_none_iff.mpr fun inside => outside ((keys_present parts).subset inside)
  rw [find?_append, absent, Option.none_or]

end Others

theorem insert_of_not_mem {key : String} {item : Item} {entries : List (String × Item)}
    (absent : key ∉ keys entries) : insert key item entries = entries ++ [(key, item)] := by
  induction entries with
  | nil =>
      rfl
  | cons head rest inductionHypothesis =>
      obtain ⟨name, other⟩ := head
      obtain ⟨different, restAbsent⟩ := not_or.mp (mt mem_keys_cons.mpr absent)
      rw [insert, if_neg fun same => different same.symm, inductionHypothesis restAbsent,
        List.cons_append]

/-- Collecting entries with different keys gives these entries. -/
theorem collect_of_nodup {entries : List (String × Item)} (nodup : (keys entries).Nodup) :
    collect entries = entries := by
  have collected : ∀ (added before : List (String × Item)),
      (keys (before ++ added)).Nodup →
        added.foldl (fun collected (key, item) => insert key item collected) before =
          before ++ added := by
    intro added
    induction added with
    | nil =>
        exact fun before _ => (List.append_nil before).symm
    | cons head rest inductionHypothesis =>
        obtain ⟨key, item⟩ := head
        intro before distinct
        have absent : key ∉ keys before := by
          rw [keys, List.map_append, List.map_cons] at distinct
          intro inside
          exact (List.nodup_append.mp distinct).2.2 key inside key List.mem_cons_self rfl
        simp only [List.foldl_cons, insert_of_not_mem absent]
        rw [inductionHypothesis _ (by simpa using distinct), List.append_assoc]
        rfl
  exact collected entries [] nodup

theorem collect_append (front back : List (String × Item)) :
    collect (front ++ back) =
      back.foldl (fun collected (key, item) => insert key item collected) (collect front) :=
  List.foldl_append

/-- Inserting entries with different keys one after another replaces what was there under these
keys. -/
theorem find?_foldl_insert {key : String} {added : List (String × Item)}
    (nodup : (keys added).Nodup) (before : List (String × Item)) :
    find? key (added.foldl (fun collected (key, item) => insert key item collected) before) =
      (find? key added).or (find? key before) := by
  induction added generalizing before with
  | nil =>
      rfl
  | cons head rest inductionHypothesis =>
      obtain ⟨name, item⟩ := head
      obtain ⟨absent, restNodup⟩ := List.nodup_cons.mp nodup
      rw [List.foldl_cons, inductionHypothesis restNodup, find?_insert, find?]
      by_cases same : name = key
      · subst same
        have notLater : find? name rest = none := find?_eq_none_iff.mpr absent
        simp [notLater]
      · rw [if_neg same, if_neg (Ne.symm same)]

/-- Inserting entries with different keys one after another adds the keys that are new behind those
that are there. -/
theorem keys_foldl_insert {added : List (String × Item)} (nodup : (keys added).Nodup)
    (before : List (String × Item)) :
    keys (added.foldl (fun collected (key, item) => insert key item collected) before) =
      keys before ++ (keys added).filter fun key => key ∉ keys before := by
  induction added generalizing before with
  | nil =>
      exact (List.append_nil _).symm
  | cons head rest inductionHypothesis =>
      obtain ⟨name, item⟩ := head
      obtain ⟨absent, restNodup⟩ := List.nodup_cons.mp nodup
      rw [List.foldl_cons, inductionHypothesis restNodup, keys_insert,
        show keys ((name, item) :: rest) = name :: keys rest from rfl, List.filter_cons]
      by_cases inside : name ∈ keys before
      · simp [inside]
      · have laterKept : (keys rest).filter (fun key => key ∉ keys before ++ [name]) =
            (keys rest).filter fun key => key ∉ keys before := by
          refine List.filter_congr fun key inRest => ?_
          have different : key ≠ name := fun same => absent (same ▸ inRest)
          simp [different]
        rw [if_neg inside, laterKept, if_pos (by simpa using inside), List.append_assoc]
        rfl

end Entries

theorem OrderedMap.entries_ofList {entries : List (String × Item)}
    (nodup : (Entries.keys entries).Nodup) : (OrderedMap.ofList entries).entries = entries :=
  Entries.collect_of_nodup nodup

theorem OrderedMap.entries_mapItems (map : OrderedMap Item) (image : String → Item → Part) :
    (map.mapItems image).entries = map.entries.map fun (key, item) => (key, image key item) :=
  rfl

theorem OrderedMap.keys_mapItems (map : OrderedMap Item) (image : String → Item → Part) :
    (map.mapItems image).keys = map.keys := by
  rw [OrderedMap.keys, OrderedMap.entries_mapItems, Entries.keys, List.map_map]
  rfl

theorem OrderedMap.get?_mapItems (map : OrderedMap Item) (image : String → Item → Part)
    (key : String) : (map.mapItems image).get? key = (map.get? key).map (image key) := by
  rw [OrderedMap.get?, OrderedMap.get?, OrderedMap.entries_mapItems]
  induction map.entries with
  | nil =>
      rfl
  | cons head rest inductionHypothesis =>
      obtain ⟨name, item⟩ := head
      rw [List.map_cons, Entries.find?, Entries.find?, inductionHypothesis]
      split
      · next same => rw [same, Option.map_some]
      · rfl

theorem OrderedMap.get?_filterKeys (map : OrderedMap Item) (keep : String → Bool) (key : String) :
    (map.filterKeys keep).get? key = if keep key then map.get? key else none := by
  show Entries.find? key (map.entries.filter fun entry => keep entry.1) =
    if keep key then Entries.find? key map.entries else none
  induction map.entries with
  | nil =>
      split <;> rfl
  | cons head rest inductionHypothesis =>
      obtain ⟨name, item⟩ := head
      rw [List.filter_cons, Entries.find?]
      by_cases same : name = key
      · subst same
        split
        · next kept => rw [Entries.find?, if_pos rfl, if_pos rfl]
        · next dropped => rw [inductionHypothesis, if_neg dropped]
      · rw [if_neg same, ← inductionHypothesis]
        split
        · rw [Entries.find?, if_neg same]
        · rfl

section Added

variable {front : List (String × Item)} (nodup : (Entries.keys front).Nodup)
  (map : OrderedMap Item)

include nodup

theorem OrderedMap.get?_ofList_append (key : String) :
    (OrderedMap.ofList (front ++ map.entries)).get? key =
      (map.get? key).or (Entries.find? key front) := by
  show Entries.find? key (Entries.collect (front ++ map.entries)) = _
  rw [Entries.collect_append, Entries.collect_of_nodup nodup]
  exact Entries.find?_foldl_insert map.nodup front

theorem OrderedMap.keys_ofList_append :
    (OrderedMap.ofList (front ++ map.entries)).keys =
      Entries.keys front ++ map.keys.filter fun key => key ∉ Entries.keys front := by
  show Entries.keys (Entries.collect (front ++ map.entries)) = _
  rw [Entries.collect_append, Entries.collect_of_nodup nodup]
  exact Entries.keys_foldl_insert map.nodup front

end Added

theorem OrderedMap.ofList_entries (map : OrderedMap Item) : OrderedMap.ofList map.entries = map :=
  OrderedMap.ext (OrderedMap.entries_ofList map.nodup)

/-! ## The order of the keys -/

namespace OrderedMap

theorem keys_perm {left right : List (String × Item)} (same : left.Perm right) :
    (Entries.keys left).Perm (Entries.keys right) :=
  same.map Prod.fst

theorem keys_of_mapM {part? : Item → Option Part} {entries : List (String × Item)}
    {parts : List (String × Part)}
    (read : entries.mapM (fun entry => (part? entry.2).map fun part => (entry.1, part)) =
      some parts) : Entries.keys parts = Entries.keys entries := by
  induction entries generalizing parts with
  | nil =>
      cases read
      rfl
  | cons entry entries inductionHypothesis =>
      rw [List.mapM_cons] at read
      obtain ⟨first, firstRead, read⟩ := Option.bind_eq_some_iff.mp read
      obtain ⟨others, othersRead, same⟩ := Option.bind_eq_some_iff.mp read
      obtain ⟨part, _, rfl⟩ := Option.map_eq_some_iff.mp firstRead
      cases same
      exact congrArg (entry.1 :: ·) (inductionHypothesis othersRead)

/-- A map with its entries in the order of their keys, by code point. -/
def inKeyOrder (map : OrderedMap Item) : OrderedMap Item :=
  ⟨map.entries.mergeSort fun left right => decide (left.1 ≤ right.1),
    (keys_perm (List.mergeSort_perm map.entries _)).nodup_iff.mpr map.nodup⟩

theorem entries_inKeyOrder_perm (map : OrderedMap Item) :
    map.inKeyOrder.entries.Perm map.entries :=
  List.mergeSort_perm map.entries _

theorem rising_inKeyOrder (map : OrderedMap Item) :
    map.inKeyOrder.entries.Pairwise fun left right => left.1 ≤ right.1 := by
  have sorted := @List.pairwise_mergeSort (String × Item)
    (fun left right => decide (left.1 ≤ right.1))
    (fun _ _ _ below above => decide_eq_true
      (String.le_trans (of_decide_eq_true below) (of_decide_eq_true above)))
    (fun left right => by
      rcases String.le_total left.1 right.1 with below | above
      · rw [decide_eq_true below, Bool.true_or]
      · rw [decide_eq_true above, Bool.or_true])
    map.entries
  exact sorted.imp of_decide_eq_true

/-- Entries in the order of their keys are the only ones that are those of a map in this order. -/
theorem eq_inKeyOrder {left right : OrderedMap Item}
    (rising : left.entries.Pairwise fun left right => left.1 ≤ right.1)
    (same : left.entries.Perm right.entries) : left = right.inKeyOrder := by
  refine ext (List.Perm.eq_of_pairwise ?_ rising right.rising_inKeyOrder
    (same.trans right.entries_inKeyOrder_perm.symm))
  intro entry other inLeft inOrdered below above
  have inRight := right.entries_inKeyOrder_perm.mem_iff.mp inOrdered
  have found := (get?_eq_some_iff right entry.1 entry.2).mpr (same.mem_iff.mp inLeft)
  have foundOther := (get?_eq_some_iff right other.1 other.2).mpr inRight
  have sameKey : entry.1 = other.1 := String.le_antisymm below above
  rw [sameKey, foundOther] at found
  exact Prod.ext sameKey (Option.some.inj found).symm

theorem inKeyOrder_eq_of_perm {left right : OrderedMap Item}
    (same : left.entries.Perm right.entries) : left.inKeyOrder = right.inKeyOrder :=
  eq_inKeyOrder left.rising_inKeyOrder (left.entries_inKeyOrder_perm.trans same)

/-- Entries in the order of their keys make up the map in this order. -/
theorem ofList_eq_inKeyOrder {left right : List (String × Item)}
    (nodup : (Entries.keys right).Nodup)
    (rising : left.Pairwise fun left right => left.1 ≤ right.1) (same : left.Perm right) :
    ofList left = (ofList right).inKeyOrder := by
  have leftNodup := (keys_perm same).nodup_iff.mpr nodup
  refine eq_inKeyOrder ?_ ?_
  · rwa [entries_ofList leftNodup]
  · rwa [entries_ofList leftNodup, entries_ofList nodup]

/-- Entries that stand in the order of their keys are read as the map of the others in this
order. -/
theorem mapM_eq_inKeyOrder (part? : Item → Option Part) {left right : List (String × Item)}
    (nodup : (Entries.keys right).Nodup)
    (rising : left.Pairwise fun left right => left.1 ≤ right.1) (same : left.Perm right) :
    (left.mapM fun entry => (part? entry.2).map fun part => (entry.1, part)).map ofList =
      ((right.mapM fun entry => (part? entry.2).map fun part => (entry.1, part)).map ofList).map
        inKeyOrder := by
  cases read : right.mapM fun entry => (part? entry.2).map fun part => (entry.1, part) with
  | none =>
      obtain ⟨entry, member, unread⟩ := mapM_eq_none_iff.mp read
      rw [mapM_eq_none_iff.mpr ⟨entry, same.mem_iff.mpr member, unread⟩]
      rfl
  | some parts =>
      obtain ⟨found, foundRead, permuted⟩ := mapM_perm same.symm read
      rw [foundRead]
      refine congrArg some (ofList_eq_inKeyOrder ?_ ?_ permuted.symm)
      · rwa [keys_of_mapM read]
      · refine List.pairwise_map.mp (?_ : (Entries.keys found).Pairwise (· ≤ ·))
        rw [keys_of_mapM foundRead]
        exact List.pairwise_map.mpr rising

end OrderedMap

end NoteBase
