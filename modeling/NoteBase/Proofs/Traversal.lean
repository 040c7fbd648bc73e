/-!
# Traversals that may fail

A list is read item by item, and is read as a whole if each of its items is.
-/

namespace NoteBase

universe u v

variable {Item : Type u} {Part : Type v} {part? : Item → Option Part}

theorem mapM_eq_some_iff {items : List Item} {parts : List Part} :
    items.mapM part? = some parts ↔ items.map part? = parts.map some := by
  induction items generalizing parts with
  | nil =>
      cases parts <;> simp
  | cons item items inductionHypothesis =>
      rw [List.mapM_cons]
      cases first : part? item with
      | none =>
          cases parts <;> simp [first]
      | some part =>
          cases parts with
          | nil =>
              cases items.mapM part? <;> simp
          | cons other parts =>
              have rest := @inductionHypothesis parts
              cases others : items.mapM part? with
              | none =>
                  simp only [others, reduceCtorEq, false_iff] at rest
                  simp [first, rest]
              | some found =>
                  simp only [others, Option.some.injEq] at rest
                  simp [first, rest]

theorem mapM_of_forall {items : List Item} {part : Item → Part}
    (each : ∀ item ∈ items, part? item = some (part item)) :
    items.mapM part? = some (items.map part) := by
  rw [mapM_eq_some_iff, List.map_map]
  exact List.map_congr_left each

/-- Parts that are changed once they are read are changed one by one. -/
theorem mapM_map_some {Image : Type v} (image : Part → Image) (items : List Item) :
    items.mapM (fun item => (part? item).map image) = (items.mapM part?).map (List.map image) := by
  induction items with
  | nil =>
      rfl
  | cons item items inductionHypothesis =>
      rw [List.mapM_cons, List.mapM_cons, inductionHypothesis]
      cases part? item with
      | none => rfl
      | some part => cases items.mapM part? <;> rfl

theorem mapM_congr {other? : Item → Option Part} {items : List Item}
    (same : ∀ item ∈ items, part? item = other? item) : items.mapM part? = items.mapM other? := by
  induction items with
  | nil =>
      rfl
  | cons item items inductionHypothesis =>
      obtain ⟨first, others⟩ := List.forall_mem_cons.mp same
      rw [List.mapM_cons, List.mapM_cons, first, inductionHypothesis others]

/-- A list cannot be read if one of its items cannot. -/
theorem mapM_eq_none_iff {items : List Item} :
    items.mapM part? = none ↔ ∃ item ∈ items, part? item = none := by
  induction items with
  | nil =>
      simp
  | cons item items inductionHypothesis =>
      rw [List.mapM_cons]
      cases first : part? item with
      | none =>
          simp [first]
      | some part =>
          cases others : items.mapM part? with
          | none =>
              simpa [first, others] using inductionHypothesis
          | some parts =>
              simpa [first, others] using inductionHypothesis

/-- Each item of a list that is read stands for a part. -/
theorem exists_part_of_mem {items : List Item} {parts : List Part} {item : Item}
    (read : items.mapM part? = some parts) (member : item ∈ items) :
    ∃ part ∈ parts, part? item = some part := by
  have inside : part? item ∈ parts.map some := by
    rw [← mapM_eq_some_iff.mp read]
    exact List.mem_map_of_mem member
  obtain ⟨part, isPart, same⟩ := List.mem_map.mp inside
  exact ⟨part, isPart, same.symm⟩

/-- What is read stands for items of the list. -/
theorem exists_of_mem_mapM {items : List Item} {parts : List Part} {part : Part}
    (read : items.mapM part? = some parts) (member : part ∈ parts) :
    ∃ item ∈ items, part? item = some part := by
  have image := mapM_eq_some_iff.mp read
  have inside : some part ∈ items.map part? := by
    rw [image]
    exact List.mem_map.mpr ⟨part, member, rfl⟩
  exact List.mem_map.mp inside

/-- Items in another order are read as the same parts in another order. -/
theorem mapM_perm {items others : List Item} {parts : List Part} (same : items.Perm others)
    (read : items.mapM part? = some parts) :
    ∃ found, others.mapM part? = some found ∧ parts.Perm found := by
  have image := mapM_eq_some_iff.mp read
  cases readOthers : others.mapM part? with
  | none =>
      obtain ⟨item, member, absent⟩ := mapM_eq_none_iff.mp readOthers
      have unread := mapM_eq_none_iff.mpr ⟨item, same.mem_iff.mpr member, absent⟩
      rw [read] at unread
      cases unread
  | some found =>
      have otherImage := mapM_eq_some_iff.mp readOthers
      have mapped : (parts.map some).Perm (found.map some) := by
        rw [← image, ← otherImage]
        exact same.map part?
      refine ⟨found, rfl, ?_⟩
      have unwrapped := mapped.filterMap id
      rwa [List.filterMap_map, List.filterMap_map, Function.id_comp, List.filterMap_some,
        List.filterMap_some] at unwrapped

/-- Items each of which is an image are the images of a list. -/
theorem exists_map_eq {image : Part → Item} {holds : Part → Prop} {items : List Item}
    (each : ∀ item ∈ items, ∃ part, item = image part ∧ holds part) :
    ∃ parts : List Part, items = parts.map image ∧ ∀ part ∈ parts, holds part := by
  induction items with
  | nil =>
      exact ⟨[], rfl, by simp⟩
  | cons item items inductionHypothesis =>
      obtain ⟨⟨part, rfl, partHolds⟩, others⟩ := List.forall_mem_cons.mp each
      obtain ⟨parts, rfl, partsHold⟩ := inductionHypothesis others
      exact ⟨part :: parts, rfl, List.forall_mem_cons.mpr ⟨partHolds, partsHold⟩⟩

end NoteBase
