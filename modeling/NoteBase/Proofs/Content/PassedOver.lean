import NoteBase.Proofs.Content.Addresses

/-!
# Documents that are passed over

The records of a tree are those of its documents, one after another in the order of the tree. A
document has one record or none: none if its own key is passed over, and also none if the key of a
folder around it is, be that folder a description or one that happens to be called as an index page.
-/

namespace NoteBase

open ContentTree (documentAt)

/-! ## Keys around a document -/

namespace Place

/-- The keys of the folders around a document, from the outermost on. -/
def folders (place : Place) : List String :=
  place.path.dropLast

/-- The records that the document at a place gives. -/
def records (hints : Option PropertyHints) (place : Place) : List Record :=
  if place.isShown then [place.recordFrom hints ""] else []

theorem path_eq {place : Place} (nonempty : place.path ≠ []) :
    place.path = place.folders ++ [place.key] := by
  rw [folders, key, List.getLastD_eq_getLast?, List.getLast?_eq_some_getLast nonempty,
    Option.getD_some, List.dropLast_append_getLast]

theorem isShown_eq {place : Place} (nonempty : place.path ≠ []) :
    place.isShown = (!isPassedOver place.key &&
      place.folders.all fun key => !isPassedOver key) := by
  rw [isShown, path_eq nonempty, List.all_append, Bool.and_comm]
  simp

end Place

theorem isPassedOver_eq_false_iff {key : String} :
    isPassedOver key = false ↔ key ≠ descriptionKey ∧ key ≠ indexKey := by
  simp [isPassedOver]

theorem filter_map_eq_flatMap {Item Image : Type} (keep : Item → Bool) (image : Item → Image)
    (items : List Item) :
    (items.filter keep).map image =
      items.flatMap fun item => if keep item then [image item] else [] := by
  induction items with
  | nil =>
      rfl
  | cons item rest inductionHypothesis =>
      rw [List.flatMap_cons, ← inductionHypothesis, List.filter_cons]
      split <;> rfl

/-! ## What each document gives -/

/-- The documents of a tree are those that are found along its keys, and the records are what they
give, in order. A document whose own key is not passed over, and which does not lie under a
description, gives exactly one record, unless a folder around it has the key of index pages; then it
gives none. -/
structure CollectsEachDocument (hints : Option PropertyHints) (tree : ContentTree) : Prop where
  documents : tree.DistinctKeys → ∀ place, place ∈ tree.places ↔
    documentAt tree.nodes place.path = some place.document
  distinct : tree.DistinctKeys → (tree.places.map Place.path).Nodup
  records : tree.records hints = tree.places.flatMap (Place.records hints)
  single : ∀ place ∈ tree.places, isPassedOver place.key = false →
    descriptionKey ∉ place.folders → indexKey ∉ place.folders →
      place.records hints = [place.recordFrom hints ""]
  hidden : ∀ place ∈ tree.places, descriptionKey ∈ place.folders ∨ indexKey ∈ place.folders →
    place.records hints = []

theorem path_ne_nil {tree : ContentTree} {place : Place} (member : place ∈ tree.places) :
    place.path ≠ [] := by
  obtain ⟨_, _, _, pathEq⟩ := exists_cons_of_mem_placesIn member
  simp [pathEq]

theorem records_collectsEachDocument (hints : Option PropertyHints) (tree : ContentTree) :
    CollectsEachDocument hints tree := by
  refine ⟨?_, ?_, ?_, ?_, ?_⟩
  · exact fun distinct place =>
      mem_placesIn_iff place.path place.document tree.nodes distinct.1 distinct.2
  · exact fun distinct => nodup_placesIn tree.nodes distinct.1 distinct.2
  · rw [tree.records_eq hints]
    exact filter_map_eq_flatMap Place.isShown (Place.recordFrom hints "") tree.places
  · intro place member ownKey noDescription noIndex
    have shown : place.isShown = true := by
      rw [Place.isShown_eq (path_ne_nil member), ownKey, Bool.not_false, Bool.true_and,
        List.all_eq_true]
      intro key inFolders
      rw [isPassedOver_eq_false_iff.mpr ⟨fun same => noDescription (same ▸ inFolders),
        fun same => noIndex (same ▸ inFolders)⟩]
      rfl
    rw [Place.records, if_pos shown]
  · intro place member around
    have passed : ∃ key ∈ place.folders, isPassedOver key = true := by
      rcases around with description | index
      · exact ⟨descriptionKey, description, rfl⟩
      · exact ⟨indexKey, index, rfl⟩
    obtain ⟨key, inFolders, keyPassed⟩ := passed
    have hidden : ¬ place.isShown = true := by
      rw [Place.isShown_eq (path_ne_nil member), Bool.and_eq_true, List.all_eq_true]
      exact fun both => absurd (both.2 key inFolders) (by simp [keyPassed])
    rw [Place.records, if_neg hidden]

/-- A note in a folder that is called as an index page, beside one in another folder. -/
def indexFolderTree : ContentTree :=
  ⟨[("index", .folder none [("note", .document ⟨"index/note.md", .empty⟩)]),
    ("shelf", .folder none [("note", .document ⟨"shelf/note.md", .empty⟩)])]⟩

theorem records_collectsEachDocument_shelf :
    Place.records none ⟨["shelf", "note"], ⟨"shelf/note.md", .empty⟩⟩ =
      [Place.recordFrom none "" ⟨["shelf", "note"], ⟨"shelf/note.md", .empty⟩⟩] :=
  (records_collectsEachDocument none indexFolderTree).single _
    (List.mem_cons_of_mem _ List.mem_cons_self) rfl (by decide) (by decide)

/-- The note has a key of its own and does not lie under a description, but it has no record. -/
theorem indexFolder_hidesNote :
    (⟨["index", "note"], ⟨"index/note.md", .empty⟩⟩ : Place) ∈ indexFolderTree.places ∧
      isPassedOver "note" = false ∧ descriptionKey ∉ ["index"] ∧
      (indexFolderTree.records none).map (fun record => (record.get? Record.filePath).map
        Value.display) = [some "shelf/note.md"] :=
  ⟨List.mem_cons_self, rfl, by decide, rfl⟩

end NoteBase
