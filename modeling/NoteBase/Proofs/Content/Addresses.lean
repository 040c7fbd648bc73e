import Mathlib.Data.List.Nodup
import NoteBase.Config.Content

/-!
# Collected records and their addresses

Collecting goes through the tree once and builds the addresses on the way, and looking a document up
walks down the tree along an address. Both reach the same documents: each record is that of the
document which is found under its address, and a document that is found along an address without a
key that is passed over has exactly one record.
-/

namespace NoteBase

/-! ## Keys at every level -/

mutual

/-- A condition on the keys of one level holds at every level of a node. -/
def ContentNode.LevelsSatisfy (condition : List String → Prop) : ContentNode → Prop
  | .document _ => True
  | .folder _ children =>
    condition (Entries.keys children) ∧ ContentNode.BelowSatisfy condition children

/-- A condition on the keys of one level holds at every level below some nodes. -/
def ContentNode.BelowSatisfy (condition : List String → Prop) :
    List (String × ContentNode) → Prop
  | [] => True
  | (_, node) :: rest =>
    node.LevelsSatisfy condition ∧ ContentNode.BelowSatisfy condition rest

end

namespace ContentTree

def LevelsSatisfy (condition : List String → Prop) (tree : ContentTree) : Prop :=
  condition tree.keys ∧ ContentNode.BelowSatisfy condition tree.nodes

/-- No folder has a key twice. -/
def DistinctKeys (tree : ContentTree) : Prop :=
  tree.LevelsSatisfy List.Nodup

end ContentTree

def IsSlug (key : String) : Prop :=
  key ≠ "" ∧ '/' ∉ key.toList

def AreSlugs (keys : List String) : Prop :=
  ∀ key ∈ keys, IsSlug key

def ContentTree.SlugKeys (tree : ContentTree) : Prop :=
  tree.LevelsSatisfy AreSlugs

/-! ## Trees that are read -/

open ContentNode (BelowSatisfy)

theorem belowSatisfy_iff {condition : List String → Prop} {nodes : List (String × ContentNode)} :
    BelowSatisfy condition nodes ↔ ∀ entry ∈ nodes, entry.2.LevelsSatisfy condition := by
  induction nodes with
  | nil =>
      simp [BelowSatisfy]
  | cons head rest inductionHypothesis =>
      rw [BelowSatisfy, inductionHypothesis, List.forall_mem_cons]

theorem belowSatisfy_collect {condition : List String → Prop}
    {nodes : List (String × ContentNode)} (below : BelowSatisfy condition nodes) :
    BelowSatisfy condition (Entries.collect nodes) :=
  belowSatisfy_iff.mpr fun entry member =>
    belowSatisfy_iff.mp below entry (Entries.mem_of_mem_collect member)

mutual

theorem ContentNode.distinct_of_ofNode? :
    ∀ {node : Node} {read : ContentNode}, ContentNode.ofNode? node = some read →
      read.LevelsSatisfy List.Nodup
  | .map entries, read, done => by
      rw [ContentNode.ofNode?] at done
      split at done
      · cases done
        trivial
      · obtain ⟨description, _, done⟩ := Option.bind_eq_some_iff.mp done
        obtain ⟨children, childrenDone, done⟩ := Option.bind_eq_some_iff.mp done
        cases done
        exact ⟨Entries.nodup_keys_collect _,
          belowSatisfy_collect (distinct_of_childrenOf? childrenDone)⟩

theorem distinct_of_childrenOf? :
    ∀ {entries : List (Node × Node)} {children : List (String × ContentNode)},
      ContentNode.childrenOf? entries = some children → BelowSatisfy List.Nodup children
  | [], children, done => by
      cases done
      trivial
  | (key, value) :: rest, children, done => by
      rw [ContentNode.childrenOf?] at done
      obtain ⟨name, _, done⟩ := Option.bind_eq_some_iff.mp done
      split at done
      · exact distinct_of_childrenOf? done
      · obtain ⟨read, readDone, done⟩ := Option.bind_eq_some_iff.mp done
        obtain ⟨others, othersDone, done⟩ := Option.bind_eq_some_iff.mp done
        cases done
        exact ⟨ContentNode.distinct_of_ofNode? readDone, distinct_of_childrenOf? othersDone⟩

end

theorem distinct_of_rootOf? {entries : List (Node × Node)}
    {nodes : List (String × ContentNode)} (done : ContentNode.rootOf? entries = some nodes) :
    BelowSatisfy List.Nodup nodes := by
  induction entries generalizing nodes with
  | nil =>
      cases done
      trivial
  | cons entry rest inductionHypothesis =>
      obtain ⟨key, value⟩ := entry
      obtain ⟨name, _, done⟩ := Option.bind_eq_some_iff.mp done
      obtain ⟨read, readDone, done⟩ := Option.bind_eq_some_iff.mp done
      obtain ⟨others, othersDone, done⟩ := Option.bind_eq_some_iff.mp done
      cases done
      exact ⟨ContentNode.distinct_of_ofNode? readDone, inductionHypothesis othersDone⟩

/-- A tree that is read has no folder with a key twice, whatever the text repeats. -/
theorem ContentTree.distinctKeys_of_ofText? {text : String} {tree : ContentTree}
    (read : ContentTree.ofText? text = some tree) : tree.DistinctKeys := by
  obtain ⟨node, _, done⟩ := Option.bind_eq_some_iff.mp read
  unfold ContentTree.ofNode? at done
  split at done
  · obtain ⟨nodes, nodesDone, rfl⟩ := Option.map_eq_some_iff.mp done
    exact ⟨Entries.nodup_keys_collect _, belowSatisfy_collect (distinct_of_rootOf? nodesDone)⟩
  · cases done

/-! ## The documents of a tree -/

/-- A document of a tree with the keys on the way to it. -/
structure Place where
  path : List String
  document : Document

namespace Place

def below (key : String) (place : Place) : Place :=
  ⟨key :: place.path, place.document⟩

def key (place : Place) : String :=
  place.path.getLastD ""

def address (place : Place) : String :=
  "/".intercalate place.path

/-- A place is shown if no key on the way to it is passed over. -/
def isShown (place : Place) : Bool :=
  place.path.all fun key => !isPassedOver key

def record (hints : Option PropertyHints) (place : Place) : Record :=
  place.document.toRecord hints place.key place.address

/-- The address of a note as its record has it before the note's own properties are set. -/
def url (place : Place) : Option Value :=
  Entries.find? Record.fileUrl (place.document.identity place.key place.address)

end Place

mutual

/-- The places of all documents of a node, depth first and in the order of the tree. -/
def ContentNode.places : ContentNode → List Place
  | .document leaf => [⟨[], leaf⟩]
  | .folder _ children => ContentNode.placesIn children

def ContentNode.placesIn : List (String × ContentNode) → List Place
  | [] => []
  | (key, node) :: rest => node.places.map (Place.below key) ++ ContentNode.placesIn rest

end

namespace ContentTree

def places (tree : ContentTree) : List Place :=
  ContentNode.placesIn tree.nodes

def shownPlaces (tree : ContentTree) : List Place :=
  tree.places.filter Place.isShown

end ContentTree

open ContentNode (placesIn)
open ContentTree (documentAt)

theorem mem_placesIn_cons {name : String} {node : ContentNode}
    {rest : List (String × ContentNode)} {place : Place} :
    place ∈ placesIn ((name, node) :: rest) ↔
      (∃ inner ∈ node.places, inner.below name = place) ∨ place ∈ placesIn rest := by
  rw [placesIn, List.mem_append, List.mem_map]

/-- The way to a document begins with one of the keys at hand. -/
theorem exists_cons_of_mem_placesIn {place : Place} :
    ∀ {nodes : List (String × ContentNode)}, place ∈ placesIn nodes →
      ∃ key ∈ Entries.keys nodes, ∃ rest, place.path = key :: rest
  | (name, node) :: nodes, member => by
      rcases mem_placesIn_cons.mp member with ⟨inner, _, rfl⟩ | later
      · exact ⟨name, List.mem_cons_self, inner.path, rfl⟩
      · obtain ⟨key, inKeys, rest, pathEq⟩ := exists_cons_of_mem_placesIn later
        exact ⟨key, List.mem_cons_of_mem _ inKeys, rest, pathEq⟩

mutual

theorem ContentNode.nodup_places :
    ∀ node : ContentNode, node.LevelsSatisfy List.Nodup → (node.places.map Place.path).Nodup
  | .document _, _ => List.nodup_singleton _
  | .folder _ children, distinct => nodup_placesIn children distinct.1 distinct.2

/-- No way leads to two documents, and no document is there twice. -/
theorem nodup_placesIn :
    ∀ nodes : List (String × ContentNode), (Entries.keys nodes).Nodup →
      BelowSatisfy List.Nodup nodes → ((placesIn nodes).map Place.path).Nodup
  | [], _, _ => List.nodup_nil
  | (name, node) :: rest, distinct, below => by
      obtain ⟨absent, restDistinct⟩ := List.nodup_cons.mp distinct
      have nodeNodup := node.nodup_places below.1
      have restNodup := nodup_placesIn rest restDistinct below.2
      have prefixed : (node.places.map (Place.below name)).map Place.path =
          (node.places.map Place.path).map (name :: ·) := by
        simp only [List.map_map]
        rfl
      rw [placesIn, List.map_append, prefixed, List.nodup_append]
      refine ⟨nodeNodup.map (List.cons_injective), restNodup, ?_⟩
      rintro path inNode other inRest rfl
      obtain ⟨inner, _, rfl⟩ := List.mem_map.mp inNode
      obtain ⟨place, inPlaces, pathEq⟩ := List.mem_map.mp inRest
      obtain ⟨key, inKeys, tail, consEq⟩ := exists_cons_of_mem_placesIn inPlaces
      rw [pathEq, List.cons.injEq] at consEq
      exact absent (consEq.1 ▸ inKeys)

end

/-! ## Looking up -/

/-- The document of a node at the end of a way through it. -/
def ContentNode.documentAt? : ContentNode → List String → Option Document
  | .document leaf, path => if path = [] then some leaf else none
  | .folder _ children, path => documentAt children path

theorem documentAt_cons (name : String) (node : ContentNode) (rest : List (String × ContentNode))
    (key : String) (path : List String) :
    documentAt ((name, node) :: rest) (key :: path) =
      if name = key then node.documentAt? path else documentAt rest (key :: path) := by
  unfold documentAt
  by_cases same : name = key
  · simp only [Entries.find?, if_pos same]
    cases node <;> cases path <;> rfl
  · simp only [Entries.find?, if_neg same]

theorem documentAt_of_not_mem {key : String} {path : List String}
    {nodes : List (String × ContentNode)} (absent : key ∉ Entries.keys nodes) :
    documentAt nodes (key :: path) = none := by
  have missing : Entries.find? key nodes = none := by
    rw [← Option.not_isSome_iff_eq_none, Entries.isSome_find?_iff]
    exact absent
  simp only [documentAt, missing]

mutual

theorem ContentNode.mem_places_iff (path : List String) (document : Document) :
    ∀ node : ContentNode, node.LevelsSatisfy List.Nodup →
      (⟨path, document⟩ ∈ node.places ↔ node.documentAt? path = some document)
  | .document leaf, _ => by
      rw [ContentNode.places, ContentNode.documentAt?, List.mem_singleton, Place.mk.injEq]
      split <;> simp_all [eq_comm]
  | .folder _ children, distinct =>
      mem_placesIn_iff path document children distinct.1 distinct.2

/-- A tree without repeated keys has a document at a place exactly if the walk along the keys finds
it. -/
theorem mem_placesIn_iff (path : List String) (document : Document) :
    ∀ nodes : List (String × ContentNode), (Entries.keys nodes).Nodup →
      BelowSatisfy List.Nodup nodes →
        (⟨path, document⟩ ∈ placesIn nodes ↔ documentAt nodes path = some document)
  | [], _, _ => by
      cases path <;> simp [placesIn, documentAt, Entries.find?]
  | (name, node) :: rest, distinct, below => by
      obtain ⟨absent, restDistinct⟩ := List.nodup_cons.mp distinct
      have restIff := mem_placesIn_iff path document rest restDistinct below.2
      rw [mem_placesIn_cons, restIff]
      cases path with
      | nil =>
          simp [Place.below, documentAt]
      | cons key path =>
          have nodeIff := node.mem_places_iff path document below.1
          rw [documentAt_cons]
          by_cases same : name = key
          · subst same
            rw [if_pos rfl, documentAt_of_not_mem absent, ← nodeIff]
            constructor
            · rintro (⟨⟨inner, other⟩, member, same⟩ | none)
              · rw [Place.below, Place.mk.injEq, List.cons.injEq] at same
                obtain ⟨⟨_, rfl⟩, rfl⟩ := same
                exact member
              · cases none
            · exact fun member => .inl ⟨⟨path, document⟩, member, rfl⟩
          · rw [if_neg same]
            refine or_iff_right ?_
            rintro ⟨inner, _, equality⟩
            rw [Place.below, Place.mk.injEq, List.cons.injEq] at equality
            exact same equality.1.1

end

/-! ## Addresses -/

mutual

theorem ContentNode.areSlugs_of_mem_places :
    ∀ node : ContentNode, node.LevelsSatisfy AreSlugs →
      ∀ place ∈ node.places, AreSlugs place.path
  | .document leaf, _, place, member => by
      obtain rfl := List.mem_singleton.mp member
      exact fun _ absent => nomatch absent
  | .folder _ children, slugs, place, member =>
      areSlugs_of_mem_placesIn children slugs.1 slugs.2 place member

theorem areSlugs_of_mem_placesIn :
    ∀ nodes : List (String × ContentNode), AreSlugs (Entries.keys nodes) →
      BelowSatisfy AreSlugs nodes → ∀ place ∈ placesIn nodes, AreSlugs place.path
  | (name, node) :: rest, slugs, below, place, member => by
      rcases mem_placesIn_cons.mp member with ⟨inner, inNode, rfl⟩ | later
      · have innerSlugs := node.areSlugs_of_mem_places below.1 inner inNode
        intro key inPath
        rcases List.mem_cons.mp inPath with rfl | inInner
        · exact slugs key List.mem_cons_self
        · exact innerSlugs key inInner
      · refine areSlugs_of_mem_placesIn rest (fun key inRest => ?_) below.2 place later
        exact slugs key (List.mem_cons_of_mem _ inRest)

end

def isSlash (char : Char) : Bool :=
  char == '/'

/-- A text without the slashes at both ends. -/
def stripSlashes (chars : List Char) : List Char :=
  ((chars.dropWhile isSlash).reverse.dropWhile isSlash).reverse

def slashes (count : Nat) : String :=
  String.ofList (List.replicate count '/')

theorem segments_eq (address : String) :
    ContentTree.segments address =
      ((stripSlashes address.toList).splitOn '/').map String.ofList := by
  rw [← Text.pieces_mark]
  rfl

/-- Slashes around a text that neither begins nor ends with one are stripped. -/
theorem stripSlashes_padded {first last : Char} {chars tail front : List Char} (before after : Nat)
    (begins : chars = first :: tail) (ends : chars = front ++ [last])
    (firstShown : isSlash first = false) (lastShown : isSlash last = false) :
    stripSlashes (List.replicate before '/' ++ chars ++ List.replicate after '/') = chars := by
  have padding : ∀ count, ∀ char ∈ List.replicate count '/', isSlash char = true := by
    intro count char member
    rw [List.eq_of_mem_replicate member]
    rfl
  have start : (List.replicate before '/' ++ chars ++ List.replicate after '/').dropWhile isSlash =
      chars ++ List.replicate after '/' := by
    rw [List.append_assoc, List.dropWhile_append_of_pos (padding before), begins]
    simp [firstShown]
  rw [stripSlashes, start, List.reverse_append, List.reverse_replicate,
    List.dropWhile_append_of_pos (padding after), ends]
  simp [lastShown]

/-- The address of a way neither begins nor ends with a slash. -/
theorem exists_ends_of_areSlugs :
    ∀ {path : List String}, path ≠ [] → AreSlugs path →
      ∃ first last tail front, ("/".intercalate path).toList = first :: tail ∧
        ("/".intercalate path).toList = front ++ [last] ∧
        isSlash first = false ∧ isSlash last = false
  | key :: rest, _, slugs => by
      obtain ⟨nonempty, noSlash⟩ := slugs key List.mem_cons_self
      have shown : ∀ char ∈ key.toList, isSlash char = false :=
        fun char member => beq_false_of_ne fun equality => noSlash (equality ▸ member)
      have chars : key.toList ≠ [] := fun empty => nonempty (String.toList_eq_nil_iff.mp empty)
      obtain ⟨first, tail, keyBegins⟩ := List.exists_cons_of_ne_nil chars
      obtain ⟨front, last, keyEnds⟩ := (List.eq_nil_or_concat' key.toList).resolve_left chars
      have firstShown : isSlash first = false := shown first (by simp [keyBegins])
      cases rest with
      | nil =>
          rw [String.intercalate_singleton]
          exact ⟨first, last, tail, front, keyBegins, keyEnds, firstShown,
            shown last (by simp [keyEnds])⟩
      | cons next others =>
          have restSlugs : AreSlugs (next :: others) :=
            fun other member => slugs other (List.mem_cons_of_mem _ member)
          obtain ⟨_, restLast, _, restFront, _, restEnds, _, restShown⟩ :=
            exists_ends_of_areSlugs (List.cons_ne_nil next others) restSlugs
          rw [String.intercalate_cons_cons]
          refine ⟨first, restLast, tail ++ '/' :: ("/".intercalate (next :: others)).toList,
            key.toList ++ '/' :: restFront, ?_, ?_, firstShown, restShown⟩
          · simp [keyBegins]
          · simp [restEnds]

theorem segments_padded {path : List String} (nonempty : path ≠ []) (slugs : AreSlugs path)
    (before after : Nat) :
    ContentTree.segments (slashes before ++ "/".intercalate path ++ slashes after) = path := by
  obtain ⟨first, last, tail, front, begins, ends, firstShown, lastShown⟩ :=
    exists_ends_of_areSlugs nonempty slugs
  have noSlash : ∀ chars ∈ path.map String.toList, '/' ∉ chars := by
    intro chars member
    obtain ⟨key, inPath, rfl⟩ := List.mem_map.mp member
    exact (slugs key inPath).2
  have padded : (slashes before ++ "/".intercalate path ++ slashes after).toList =
      List.replicate before '/' ++ ("/".intercalate path).toList ++ List.replicate after '/' := by
    simp [slashes]
  rw [segments_eq, padded, stripSlashes_padded before after begins ends firstShown lastShown,
    String.toList_intercalate]
  have split := List.splitOn_intercalate '/' noSlash (by simpa using nonempty)
  rw [show "/".toList = ['/'] from rfl, split]
  simp [Function.comp_def]

/-- The keys of an address, joined again, are the address without the slashes at its ends. -/
theorem intercalate_segments (address : String) :
    "/".intercalate (ContentTree.segments address) =
      String.ofList (stripSlashes address.toList) := by
  apply String.toList_injective
  rw [segments_eq, String.toList_intercalate, List.map_map]
  have same : (String.toList ∘ String.ofList : List Char → List Char) = id :=
    funext fun _ => String.toList_ofList
  rw [same, List.map_id, show "/".toList = ['/'] from rfl, List.intercalate_splitOn,
    String.toList_ofList]

/-! ## Collecting -/

theorem key_below {name : String} {place : Place} (nonempty : place.path ≠ []) :
    (place.below name).key = place.key := by
  obtain ⟨first, rest, pathEq⟩ := List.exists_cons_of_ne_nil nonempty
  simp [Place.key, Place.below, pathEq]

/-- The record of a place, with the address that is built on the way to it from some folder. -/
def Place.recordFrom (hints : Option PropertyHints) (folder : String) (place : Place) : Record :=
  place.document.toRecord hints place.key (place.path.foldl addressIn folder)

mutual

theorem collectNode_eq_visited (hints : Option PropertyHints) :
    ∀ (node : ContentNode) (folder name : String),
      collectNode hints name (addressIn folder name) node =
        ((node.places.filter Place.isShown).map (Place.below name)).map
          (Place.recordFrom hints folder)
  | .document leaf, folder, name => by
      have shown : Place.isShown ⟨[], leaf⟩ = true := rfl
      simp [collectNode, ContentNode.places, shown, Place.below, Place.recordFrom, Place.key]
  | .folder _ children, folder, name => by
      rw [collectNode, collectNodes_eq_visited hints children (addressIn folder name), List.map_map,
        ContentNode.places]
      refine List.map_congr_left fun place member => ?_
      obtain ⟨_, _, _, pathEq⟩ := exists_cons_of_mem_placesIn (List.mem_filter.mp member).1
      have nonempty : place.path ≠ [] := by simp [pathEq]
      rw [Function.comp_apply, Place.recordFrom, Place.recordFrom, key_below nonempty]
      rfl

/-- Collecting visits the shown places of the tree in order, whatever the keys are. -/
theorem collectNodes_eq_visited (hints : Option PropertyHints) :
    ∀ (nodes : List (String × ContentNode)) (folder : String),
      collectNodes hints folder nodes =
        ((placesIn nodes).filter Place.isShown).map (Place.recordFrom hints folder)
  | [], _ => rfl
  | (name, node) :: rest, folder => by
      have kept : (node.places.map (Place.below name)).filter Place.isShown =
          if isPassedOver name then []
          else (node.places.filter Place.isShown).map (Place.below name) := by
        rw [List.filter_map]
        cases passed : isPassedOver name with
        | true =>
            simp [Function.comp_def, Place.isShown, Place.below, passed]
        | false =>
            have same : Place.isShown ∘ Place.below name = Place.isShown := by
              funext place
              simp [Place.isShown, Place.below, passed]
            rw [same]
            rfl
      rw [collectNodes, collectNodes_eq_visited hints rest folder, placesIn, List.filter_append,
        List.map_append, kept]
      split
      · rfl
      · rw [collectNode_eq_visited hints node folder name]

end

theorem ContentTree.records_eq (hints : Option PropertyHints) (tree : ContentTree) :
    tree.records hints = tree.shownPlaces.map (Place.recordFrom hints "") :=
  collectNodes_eq_visited hints tree.nodes ""

theorem addressIn_addressIn {folder name rest : String} (slug : IsSlug name) :
    addressIn (addressIn folder name) rest = addressIn folder (name ++ "/" ++ rest) := by
  have inner : addressIn folder name ≠ "" := by
    unfold addressIn
    split
    · exact slug.1
    · simp [slug.1]
  rw [addressIn, if_neg inner, addressIn, addressIn]
  split
  · rfl
  · simp only [String.append_assoc]

/-- The address that is built along keys is these keys with slashes between them. -/
theorem foldl_addressIn :
    ∀ {path : List String} (folder : String), path ≠ [] → AreSlugs path →
      path.foldl addressIn folder = addressIn folder ("/".intercalate path)
  | [key], _, _, _ => by
      rw [String.intercalate_singleton]
      rfl
  | key :: next :: rest, folder, _, slugs => by
      have restSlugs : AreSlugs (next :: rest) :=
        fun other member => slugs other (List.mem_cons_of_mem _ member)
      have restEq := foldl_addressIn (addressIn folder key) (List.cons_ne_nil next rest) restSlugs
      rw [List.foldl_cons, restEq, String.intercalate_cons_cons,
        addressIn_addressIn (slugs key List.mem_cons_self)]

/-- The record of a place in a tree that itself lies at some address. -/
def Place.recordIn (hints : Option PropertyHints) (folder : String) (place : Place) : Record :=
  place.document.toRecord hints place.key (addressIn folder place.address)

/-- Among keys that are no addresses themselves, the shown places have the records of their
addresses. -/
theorem collectNodes_eq (hints : Option PropertyHints) (nodes : List (String × ContentNode))
    (folder : String) (slugs : AreSlugs (Entries.keys nodes))
    (below : BelowSatisfy AreSlugs nodes) :
    collectNodes hints folder nodes =
      ((placesIn nodes).filter Place.isShown).map (Place.recordIn hints folder) := by
  rw [collectNodes_eq_visited]
  refine List.map_congr_left fun place member => ?_
  have isPlace := (List.mem_filter.mp member).1
  obtain ⟨_, _, _, pathEq⟩ := exists_cons_of_mem_placesIn isPlace
  have built := foldl_addressIn folder (by simp [pathEq])
    (areSlugs_of_mem_placesIn nodes slugs below place isPlace)
  rw [Place.recordFrom, built]
  rfl

/-! ## Both together -/

theorem Place.url_eq (place : Place) : place.url = some (.text ("/" ++ place.address)) := by
  simp [Place.url, Document.identity, Entries.find?, Record.fileUrl, Record.fileName,
    Record.filePath, Record.fileFullName]

theorem filter_eq_singleton {Item Image : Type} [DecidableEq Image] {image : Item → Image}
    {item : Item} {items : List Item} (nodup : (items.map image).Nodup) (member : item ∈ items) :
    items.filter (fun other => image other = image item) = [item] := by
  induction items with
  | nil =>
      cases member
  | cons head rest inductionHypothesis =>
      obtain ⟨absent, restNodup⟩ := List.nodup_cons.mp nodup
      rw [List.filter_cons]
      rcases List.mem_cons.mp member with rfl | inRest
      · have others : rest.filter (fun other => image other = image item) = [] := by
          refine List.filter_eq_nil_iff.mpr fun other inRest same => absent ?_
          rw [← of_decide_eq_true same]
          exact List.mem_map_of_mem inRest
        rw [others]
        simp
      · have different : image head ≠ image item :=
          fun same => absent (same ▸ List.mem_map_of_mem inRest)
        rw [if_neg (by simpa using different)]
        exact inductionHypothesis restNodup inRest

/-- Collecting and looking up reach the same documents: the records are those of the shown places in
order, each under an address of its own; the document of a record is found under its address, also
with slashes around it; and what is found along keys none of which is passed over has exactly one
record, under the address without the slashes at its ends. -/
structure CollectsWhatIsFound (hints : Option PropertyHints) (tree : ContentTree) : Prop where
  places : ∀ place, place ∈ tree.places ↔
    documentAt tree.nodes place.path = some place.document
  distinct : (tree.places.map Place.path).Nodup
  records : tree.records hints = tree.shownPlaces.map (Place.record hints)
  addresses : (tree.shownPlaces.map Place.address).Nodup
  urls : (tree.shownPlaces.map Place.url).Nodup
  found : ∀ place ∈ tree.shownPlaces, ∀ before after,
    tree.document? (slashes before ++ place.address ++ slashes after) = some place.document
  collected : ∀ address document, tree.document? address = some document →
    (∀ key ∈ ContentTree.segments address, isPassedOver key = false) →
      tree.shownPlaces.filter
          (fun place => place.address = String.ofList (stripSlashes address.toList)) =
        [⟨ContentTree.segments address, document⟩]

/-- The address of a place, with slashes around it, has the keys of the way to the place. -/
theorem segments_address {tree : ContentTree} (slugs : tree.SlugKeys) {place : Place}
    (member : place ∈ tree.places) (before after : Nat) :
    ContentTree.segments (slashes before ++ place.address ++ slashes after) = place.path := by
  obtain ⟨_, _, _, pathEq⟩ := exists_cons_of_mem_placesIn member
  exact segments_padded (by simp [pathEq])
    (areSlugs_of_mem_placesIn tree.nodes slugs.1 slugs.2 place member) before after

/-- Different ways have different addresses. -/
theorem nodup_addresses {tree : ContentTree} (distinct : tree.DistinctKeys)
    (slugs : tree.SlugKeys) : (tree.places.map Place.address).Nodup := by
  refine List.Nodup.of_map ContentTree.segments ?_
  have same : (tree.places.map Place.address).map ContentTree.segments =
      tree.places.map Place.path := by
    rw [List.map_map]
    refine List.map_congr_left fun place member => ?_
    simpa [slashes] using segments_address slugs member 0 0
  rw [same]
  exact nodup_placesIn tree.nodes distinct.1 distinct.2

/-- In a tree with distinct keys that are no addresses themselves, collecting and looking up reach
the same documents. -/
theorem records_collectsWhatIsFound (hints : Option PropertyHints) {tree : ContentTree}
    (distinct : tree.DistinctKeys) (slugs : tree.SlugKeys) : CollectsWhatIsFound hints tree := by
  have places : ∀ place, place ∈ tree.places ↔
      documentAt tree.nodes place.path = some place.document :=
    fun place => mem_placesIn_iff place.path place.document tree.nodes distinct.1 distinct.2
  have shownIsPlace : ∀ place ∈ tree.shownPlaces, place ∈ tree.places :=
    fun place member => (List.mem_filter.mp member).1
  have addresses : (tree.shownPlaces.map Place.address).Nodup :=
    (nodup_addresses distinct slugs).sublist (List.filter_sublist.map _)
  refine ⟨places, nodup_placesIn tree.nodes distinct.1 distinct.2, ?_, addresses, ?_, ?_, ?_⟩
  · rw [ContentTree.records, collectNodes_eq hints tree.nodes "" slugs.1 slugs.2]
    rfl
  · have same : tree.shownPlaces.map Place.url =
        (tree.shownPlaces.map Place.address).map fun address => some (.text ("/" ++ address)) := by
      rw [List.map_map]
      exact List.map_congr_left fun place _ => place.url_eq
    rw [same]
    refine addresses.map fun left right equality => ?_
    simpa using equality
  · intro place member before after
    rw [ContentTree.document?, segments_address slugs (shownIsPlace place member)]
    exact (places place).mp (shownIsPlace place member)
  · intro address document found shown
    have isPlace : (⟨ContentTree.segments address, document⟩ : Place) ∈ tree.shownPlaces := by
      refine List.mem_filter.mpr ⟨(places _).mpr found, ?_⟩
      exact List.all_eq_true.mpr fun key member => by rw [shown key member]; rfl
    have unique := filter_eq_singleton addresses isPlace
    rwa [show Place.address ⟨ContentTree.segments address, document⟩ =
      String.ofList (stripSlashes address.toList) from intercalate_segments address] at unique

/-- A folder with a note, an index page and a folder of the same name as the note beside it. -/
def shelvedTree : ContentTree :=
  ⟨[("index", .document ⟨"index.md", .empty⟩),
    ("a", .folder none
      [("a", .document ⟨"a/a.md", .empty⟩), ("index", .folder none
        [("b", .document ⟨"a/index/b.md", .empty⟩)])])]⟩

theorem records_collectsWhatIsFound_shelved :
    shelvedTree.DistinctKeys ∧ shelvedTree.SlugKeys ∧
      shelvedTree.shownPlaces = [⟨["a", "a"], ⟨"a/a.md", .empty⟩⟩] ∧
      (shelvedTree.document? "//a/a/").map Document.path = some "a/a.md" := by
  have distinct : shelvedTree.DistinctKeys := by
    simp [ContentTree.DistinctKeys, ContentTree.LevelsSatisfy, ContentNode.BelowSatisfy,
      ContentNode.LevelsSatisfy, ContentTree.keys, shelvedTree, Entries.keys]
  have slugs : shelvedTree.SlugKeys := by
    simp [ContentTree.SlugKeys, ContentTree.LevelsSatisfy, ContentNode.BelowSatisfy,
      ContentNode.LevelsSatisfy, ContentTree.keys, shelvedTree, Entries.keys, AreSlugs, IsSlug]
  have shown : shelvedTree.shownPlaces = [⟨["a", "a"], ⟨"a/a.md", .empty⟩⟩] := rfl
  have found := (records_collectsWhatIsFound none distinct slugs).found
    ⟨["a", "a"], ⟨"a/a.md", .empty⟩⟩ (by simp [shown]) 2 1
  exact ⟨distinct, slugs, shown, congrArg (Option.map Document.path) found⟩

end NoteBase
