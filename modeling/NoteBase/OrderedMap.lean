/-!
# Ordered maps

Maps from text that keep their entries in the order in which the keys first came. Setting the value
of a key that is there already replaces the value and keeps the place.
-/

namespace NoteBase

universe u v

/-! ## Lists of entries -/

namespace Entries

variable {Item : Type u}

def keys (entries : List (String × Item)) : List String :=
  entries.map Prod.fst

def find? (key : String) : List (String × Item) → Option Item
  | [] => none
  | (name, item) :: rest => if name = key then some item else find? key rest

/-- Replaces the value of a key in its place, or adds the key at the end. -/
def insert (key : String) (item : Item) : List (String × Item) → List (String × Item)
  | [] => [(key, item)]
  | (name, other) :: rest =>
    if name = key then (key, item) :: rest else (name, other) :: insert key item rest

/-- Drops every entry with a key; the others keep their order. -/
def erase (key : String) (entries : List (String × Item)) : List (String × Item) :=
  entries.filter fun entry => entry.1 ≠ key

/-- Inserts entries one after another, so that of several with one key the last value stays in the
first place. -/
def collect (entries : List (String × Item)) : List (String × Item) :=
  entries.foldl (fun collected (key, item) => insert key item collected) []

theorem mem_keys_cons {key : String} {entry : String × Item} {rest : List (String × Item)} :
    key ∈ keys (entry :: rest) ↔ key = entry.1 ∨ key ∈ keys rest :=
  List.mem_cons

/-- Inserting keeps the keys, and adds the key at the end if it is new. -/
theorem keys_insert (key : String) (item : Item) (entries : List (String × Item)) :
    keys (insert key item entries) =
      if key ∈ keys entries then keys entries else keys entries ++ [key] := by
  induction entries with
  | nil => simp [keys, insert]
  | cons head rest inductionHypothesis =>
    obtain ⟨name, other⟩ := head
    by_cases same : name = key
    · subst same
      simp [keys, insert]
    · have different : ¬ key = name := fun equality => same equality.symm
      simp only [keys, insert, if_neg same, List.map_cons, List.mem_cons, different,
        false_or] at inductionHypothesis ⊢
      rw [inductionHypothesis]
      split <;> simp_all

theorem isSome_find?_iff (key : String) (entries : List (String × Item)) :
    (find? key entries).isSome = true ↔ key ∈ keys entries := by
  induction entries with
  | nil => simp [keys, find?]
  | cons head rest inductionHypothesis =>
    obtain ⟨name, item⟩ := head
    by_cases same : name = key
    · simp [keys, find?, same]
    · have different : ¬ key = name := fun equality => same equality.symm
      simpa [keys, find?, same, different] using inductionHypothesis

theorem find?_insert (key name : String) (item : Item) (entries : List (String × Item)) :
    find? name (insert key item entries) =
      if name = key then some item else find? name entries := by
  induction entries with
  | nil =>
    simp [find?, insert, eq_comm]
  | cons head rest inductionHypothesis =>
    obtain ⟨other, value⟩ := head
    by_cases same : other = key
    · subst same
      simp only [insert, if_true, find?, eq_comm]
      split <;> rfl
    · rw [insert, if_neg same, find?, find?, inductionHypothesis]
      by_cases found : other = name
      · rw [if_pos found, if_neg fun equality => same (found.trans equality), if_pos found]
      · rw [if_neg found, if_neg found]

/-- Among entries with different keys, a key has the item that stands with it. -/
theorem find?_eq_some_iff {key : String} {item : Item} {entries : List (String × Item)}
    (nodup : (keys entries).Nodup) : find? key entries = some item ↔ (key, item) ∈ entries := by
  induction entries with
  | nil =>
    simp [find?]
  | cons head rest inductionHypothesis =>
    obtain ⟨name, value⟩ := head
    obtain ⟨absent, restNodup⟩ := List.nodup_cons.mp nodup
    rw [find?, List.mem_cons, Prod.mk.injEq]
    by_cases same : name = key
    · subst same
      have notInside : (name, item) ∉ rest :=
        fun member => absent (List.mem_map.mpr ⟨(name, item), member, rfl⟩)
      simp [notInside, eq_comm]
    · have different : ¬ key = name := fun equality => same equality.symm
      simp [same, different, inductionHypothesis restNodup]

theorem nodup_keys_insert {key : String} {item : Item} {entries : List (String × Item)}
    (nodup : (keys entries).Nodup) : (keys (insert key item entries)).Nodup := by
  rw [keys_insert]
  split
  · exact nodup
  · next absent =>
    rw [List.nodup_append]
    refine ⟨nodup, by simp, ?_⟩
    intro name member other single
    simp only [List.mem_singleton] at single
    subst single
    exact fun equality => absent (equality ▸ member)

theorem nodup_keys_erase {key : String} {entries : List (String × Item)}
    (nodup : (keys entries).Nodup) : (keys (erase key entries)).Nodup :=
  nodup.sublist (List.Sublist.map _ List.filter_sublist)

theorem nodup_keys_foldl (added entries : List (String × Item)) (nodup : (keys entries).Nodup) :
    (keys (added.foldl (fun collected (key, item) => insert key item collected)
      entries)).Nodup := by
  induction added generalizing entries with
  | nil => exact nodup
  | cons head rest inductionHypothesis =>
    exact inductionHypothesis _ (nodup_keys_insert nodup)

theorem nodup_keys_collect (entries : List (String × Item)) : (keys (collect entries)).Nodup :=
  nodup_keys_foldl entries [] List.nodup_nil

theorem mem_of_mem_insert {key : String} {item : Item} {entry : String × Item}
    {entries : List (String × Item)} (member : entry ∈ insert key item entries) :
    entry = (key, item) ∨ entry ∈ entries := by
  induction entries with
  | nil => exact .inl (List.mem_singleton.mp member)
  | cons head rest inductionHypothesis =>
    obtain ⟨name, other⟩ := head
    rw [insert] at member
    split at member
    · exact (List.mem_cons.mp member).imp_right (List.mem_cons_of_mem _)
    · rcases List.mem_cons.mp member with rfl | inRest
      · exact .inr List.mem_cons_self
      · exact (inductionHypothesis inRest).imp_right (List.mem_cons_of_mem _)

/-- Collecting entries gives no others. -/
theorem mem_of_mem_collect {entry : String × Item} {entries : List (String × Item)}
    (member : entry ∈ collect entries) : entry ∈ entries := by
  have collected : ∀ (added before : List (String × Item)),
      entry ∈ added.foldl (fun collected (key, item) => insert key item collected) before →
        entry ∈ added ∨ entry ∈ before := by
    intro added
    induction added with
    | nil => exact fun before inBefore => .inr inBefore
    | cons head rest inductionHypothesis =>
      intro before inFold
      rcases inductionHypothesis _ inFold with inRest | inserted
      · exact .inl (List.mem_cons_of_mem _ inRest)
      · rcases mem_of_mem_insert inserted with rfl | inBefore
        · exact .inl List.mem_cons_self
        · exact .inr inBefore
  exact (collected entries [] member).resolve_right List.not_mem_nil

end Entries

/-! ## Maps -/

/-- A map from text to items, in the order in which its keys first came. -/
structure OrderedMap (Item : Type u) where
  entries : List (String × Item)
  nodup : (Entries.keys entries).Nodup

namespace OrderedMap

variable {Item : Type u} {Image : Type v}

def empty : OrderedMap Item :=
  ⟨[], List.nodup_nil⟩

/-- The map that results from inserting entries one after another. -/
def ofList (entries : List (String × Item)) : OrderedMap Item :=
  ⟨Entries.collect entries, Entries.nodup_keys_collect entries⟩

def keys (map : OrderedMap Item) : List String :=
  Entries.keys map.entries

def size (map : OrderedMap Item) : Nat :=
  map.entries.length

def isEmpty (map : OrderedMap Item) : Bool :=
  map.entries.isEmpty

def get? (map : OrderedMap Item) (key : String) : Option Item :=
  Entries.find? key map.entries

def contains (map : OrderedMap Item) (key : String) : Bool :=
  (map.get? key).isSome

/-- Sets the item of a key. A key that is there already keeps its place. -/
def insert (map : OrderedMap Item) (key : String) (item : Item) : OrderedMap Item :=
  ⟨Entries.insert key item map.entries, Entries.nodup_keys_insert map.nodup⟩

/-- Removes a key; the other entries keep their order. -/
def erase (map : OrderedMap Item) (key : String) : OrderedMap Item :=
  ⟨Entries.erase key map.entries, Entries.nodup_keys_erase map.nodup⟩

/-- Keeps the entries whose key satisfies a condition. -/
def filterKeys (map : OrderedMap Item) (keep : String → Bool) : OrderedMap Item :=
  ⟨map.entries.filter fun entry => keep entry.1,
    map.nodup.sublist (List.Sublist.map _ List.filter_sublist)⟩

def mapItems (map : OrderedMap Item) (image : String → Item → Image) : OrderedMap Image :=
  ⟨map.entries.map fun (key, item) => (key, image key item), by
    have same : Entries.keys (map.entries.map fun (key, item) => (key, image key item)) =
        Entries.keys map.entries := by
      simp [Entries.keys, Function.comp_def]
    rw [same]
    exact map.nodup⟩

@[simp]
theorem keys_insert (map : OrderedMap Item) (key : String) (item : Item) :
    (map.insert key item).keys = if key ∈ map.keys then map.keys else map.keys ++ [key] :=
  Entries.keys_insert key item map.entries

theorem get?_insert (map : OrderedMap Item) (key name : String) (item : Item) :
    (map.insert key item).get? name = if name = key then some item else map.get? name :=
  Entries.find?_insert key name item map.entries

theorem get?_eq_some_iff (map : OrderedMap Item) (key : String) (item : Item) :
    map.get? key = some item ↔ (key, item) ∈ map.entries :=
  Entries.find?_eq_some_iff map.nodup

theorem contains_iff (map : OrderedMap Item) (key : String) :
    map.contains key = true ↔ key ∈ map.keys :=
  Entries.isSome_find?_iff key map.entries

@[ext]
theorem ext {left right : OrderedMap Item} (same : left.entries = right.entries) :
    left = right := by
  cases left
  cases right
  cases same
  rfl

end OrderedMap

end NoteBase
