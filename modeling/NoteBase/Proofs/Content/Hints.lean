import NoteBase.Proofs.Content.Addresses
import NoteBase.Proofs.OrderedMap

/-!
# Collecting with type hints

Hints change values and nothing else. The records are those that are collected without hints, with
the same keys in the same order; a property of a note itself is converted, and what says where the
note is found stays as it is, also where it comes from the title. A value that is converted already
is left alone.
-/

namespace NoteBase

/-! ## Converting twice -/

namespace PropertyHint

theorem readPlainNumber_idempotent (value : Value) :
    readPlainNumber (readPlainNumber value) = readPlainNumber value := by
  cases value with
  | text written =>
      by_cases plain : Predicate.isPlainNumber (Text.trimChars written.toList) = true
      · have read : readPlainNumber (.text written) =
            .number (Predicate.plainNumber (Text.trimChars written.toList)) := by
          simp only [readPlainNumber, if_pos plain]
        rw [read]
        rfl
      · have kept : readPlainNumber (.text written) = .text written := by
          simp only [readPlainNumber, if_neg plain]
        rw [kept, kept]
  | null => rfl
  | bool _ => rfl
  | number _ => rfl
  | date _ => rfl
  | list _ => rfl

theorem convert_idempotent (hint : Option PropertyHint) (value : Value) :
    convert hint (convert hint value) = convert hint value := by
  have asText : ∀ text : String, Value.text (Value.text text).display = .text text :=
    fun text => congrArg Value.text String.ofList_toList
  rcases hint with _ | hint
  · exact readPlainNumber_idempotent value
  cases hint with
  | text => exact asText value.display
  | multitext => exact asText value.display
  | other => exact readPlainNumber_idempotent value
  | number =>
      by_cases noNumber : Number.isNaN value.toNumber = true
      · have kept : convert (some .number) value = value := if_pos noNumber
        rw [kept, kept]
      · have read : convert (some .number) value = .number value.toNumber := if_neg noNumber
        rw [read]
        exact if_neg noNumber

end PropertyHint

namespace PropertyHints

variable (hints : PropertyHints) (property : String)

theorem convert_null : hints.convert property .null = .null :=
  rfl

theorem convert_idempotent (value : Value) :
    hints.convert property (hints.convert property value) = hints.convert property value := by
  have again : hints.convert property value = value ∨ hints.convert property value =
      PropertyHint.convert (hints.get? property) value := by
    unfold convert
    split
    · exact .inl rfl
    · exact .inr rfl
  rcases again with kept | converted
  · rw [kept, kept]
  · rw [converted]
    unfold convert
    split
    · rfl
    · exact PropertyHint.convert_idempotent _ value

end PropertyHints

/-! ## Records of documents -/

namespace Document

/-- The keys that say where a note is found. -/
def identityKeys : List String :=
  [Record.fileName, Record.filePath, Record.fileFullName, Record.fileUrl]

theorem keys_identity (document : Document) (key address : String) :
    Entries.keys (document.identity key address) = identityKeys :=
  rfl

theorem nodup_identity (document : Document) (key address : String) :
    (Entries.keys (document.identity key address)).Nodup := by
  rw [keys_identity]
  decide

section Records

variable (hints : Option PropertyHints) (document : Document) (key address : String)

theorem toRecord_eq : document.toRecord hints key address =
    OrderedMap.ofList (document.identity key address ++
      (document.properties.mapItems (propertyValue hints)).entries) :=
  rfl

theorem get?_toRecord (name : String) :
    (document.toRecord hints key address).get? name =
      ((document.properties.get? name).map (propertyValue hints name)).or
        (Entries.find? name (document.identity key address)) := by
  rw [toRecord_eq, OrderedMap.get?_ofList_append (nodup_identity _ _ _), OrderedMap.get?_mapItems]

theorem keys_toRecord : (document.toRecord hints key address).keys =
    identityKeys ++ document.properties.keys.filter fun name => name ∉ identityKeys := by
  rw [toRecord_eq, OrderedMap.keys_ofList_append (nodup_identity _ _ _), OrderedMap.keys_mapItems]
  rfl

end Records

/-- A title that is truthy, and a key in its place otherwise. -/
def titleOr (title : Option Value) (key : String) : Value :=
  match title with
  | some title => if title.isTruthy then title else .text key
  | none => .text key

theorem nameOf_eq (document : Document) (key : String) :
    document.nameOf key = titleOr ((document.properties.get? titleKey).map Value.ofJson) key := by
  unfold nameOf titleOr
  cases document.properties.get? titleKey <;> rfl

end Document

/-! ## Plain and converted records -/

/-- How the converted record of a document differs from its plain one. -/
structure ConvertsProperties (hints : PropertyHints) (place : Place) (plain converted : Record) :
    Prop where
  keys : converted.keys = plain.keys
  properties : ∀ property json, place.document.properties.get? property = some json →
    plain.get? property = some (.ofJson json) ∧
      converted.get? property = some (hints.convert property (.ofJson json))
  others : ∀ name, name ∉ place.document.properties.keys →
    converted.get? name = plain.get? name
  identity : ∀ name ∈ plain.keys, name ∉ place.document.properties.keys →
    name ∈ Document.identityKeys
  name : Record.fileName ∉ place.document.properties.keys →
    converted.get? Record.fileName =
      some (Document.titleOr (plain.get? Document.titleKey) place.key)

theorem convertsProperties_recordFrom (hints : PropertyHints) (folder : String) (place : Place) :
    ConvertsProperties hints place (place.recordFrom none folder)
      (place.recordFrom (some hints) folder) := by
  obtain ⟨path, document⟩ := place
  have absent : ∀ {name : String}, name ∉ document.properties.keys →
      document.properties.get? name = none :=
    fun notProperty => Entries.find?_eq_none_iff.mpr notProperty
  simp only [Place.recordFrom]
  refine ⟨?_, ?_, ?_, ?_, ?_⟩
  · rw [Document.keys_toRecord, Document.keys_toRecord]
  · intro property json found
    rw [Document.get?_toRecord, Document.get?_toRecord, found]
    exact ⟨rfl, rfl⟩
  · intro name notProperty
    rw [Document.get?_toRecord, Document.get?_toRecord, absent notProperty]
    rfl
  · intro name member notProperty
    rw [Document.keys_toRecord] at member
    exact (List.mem_append.mp member).resolve_right fun kept =>
      notProperty (List.mem_of_mem_filter kept)
  · intro notProperty
    have title : Entries.find? Document.titleKey (document.identity
        (Place.key ⟨path, document⟩) (path.foldl addressIn folder)) = none := by
      rw [Entries.find?_eq_none_iff, Document.keys_identity]
      decide
    rw [Document.get?_toRecord, Document.get?_toRecord, absent notProperty, title, Option.or_none,
      Option.map_none, Option.none_or]
    exact congrArg some (document.nameOf_eq _)

/-- Collecting with hints gives the records that collecting without them gives, in the same order,
with the properties of the notes converted. Converting again changes nothing, and null stays
null. -/
theorem records_convertsProperties (hints : PropertyHints) (tree : ContentTree) :
    (tree.records (some hints)).length = (tree.records none).length ∧
      (∀ (index : Nat) (plain converted : Record), (tree.records none)[index]? = some plain →
        (tree.records (some hints))[index]? = some converted →
          ∃ place, tree.shownPlaces[index]? = some place ∧ plain = place.recordFrom none "" ∧
            ConvertsProperties hints place plain converted) ∧
      (∀ property value, hints.convert property (hints.convert property value) =
        hints.convert property value) ∧
      ∀ property, hints.convert property .null = .null := by
  rw [tree.records_eq none, tree.records_eq (some hints)]
  refine ⟨by simp, ?_, hints.convert_idempotent, hints.convert_null⟩
  intro index plain converted plainAt convertedAt
  rw [List.getElem?_map, Option.map_eq_some_iff] at plainAt convertedAt
  obtain ⟨place, placeAt, rfl⟩ := plainAt
  obtain ⟨other, otherAt, rfl⟩ := convertedAt
  obtain rfl : place = other := Option.some.inj (placeAt.symm.trans otherAt)
  exact ⟨place, placeAt, rfl, convertsProperties_recordFrom hints "" place⟩

/-- A note whose title is a plain number and which says itself what its address is. -/
def numberedDocument : Document :=
  ⟨"1984.md", .ofList [("title", .text "1984"), (Record.fileUrl, .text "7"),
    ("rating", .integer 4)]⟩

def numberedTree : ContentTree :=
  ⟨[("novel", .document numberedDocument)]⟩

def ratingAsText : PropertyHints :=
  .ofList [("rating", .text)]

/-- The hint makes the rating a text. The name comes from the title, which stays one. -/
theorem records_convertsProperties_numbered :
    ∃ place, numberedTree.shownPlaces[0]? = some place ∧
      ConvertsProperties ratingAsText place (numberedDocument.toRecord none "novel" "novel")
        (numberedDocument.toRecord (some ratingAsText) "novel" "novel") ∧
      (numberedDocument.toRecord (some ratingAsText) "novel" "novel").get? Record.fileName =
        some (.text "1984") ∧
      (numberedDocument.toRecord none "novel" "novel").get? "rating" =
        some (.number (.ofInt 4)) ∧
      (numberedDocument.toRecord (some ratingAsText) "novel" "novel").get? "rating" =
        some (.text "4") := by
  obtain ⟨place, placeAt, _, converts⟩ :=
    (records_convertsProperties ratingAsText numberedTree).2.1 0 _ _ rfl rfl
  obtain rfl : ⟨["novel"], numberedDocument⟩ = place := Option.some.inj placeAt
  obtain ⟨plain, converted⟩ := converts.properties "rating" (.integer 4) rfl
  exact ⟨_, placeAt, converts, rfl, plain, converted⟩

end NoteBase
