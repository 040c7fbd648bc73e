import NoteBase.Json.Basic
import NoteBase.Number.Binary
import NoteBase.OrderedMap

/-!
# Nodes of a read document

What is read from JSON or YAML text before it is given a meaning. A plain scalar of YAML keeps its
source, because a place that holds a text takes that source whatever it would stand for elsewhere.
Likewise a list of YAML does not stand for a structure, as one of JSON does. Once a node is settled,
only what its scalars stand for is left, and its lists are like those of JSON; a node is settled
before it is tried against several shapes.

A scalar may be well-formed but stand for nothing, such as a number that is too large. It does no
harm where it is passed over. Where it is taken, reading fails.
-/

namespace NoteBase

/-! ## Scalars -/

/-- A scalar as it is read: what it stands for in places of several kinds. -/
structure Atom where
  text : Option String
  /-- What it stands for where any value is expected. -/
  value : Option Scalar
  /-- Whether it counts as there where a part may be absent, if it can be decided. -/
  isPart : Option Bool
  /-- It stands for an empty collection where one is expected. -/
  isEmpty : Bool
deriving DecidableEq

namespace Atom

def ofScalar : Scalar → Atom
  | .text value => ⟨some value, some (.text value), some true, false⟩
  | .null => ⟨none, some .null, some false, false⟩
  | value => ⟨none, some value, some true, false⟩

def ofText (text : String) : Atom :=
  ofScalar (.text text)

def void : Atom := ⟨none, none, some true, false⟩

def settle? (atom : Atom) : Option Atom :=
  atom.value.map ofScalar

def isSignedInteger (atom : Atom) : Bool :=
  match atom.text, atom.value with
  | some source, some (.integer _) => source.toList.head? == some '-'
  | _, _ => false

end Atom

/-! ## Nodes -/

inductive Node where
  | scalar (atom : Atom)
  /-- A list; a positional one may give the fields of a structure in their order. -/
  | list (positional : Bool) (items : List Node)
  | map (entries : List (Node × Node))
  /-- A node with a tag of its own, which names a variant. -/
  | tagged (tag : String) (node : Node)

namespace Node

def void : Node :=
  .scalar .void

def null : Node :=
  .scalar (.ofScalar .null)

def untagged : Node → Node
  | .tagged _ node => node
  | node => node

/-- The text of a scalar that stands where a text is expected. -/
def text? (node : Node) : Option String :=
  match node.untagged with
  | .scalar atom => atom.text
  | _ => none

/-! ## From JSON and to JSON -/

mutual

def ofJson : Json → Node
  | .scalar value => .scalar (.ofScalar value)
  | .array items => .list true (ofItems items)
  | .object members => .map (ofMembers members)

def ofItems : List Json → List Node
  | [] => []
  | item :: rest => ofJson item :: ofItems rest

def ofMembers : List (String × Json) → List (Node × Node)
  | [] => []
  | (key, value) :: rest => (.scalar (.ofText key), ofJson value) :: ofMembers rest

end

/-- Sets a member of an object whose keys are sorted by code point. -/
def setMember (key : String) (value : Json) : List (String × Json) → List (String × Json)
  | [] => [(key, value)]
  | (name, other) :: rest =>
    if name = key then (key, value) :: rest
    else if key < name then (key, value) :: (name, other) :: rest
    else (name, other) :: setMember key value rest

/-- A scalar in JSON. A number that is not finite becomes null. -/
def jsonScalar (scalar : Scalar) : Scalar :=
  match scalar with
  | .float value => if Number.isFinite value then scalar else .null
  | _ => scalar

mutual

/-- The JSON value of a node. The keys of objects are sorted, and of several members with one key
the last is taken. There is none if a key is no text or a part stands for nothing. -/
def toJson? : Node → Option Json
  | .scalar atom => atom.value.map fun value => .scalar (jsonScalar value)
  | .list _ items => (toItems? items).map .array
  | .map entries => (toMembers? entries []).map .object
  | .tagged _ _ => none

def toItems? : List Node → Option (List Json)
  | [] => some []
  | item :: rest => do
    let json ← toJson? item
    let jsons ← toItems? rest
    some (json :: jsons)

/-- Sets the members of an object one after another. -/
def toMembers? : List (Node × Node) → List (String × Json) → Option (List (String × Json))
  | [], members => some members
  | (key, value) :: rest, members => do
    let name ← key.text?
    let json ← toJson? value
    toMembers? rest (setMember name json members)

end

/-! ## Settling -/

mutual

/-- Forgets the sources of plain scalars, and makes every list positional. A node with a tag or with
a part that stands for nothing cannot be settled. -/
def settle? : Node → Option Node
  | .scalar atom => atom.settle?.map .scalar
  | .list _ items => (settleItems? items).map (.list true)
  | .map entries => (settleEntries? entries).map .map
  | .tagged _ _ => none

def settleItems? : List Node → Option (List Node)
  | [] => some []
  | item :: rest => do
    let item ← settle? item
    let items ← settleItems? rest
    some (item :: items)

/-- Settles the entries of a mapping. An integer with a minus sign is no place of a field, not even
if it is zero, and becomes null as a key. -/
def settleEntries? : List (Node × Node) → Option (List (Node × Node))
  | [] => some []
  | (key, value) :: rest => do
    let settled ← settle? key
    let value ← settle? value
    let entries ← settleEntries? rest
    let isSigned := match key with
      | .scalar atom => atom.isSignedInteger
      | _ => false
    some ((if isSigned then null else settled, value) :: entries)

end

/-! ## Reading parts -/

/-- A part that may be absent: a scalar may say that it is. -/
def option? {Part : Type} (part? : Node → Option Part) (node : Node) : Option (Option Part) :=
  let isPart := match node with
    | .scalar atom => atom.isPart
    | _ => some true
  match isPart with
  | some true => (part? node).map some
  | some false => some none
  | none => none

/-- A list of parts. A scalar may stand for an empty one. -/
def list? {Part : Type} (part? : Node → Option Part) (node : Node) : Option (List Part) :=
  match node.untagged with
  | .list _ items => items.mapM part?
  | .scalar atom => if atom.isEmpty then some [] else none
  | _ => none

/-- The entries of a mapping. A scalar may stand for one without entries. -/
def entries? (node : Node) : Option (List (Node × Node)) :=
  match node.untagged with
  | .map entries => some entries
  | .scalar atom => if atom.isEmpty then some [] else none
  | _ => none

/-- The entries of a mapping whose keys have to be texts. -/
def members? (node : Node) : Option (List (String × Node)) := do
  (← node.entries?).mapM fun (key, value) => key.text?.map fun name => (name, value)

def mapping? {Part : Type} (part? : Node → Option Part) (node : Node) :
    Option (OrderedMap Part) := do
  let members ← node.members?
  let parts ← members.mapM fun (key, value) => (part? value).map fun part => (key, part)
  some (OrderedMap.ofList parts)

/-- The member with a name, which may be absent but not be there twice. -/
def member? (name : String) (members : List (String × Node)) : Option (Option Node) :=
  match members.filter fun member => member.1 = name with
  | [] => some none
  | [(_, value)] => some (some value)
  | _ => none

/-! ## Reading structures -/

/-- The key of a field of a structure: its name, or its place among the fields. -/
inductive FieldKey where
  | name (name : String)
  | place (place : Nat)
deriving DecidableEq

/-- The key of a field that a node stands for. An integer that is not negative is a place. -/
def fieldKey? (key : Node) : Option FieldKey :=
  match key.text?, key with
  | some name, _ => some (.name name)
  | none, .scalar atom =>
    match atom.value with
    | some (.integer place) => if 0 ≤ place then some (.place place.toNat) else none
    | _ => none
  | none, _ => none

/-- The field with a name and a place, which may be absent but not be there twice. -/
def field? {Part : Type} (name : String) (place : Nat) (fields : List (FieldKey × Part)) :
    Option (Option Part) :=
  match fields.filter fun field => field.1 = .name name ∨ field.1 = .place place with
  | [] => some none
  | [(_, part)] => some (some part)
  | _ => none

/-- The parts of a structure with named fields: each field's node, if it is there. The fields may
also be given by a positional list in their order. -/
def fields? (names : List String) (node : Node) : Option (List (Option Node)) :=
  match node.untagged with
  | .list positional items =>
    if positional && items.length ≤ names.length then
      some (items.map some ++ List.replicate (names.length - items.length) none)
    else none
  | _ => do
    let fields ← (← node.entries?).mapM fun (key, value) =>
      key.fieldKey?.map fun key => (key, value)
    names.zipIdx.mapM fun (name, place) => field? name place fields

def required? {Part : Type} (part? : Node → Option Part) (field : Option Node) : Option Part :=
  field.bind part?

/-- A field that has a value of its own if it is not there. -/
def defaulted? {Part : Type} (default : Part) (part? : Node → Option Part) (field : Option Node) :
    Option Part :=
  match field with
  | none => some default
  | some node => part? node

/-- The name of a variant: it stands alone, as the only key of a JSON object with null, or as the
tag of a null of YAML. -/
def variant? : Node → Option String
  | .scalar atom => atom.text
  | .map [(key, .scalar atom)] =>
    if atom.value = some .null ∧ atom.text = none then key.text? else none
  | .tagged tag (.scalar atom) => if atom.value = some .null then some tag else none
  | _ => none

end Node

end NoteBase
