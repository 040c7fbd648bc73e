import NoteBase.Proofs.Json.Legible

/-!
# JSON values are read as they are written

The text of a value on one line is read as a node with the same items and the same keys, as long as
the reader allows for its nesting. It is read as the value itself if its scalars are read as they
are written.
-/

namespace NoteBase.Json

/-! ## Values with a bound on their nesting -/

/-- Every scalar of a value has a property. -/
inductive Every (holds : Scalar → Prop) : Json → Prop
  | scalar {value : Scalar} (here : holds value) : Every holds (.scalar value)
  | array {items : List Json} (inside : ∀ item ∈ items, Every holds item) :
      Every holds (.array items)
  | object {members : List (String × Json)} (inside : ∀ member ∈ members, Every holds member.2) :
      Every holds (.object members)

theorem Every.imp {holds others : Scalar → Prop} {json : Json} (every : json.Every holds)
    (implies : ∀ scalar, holds scalar → others scalar) : json.Every others := by
  induction every with
  | scalar here => exact .scalar (implies _ here)
  | array _ inductionHypothesis => exact .array inductionHypothesis
  | object _ inductionHypothesis => exact .object inductionHypothesis

theorem Every.and {holds others : Scalar → Prop} {json : Json} (every : json.Every holds)
    (everyOther : json.Every others) : json.Every fun scalar => holds scalar ∧ others scalar := by
  induction every with
  | scalar here =>
      cases everyOther with
      | scalar there => exact .scalar ⟨here, there⟩
  | array _ inductionHypothesis =>
      cases everyOther with
      | array inside =>
          exact .array fun item member => inductionHypothesis item member (inside item member)
  | object _ inductionHypothesis =>
      cases everyOther with
      | object inside =>
          exact .object fun member isMember =>
            inductionHypothesis member isMember (inside member isMember)

theorem Every.fitsWord {json : Json} (held : json.Every IsHeld) : json.Every FitsWord :=
  held.imp fun scalar here => by
    cases scalar with
    | integer _ => exact here
    | null => trivial
    | bool _ => trivial
    | float _ => trivial
    | text _ => trivial

/-- A value has at most so many arrays and objects below each other. -/
inductive Nested : Nat → Json → Prop
  | scalar {depth : Nat} {value : Scalar} : Nested depth (.scalar value)
  | array {depth : Nat} {items : List Json} (inside : ∀ item ∈ items, Nested depth item) :
      Nested (depth + 1) (.array items)
  | object {depth : Nat} {members : List (String × Json)}
      (inside : ∀ member ∈ members, Nested depth member.2) : Nested (depth + 1) (.object members)

section Constructors

variable {holds : Scalar → Prop} {depth : Nat} {value : Scalar} {items : List Json}
  {members : List (String × Json)}

@[simp]
theorem every_scalar_iff : (scalar value).Every holds ↔ holds value := by
  constructor
  · intro every
    cases every with
    | scalar here => exact here
  · exact .scalar

@[simp]
theorem every_array_iff : (array items).Every holds ↔ ∀ item ∈ items, item.Every holds := by
  constructor
  · intro every
    cases every with
    | array inside => exact inside
  · exact .array

@[simp]
theorem every_object_iff :
    (object members).Every holds ↔ ∀ member ∈ members, member.2.Every holds := by
  constructor
  · intro every
    cases every with
    | object inside => exact inside
  · exact .object

@[simp]
theorem nested_scalar : (scalar value).Nested depth :=
  .scalar

@[simp]
theorem nested_array_iff :
    (array items).Nested (depth + 1) ↔ ∀ item ∈ items, item.Nested depth := by
  constructor
  · intro nested
    cases nested with
    | array inside => exact inside
  · exact .array

@[simp]
theorem nested_object_iff :
    (object members).Nested (depth + 1) ↔ ∀ member ∈ members, member.2.Nested depth := by
  constructor
  · intro nested
    cases nested with
    | object inside => exact inside
  · exact .object

end Constructors

/-- A value that is nested no deeper than a bound and whose integers are words. -/
structure Fits (depth : Nat) (json : Json) : Prop where
  nested : json.Nested depth
  words : json.Every FitsWord

namespace Fits

variable {depth : Nat}

theorem text (value : String) : (Json.text value).Fits depth :=
  ⟨.scalar, .scalar trivial⟩

theorem array {items : List Json} (inside : ∀ item ∈ items, item.Fits depth) :
    (Json.array items).Fits (depth + 1) :=
  ⟨.array fun item member => (inside item member).nested,
    .array fun item member => (inside item member).words⟩

theorem object {members : List (String × Json)} (inside : ∀ member ∈ members, member.2.Fits depth) :
    (Json.object members).Fits (depth + 1) :=
  ⟨.object fun member isMember => (inside member isMember).nested,
    .object fun member isMember => (inside member isMember).words⟩

end Fits

/-! ## Beginnings and ends -/

theorem skipBlanks_cons {char : Char} {rest : List Char} (noBlank : isBlank char = false) :
    skipBlanks (char :: rest) = char :: rest := by
  rw [skipBlanks, List.dropWhile_cons, noBlank]
  rfl

theorem chars_start (json : Json) :
    ∃ char rest, json.chars = char :: rest ∧ isBlank char = false ∧ char ≠ ']' := by
  cases json with
  | scalar value =>
      obtain ⟨char, rest, same, noBlank, noBracket⟩ := scalarChars_start value
      exact ⟨char, rest, same, noBlank, fun closes => noBracket (by rw [closes]; decide)⟩
  | array items =>
      cases items <;> exact ⟨'[', _, rfl, by decide, by decide⟩
  | object members =>
      cases members <;> exact ⟨'{', _, rfl, by decide, by decide⟩

theorem endsNumber_itemsChars (items : List Json) (rest : List Char) :
    EndsNumber (itemsChars items ++ ']' :: rest) := by
  cases items <;> exact endsNumber_cons (by decide)

theorem endsNumber_membersChars (members : List (String × Json)) (rest : List Char) :
    EndsNumber (membersChars members ++ '}' :: rest) := by
  cases members <;> exact endsNumber_cons (by decide)

/-! ## Values -/

mutual

/-- The node that the text of a value is read as. -/
def readAs : Json → Node
  | .scalar value => .scalar (atomRead value)
  | .array items => .list true (itemsReadAs items)
  | .object members => .map (membersReadAs members)

def itemsReadAs : List Json → List Node
  | [] => []
  | item :: rest => readAs item :: itemsReadAs rest

def membersReadAs : List (String × Json) → List (Node × Node)
  | [] => []
  | (key, value) :: rest => (.scalar (.ofText key), readAs value) :: membersReadAs rest

end

/-- A value is taken from the front, whatever follows, if there is fuel for twice its length. -/
def IsTakenBack (depth : Nat) (json : Json) : Prop :=
  ∀ (fuel : Nat) (rest : List Char), 2 * json.chars.length ≤ fuel → EndsNumber rest →
    takeValue? fuel depth (json.chars ++ rest) = some (readAs json, rest)

theorem takeItems?_chars {depth : Nat} (items : List Json) (rest : List Char) {item : Json}
    (first : IsTakenBack depth item) (others : ∀ item ∈ items, IsTakenBack depth item)
    (fuel : Nat) (enough : 2 * (item.chars.length + (itemsChars items).length) < fuel) :
    takeItems? fuel depth (item.chars ++ (itemsChars items ++ ']' :: rest)) =
      some (itemsReadAs (item :: items), rest) := by
  induction items generalizing item fuel with
  | nil =>
      obtain ⟨fuel, rfl⟩ := Nat.exists_eq_add_one.mpr (Nat.zero_lt_of_lt enough)
      simp only [itemsChars, List.length_nil, List.nil_append] at enough ⊢
      rw [takeItems?, first fuel _ (by omega) (endsNumber_cons (by decide))]
      rfl
  | cons next items inductionHypothesis =>
      obtain ⟨fuel, rfl⟩ := Nat.exists_eq_add_one.mpr (Nat.zero_lt_of_lt enough)
      have ends := endsNumber_itemsChars (next :: items) rest
      have firstTaken := first fuel _ (by omega) ends
      obtain ⟨nextTaken, othersTaken⟩ := List.forall_mem_cons.mp others
      simp only [itemsChars, List.length_cons, List.length_append] at enough
      have restTaken := inductionHypothesis nextTaken othersTaken fuel (by omega)
      rw [takeItems?, firstTaken]
      simp only [itemsChars, List.cons_append, List.append_assoc, Option.bind_eq_bind,
        Option.bind_some]
      rw [skipBlanks_cons (by decide)]
      simp only [restTaken, Option.bind_some]
      rfl

theorem takeKey?_quotedChars (key : String) (rest : List Char) :
    takeKey? (quotedChars key ++ ':' :: rest) = some (.ofText key, rest) := by
  have start : skipBlanks (quotedChars key ++ ':' :: rest) = quotedChars key ++ ':' :: rest :=
    skipBlanks_cons (by decide)
  rw [takeKey?, start, takeQuoted?_quotedChars]
  rfl

theorem takeMembers?_chars {depth : Nat} (members : List (String × Json)) (rest : List Char)
    (key : String) {value : Json} (first : IsTakenBack depth value)
    (others : ∀ member ∈ members, IsTakenBack depth member.2) (fuel : Nat)
    (enough : 2 * (value.chars.length + (membersChars members).length) < fuel) :
    takeMembers? fuel depth
        (quotedChars key ++ ':' :: (value.chars ++ (membersChars members ++ '}' :: rest))) =
      some (membersReadAs ((key, value) :: members), rest) := by
  induction members generalizing key value fuel with
  | nil =>
      obtain ⟨fuel, rfl⟩ := Nat.exists_eq_add_one.mpr (Nat.zero_lt_of_lt enough)
      simp only [membersChars, List.length_nil, List.nil_append] at enough ⊢
      rw [takeMembers?, takeKey?_quotedChars]
      simp only [Option.bind_eq_bind, Option.bind_some]
      rw [first fuel _ (by omega) (endsNumber_cons (by decide))]
      rfl
  | cons next members inductionHypothesis =>
      obtain ⟨nextKey, nextValue⟩ := next
      obtain ⟨fuel, rfl⟩ := Nat.exists_eq_add_one.mpr (Nat.zero_lt_of_lt enough)
      have ends := endsNumber_membersChars ((nextKey, nextValue) :: members) rest
      have firstTaken := first fuel _ (by omega) ends
      obtain ⟨nextTaken, othersTaken⟩ := List.forall_mem_cons.mp others
      simp only [membersChars, List.length_cons, List.length_append] at enough
      have restTaken := inductionHypothesis nextKey nextTaken othersTaken fuel
        (by simp only; omega)
      rw [takeMembers?, takeKey?_quotedChars]
      simp only [Option.bind_eq_bind, Option.bind_some]
      rw [firstTaken]
      simp only [membersChars, List.cons_append, List.append_assoc, Option.bind_some]
      rw [skipBlanks_cons (by decide)]
      simp only [restTaken, Option.bind_some]
      rfl

theorem isTakenBack {depth : Nat} {json : Json} (nested : json.Nested depth) :
    IsTakenBack depth json := by
  induction nested with
  | @scalar depth value =>
      obtain ⟨char, others, same, noBlank, noBracket⟩ := scalarChars_start value
      intro fuel rest enough ends
      have taken := takeAtom?_atomRead value ends
      simp only [chars] at enough ⊢
      rw [same] at enough taken ⊢
      obtain ⟨fuel, rfl⟩ := Nat.exists_eq_add_one.mpr
        (Nat.lt_of_lt_of_le (by simp only [List.length_cons]; omega) enough)
      rw [List.cons_append] at taken ⊢
      rw [takeValue?, skipBlanks_cons noBlank]
      split
      · next opens =>
        exact absurd (by rw [(List.cons.inj opens).1]; decide) noBracket
      · next opens =>
        exact absurd (by rw [(List.cons.inj opens).1]; decide) noBracket
      · rw [taken]
        rfl
  | @array depth items inside inductionHypothesis =>
      intro fuel rest enough ends
      obtain ⟨fuel, rfl⟩ := Nat.exists_eq_add_one.mpr
        (Nat.lt_of_lt_of_le (by cases items <;> simp [chars]) enough)
      cases items with
      | nil =>
          rw [takeValue?]
          rfl
      | cons item items =>
          obtain ⟨first, others⟩ := List.forall_mem_cons.mp inductionHypothesis
          obtain ⟨char, front, same, noBlank, noClose⟩ := chars_start item
          simp only [chars, List.length_cons, List.length_append, List.length_nil] at enough
          have itemsTaken := takeItems?_chars items rest first others fuel (by omega)
          simp only [chars, List.cons_append, List.append_assoc, List.nil_append]
          rw [takeValue?, skipBlanks_cons (by decide)]
          simp only
          rw [same, List.cons_append] at itemsTaken ⊢
          rw [skipBlanks_cons noBlank]
          split
          · next closes =>
            exact absurd (List.cons.inj closes).1 noClose
          · rw [itemsTaken]
            rfl
  | @object depth members inside inductionHypothesis =>
      intro fuel rest enough ends
      obtain ⟨fuel, rfl⟩ := Nat.exists_eq_add_one.mpr
        (Nat.lt_of_lt_of_le (by cases members <;> simp [chars]) enough)
      cases members with
      | nil =>
          rw [takeValue?]
          rfl
      | cons member members =>
          obtain ⟨key, value⟩ := member
          obtain ⟨first, others⟩ := List.forall_mem_cons.mp inductionHypothesis
          simp only [chars, List.length_cons, List.length_append, List.length_nil] at enough
          have membersTaken := takeMembers?_chars members rest key first others fuel
            (by simp only; omega)
          simp only [chars, List.cons_append, List.append_assoc, List.nil_append]
          rw [takeValue?, skipBlanks_cons (by decide)]
          simp only
          have quoted : ∀ tail, skipBlanks (quotedChars key ++ tail) = quotedChars key ++ tail :=
            fun _ => skipBlanks_cons (by decide)
          rw [quoted]
          split
          · next closes =>
            exact absurd (List.cons.inj closes).1 (by decide)
          · rw [membersTaken]
            rfl

/-- The text of a value is read as a whole by a reader that allows for its nesting. -/
theorem takeValue?_chars {depth : Nat} {json : Json} (nested : json.Nested depth) :
    takeValue? (2 * json.chars.length + 1) depth json.chars = some (readAs json, []) := by
  have taken := isTakenBack nested (2 * json.chars.length + 1) [] (Nat.le_succ _) endsNumber_nil
  rwa [List.append_nil] at taken

/-- A value whose scalars are read as they are written is read as it is. -/
theorem readAs_of_written {json : Json} (written : json.Every IsWritten) :
    readAs json = Node.ofJson json := by
  induction written with
  | scalar here =>
      rw [readAs, atomRead_of_isWritten here, Node.ofJson]
  | @array items inside inductionHypothesis =>
      have same : itemsReadAs items = Node.ofItems items := by
        clear inside
        induction items with
        | nil =>
            rfl
        | cons item items restHypothesis =>
            obtain ⟨first, others⟩ := List.forall_mem_cons.mp inductionHypothesis
            rw [itemsReadAs, first, restHypothesis others, Node.ofItems]
      rw [readAs, same, Node.ofJson]
  | @object members inside inductionHypothesis =>
      have same : membersReadAs members = Node.ofMembers members := by
        clear inside
        induction members with
        | nil =>
            rfl
        | cons member members restHypothesis =>
            obtain ⟨key, value⟩ := member
            obtain ⟨first, others⟩ := List.forall_mem_cons.mp inductionHypothesis
            rw [membersReadAs, first, restHypothesis others, Node.ofMembers]
      rw [readAs, same, Node.ofJson]

/-- The text of a value is read as the node that the value stands for. -/
theorem nodeOfText?_compact {json : Json} (nested : json.Nested maxNesting)
    (written : json.Every IsWritten) :
    Node.ofJsonText? json.compact = some (Node.ofJson json) := by
  rw [Node.ofJsonText?, compact, String.toList_ofList, nodeOfChars?, takeValue?_chars nested,
    readAs_of_written written]
  rfl

end NoteBase.Json
