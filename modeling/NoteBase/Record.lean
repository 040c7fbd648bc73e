import NoteBase.OrderedMap
import NoteBase.Value.Basic

/-!
# Records

A record holds the properties of one note in order. Expressions look a property up by its name;
where the name is no key, the extension of the file is derived from its path, and a name behind
`note.` stands for the property itself.
-/

namespace NoteBase

abbrev Record := OrderedMap Value

namespace Record

/-! ## Names of the properties of the file -/

def fileName : String := "file.name"

def filePath : String := "file.path"

def fileFullName : String := "file.fullname"

/-- The key of the address under which the note is shown. -/
def fileUrl : String := "file.url"

def fileExtension : String := "file.ext"

/-- What is in front of the name of a property of the note itself. -/
def notePrefix : List Char := "note.".toList

/-! ## Paths -/

/-- The part of a text behind the last occurrence of a character, and all of it if there is none. -/
def behindLast (mark : Char) (chars : List Char) : List Char :=
  (chars.reverse.takeWhile (· ≠ mark)).reverse

theorem behindLast_append {mark : Char} {back : List Char} (front : List Char)
    (absent : mark ∉ back) :
    behindLast mark (front ++ mark :: back) = back := by
  have stops : (mark :: front.reverse).takeWhile (· ≠ mark) = [] := by
    simp
  have whole : ∀ char ∈ back.reverse, decide (char ≠ mark) = true := by
    intro char member
    have inBack : char ∈ back := List.mem_reverse.mp member
    simp only [decide_eq_true_eq]
    exact fun equality => absent (equality ▸ inBack)
  simp only [behindLast, List.reverse_append, List.reverse_cons, List.append_assoc,
    List.singleton_append]
  rw [List.takeWhile_append_of_pos whole, stops]
  simp

/-- Where the part behind the last occurrence is not everything, that occurrence is in front of
it. -/
theorem eq_append_behindLast {mark : Char} {chars : List Char}
    (shorter : (behindLast mark chars).length < chars.length) :
    ∃ front, chars = front ++ mark :: behindLast mark chars := by
  have parts : chars.reverse.takeWhile (· ≠ mark) ++ chars.reverse.dropWhile (· ≠ mark) =
      chars.reverse := List.takeWhile_append_dropWhile
  cases dropped : chars.reverse.dropWhile (· ≠ mark) with
  | nil =>
      rw [dropped, List.append_nil] at parts
      rw [behindLast, parts, List.reverse_reverse] at shorter
      exact absurd shorter (Nat.lt_irrefl _)
  | cons found front =>
      have foundIsMark : found = mark := by
        have head := List.head?_dropWhile_not (· ≠ mark) chars.reverse
        rw [dropped] at head
        simpa using head
      refine ⟨front.reverse, ?_⟩
      have reversed := congrArg List.reverse parts
      rw [dropped, foundIsMark] at reversed
      simpa [behindLast] using reversed.symm

/-- The part of the last segment of a path behind its last point. -/
def extensionOf (path : List Char) : List Char :=
  let segment := behindLast '/' path
  if '.' ∈ segment then behindLast '.' segment else []

/-- The rest of a text behind a start that it has to have. -/
def dropPrefix? (start chars : List Char) : Option (List Char) :=
  if start.isPrefixOf chars then some (chars.drop start.length) else none

/-! ## Looking up -/

def lookup (record : Record) (name : String) : Option Value :=
  match record.get? name with
  | some value => some value
  | none =>
    if name = fileExtension then
      (record.get? filePath).map fun path => .text (String.ofList (extensionOf path.displayChars))
    else
      (dropPrefix? notePrefix name.toList).bind fun rest => record.get? (String.ofList rest)

def hasProperty (record : Record) (name : String) : Bool :=
  match record.lookup name with
  | some value => !value.isBlank
  | none => false

end Record

end NoteBase
