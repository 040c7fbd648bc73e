/-!
# Options of the command line

The content and the base have to be given, and may be joined by the name of a view, by type hints
and by the wish for pretty output. The value of an option is the next argument, or is attached to
the option: to its long name by an equals sign, to its short name with or without one. Every option
is given at most once, and there are no other arguments.
-/

namespace NoteBase.CommandLine

structure Options where
  content : String
  base : String
  view : Option String
  types : Option String
  pretty : Bool
deriving DecidableEq

inductive ValueOption where
  | content
  | base
  | view
  | types
deriving DecidableEq

namespace ValueOption

def name : ValueOption → String
  | .content => "content"
  | .base => "base"
  | .view => "view"
  | .types => "types"

def letter : ValueOption → Char
  | .content => 'c'
  | .base => 'b'
  | .view => 'v'
  | .types => 't'

def all : List ValueOption :=
  [.content, .base, .view, .types]

/-- A value that the option can have: the path of a file is not empty. -/
def accepts (option : ValueOption) (value : String) : Bool :=
  match option with
  | .content | .types => value ≠ ""
  | .base | .view => true

end ValueOption

/-! ## Arguments -/

inductive Argument where
  /-- An option, with the value that is attached to it. -/
  | option (which : ValueOption) (attached : Option (List Char))
  | pretty
  /-- Two dashes, behind which there are no options. -/
  | separator
  | other
deriving DecidableEq

namespace Argument

def behindEquals : List Char → Option (List Char)
  | '=' :: value => some value
  | _ => none

def ofLong (chars : List Char) : Argument :=
  let name := String.ofList (chars.takeWhile (· ≠ '='))
  let attached := behindEquals (chars.dropWhile (· ≠ '='))
  if chars.isEmpty then .separator
  else if name = "pretty" ∧ attached = none then .pretty
  else
    match ValueOption.all.find? fun option => option.name == name with
    | some found => .option found attached
    | none => .other

def ofShort (letter : Char) (rest : List Char) : Argument :=
  match ValueOption.all.find? fun option => option.letter == letter with
  | some found =>
    .option found (if rest.isEmpty then none else some ((behindEquals rest).getD rest))
  | none => .other

/-- What an argument says. A single dash is no option. -/
def ofChars : List Char → Argument
  | '-' :: '-' :: chars => ofLong chars
  | '-' :: letter :: rest => ofShort letter rest
  | _ => .other

/-- An argument that can be the value of the option in front of it. -/
def isValue : List Char → Bool
  | '-' :: _ :: _ => false
  | _ => true

end Argument

/-! ## Collecting -/

structure Draft where
  content : Option String := none
  base : Option String := none
  view : Option String := none
  types : Option String := none
  pretty : Bool := false

namespace Draft

def get (draft : Draft) : ValueOption → Option String
  | .content => draft.content
  | .base => draft.base
  | .view => draft.view
  | .types => draft.types

def put (draft : Draft) (value : String) : ValueOption → Draft
  | .content => { draft with content := some value }
  | .base => { draft with base := some value }
  | .view => { draft with view := some value }
  | .types => { draft with types := some value }

/-- Sets an option that has no value yet to a value that it can have. -/
def set? (draft : Draft) (option : ValueOption) (value : List Char) : Option Draft :=
  let value := String.ofList value
  if draft.get option = none ∧ option.accepts value then some (draft.put value option) else none

def addAll? (draft : Draft) : List (List Char) → Option Draft
  | [] => some draft
  | argument :: rest =>
    match Argument.ofChars argument with
    | .option option (some value) => (draft.set? option value).bind fun draft => draft.addAll? rest
    | .option option none =>
      match rest with
      | value :: rest =>
        if Argument.isValue value then
          (draft.set? option value).bind fun draft => draft.addAll? rest
        else none
      | [] => none
    | .pretty => if draft.pretty then none else { draft with pretty := true }.addAll? rest
    | .separator => if rest.isEmpty then some draft else none
    | .other => none

/-- The options, if all that have to be given are there. -/
def options? (draft : Draft) : Option Options := do
  let content ← draft.content
  let base ← draft.base
  some ⟨content, base, draft.view, draft.types, draft.pretty⟩

end Draft

def Options.ofArguments? (arguments : List String) : Option Options :=
  (Draft.addAll? {} (arguments.map String.toList)).bind Draft.options?

end NoteBase.CommandLine
