import NoteBase.Expr.Basic
import NoteBase.Record

/-!
# Property paths

The paths that an expression refers to, and what a path stands for in a record: the longest prefix
that names a property gives the value, and the names behind it are members of that value.
-/

namespace NoteBase.Expr

/-! ## Paths of an expression -/

/-- The name of the query whether a note has a property. -/
def hasPropertyName : String := "hasProperty"

/-- The target `file` of `file.hasProperty(...)` is no value: the call asks the record. -/
def isHasProperty (target : Expr) (name : String) : Bool :=
  match target with
  | .property [root] => name = hasPropertyName && root = "file"
  | _ => false

mutual

/-- The paths of an expression from left to right. -/
def paths : Expr → List (List String)
  | .literal _ => []
  | .property path => [path]
  | .unary _ operand => operand.paths
  | .binary _ left right => left.paths ++ right.paths
  | .call _ args => pathsOfAll args
  | .method target name args =>
    (if isHasProperty target name then [] else target.paths) ++ pathsOfAll args
  | .member target _ => target.paths

/-- The paths of several expressions from left to right. -/
def pathsOfAll : List Expr → List (List String)
  | [] => []
  | expr :: rest => expr.paths ++ pathsOfAll rest

end

def dotted (path : List String) : String :=
  ".".intercalate path

/-- Inserts a text into a list that is sorted by code point, unless it is there already. -/
def insertSorted (name : String) : List String → List String
  | [] => [name]
  | other :: rest =>
    if name = other then other :: rest
    else if name < other then name :: other :: rest
    else other :: insertSorted name rest

/-- The names of all paths, sorted by code point and each once. -/
def properties (expr : Expr) : List String :=
  (expr.paths.map dotted).foldr insertSorted []

/-! ## Paths in a record -/

/-- The value of the longest prefix, of at most this many names, that names a property, and the
names behind it. -/
def resolveAt (record : Record) (path : List String) : Nat → Option (Value × List String)
  | 0 => none
  | count + 1 =>
    match record.lookup (dotted (path.take (count + 1))) with
    | some value => some (value, path.drop (count + 1))
    | none => resolveAt record path count

/-- The value of the longest prefix that names a property, and the names behind it. -/
def resolve (record : Record) (path : List String) : Option (Value × List String) :=
  resolveAt record path path.length

def hasInput (record : Record) (path : List String) : Bool :=
  match resolve record path with
  | some (value, _) => !value.isBlank
  | none => false

end NoteBase.Expr
