import NoteBase.Node
import NoteBase.Number.Literal
import NoteBase.Yaml.Token

/-!
# Scalars of YAML

What scalars stand for. A plain scalar without a tag stands for null, a truth value, a number, or
its text, and if it is an integer that is too wide, for nothing. The tags of the standard say which
scalar a text stands for. A tag with an exclamation mark in front is one of its own, and names a
variant.
-/

namespace NoteBase.Yaml

/-! ## Plain scalars -/

/-- Digits with a superfluous zero in front are a text and no number. -/
def hasSuperfluousZero (chars : List Char) : Bool :=
  let unsigned := (Number.splitSign chars).2
  unsigned.head? == some '0' && 1 < unsigned.length && unsigned.all Char.isDigit

/-- The base that a prefix announces, and the digits behind it. -/
def basePrefix? : List Char → Option (Nat × List Char)
  | '0' :: 'x' :: digits => some (16, digits)
  | '0' :: 'o' :: digits => some (8, digits)
  | '0' :: 'b' :: digits => some (2, digits)
  | _ => none

/-- An integer without its sign: digits behind a prefix, or decimal digits. -/
def magnitude? (chars : List Char) : Option Nat :=
  let prefixed? := (basePrefix? chars).bind fun (base, digits) => Number.digitsValue? base digits
  prefixed?.or (if hasSuperfluousZero chars then none else Number.digitsValue? 10 chars)

/-- An integer with an optional sign. Its size is below `2 ^ 128`, and from `2 ^ 127` on it has no
minus sign. -/
def integer? (chars : List Char) : Option Int :=
  match chars with
  | '-' :: digits =>
    ((magnitude? digits).filter (· ≤ Nat.pow 2 127)).map fun value => -(value : Int)
  | '+' :: digits => ((magnitude? digits).filter (· < Nat.pow 2 128)).map Int.ofNat
  | digits => ((magnitude? digits).filter (· < Nat.pow 2 128)).map Int.ofNat

/-- A name of an infinity, or of what is not a number. -/
def specialNumber? (chars : List Char) : Option Float :=
  let text := String.ofList chars
  if text ∈ [".inf", ".Inf", ".INF", "+.inf", "+.Inf", "+.INF"] then some Number.infinity
  else if text ∈ ["-.inf", "-.Inf", "-.INF"] then some Number.negativeInfinity
  else if text ∈ [".nan", ".NaN", ".NAN"] then some Number.notANumber
  else none

def decimal? (chars : List Char) : Option Float :=
  (Number.ofDecimalLiteral? chars).filter Number.isFinite

def float? (chars : List Char) : Option Float :=
  (specialNumber? chars).or (decimal? chars)

def isNullName (chars : List Char) : Bool :=
  ["~", "null", "Null", "NULL"].contains (String.ofList chars)

def bool? (chars : List Char) : Option Bool :=
  let text := String.ofList chars
  if text ∈ ["true", "True", "TRUE"] then some true
  else if text ∈ ["false", "False", "FALSE"] then some false
  else none

/-- An integer that fits into 64 bits, with or without a sign; any other stands for nothing. -/
def word? (value : Int) : Option Scalar :=
  if -0x8000000000000000 ≤ value ∧ value < 0x10000000000000000 then some (.integer value) else none

def resolve? (chars : List Char) : Option Scalar :=
  if chars.isEmpty || isNullName chars then some .null
  else
    match bool? chars, integer? chars with
    | some value, _ => some (.bool value)
    | none, some value => word? value
    | none, none =>
      match if hasSuperfluousZero chars then none else float? chars with
      | some value => some (.float value)
      | none => some (.text (String.ofList chars))

/-! ## Tags -/

def standardTag (name : String) : TagText :=
  ("tag:yaml.org,2002:" ++ name).toList.map some

def isOwnTag (tag : TagText) : Bool :=
  tag.head? == some (some '!')

/-- The name of a variant in a tag of its own, all of which are characters. -/
def ownTag? (tag : TagText) : Option String :=
  match tag with
  | [some '!'] => some "!"
  | some '!' :: name => (name.mapM id).map String.ofList
  | _ => none

namespace Source

def omitted : Source := ⟨"", true⟩

def untaggedValue? (source : Source) : Option Scalar :=
  if source.isPlain then resolve? source.text.toList else some (.text source.text)

/-- What a scalar stands for. Only the tags of the standard for truth values, numbers and null make
it anything but a text. A tag of its own that names nothing counts for nothing. -/
def value? (tag : Option TagText) (source : Source) : Option Scalar :=
  let chars := source.text.toList
  match tag with
  | none => source.untaggedValue?
  | some tag =>
    if tag = standardTag "bool" then (bool? chars).map .bool
    else if tag = standardTag "int" then (integer? chars).bind word?
    else if tag = standardTag "float" then (float? chars).map .float
    else if tag = standardTag "null" then if isNullName chars then some .null else none
    else if isOwnTag tag then source.untaggedValue?
    else some (.text source.text)

/-- Whether a scalar counts as there where a part may be absent. A plain null without a tag is
absent, and so is a plain name of null under the tag of null, which no other plain scalar can have
there. -/
def isPart? (tag : Option TagText) (source : Source) : Option Bool :=
  if !source.isPlain then some true
  else
    match tag with
    | some tag =>
      if tag ≠ standardTag "null" then some true
      else if isNullName source.text.toList then some false
      else none
    | none => some (source.text ≠ "" && !isNullName source.text.toList)

/-- A scalar with a tag that is not one of its own, or without a tag. -/
def atom (tag : Option TagText) (source : Source) : Atom where
  text := some source.text
  value := source.value? tag
  isPart := source.isPart? tag
  isEmpty := source.isPlain && source.text = ""

def toNode (tag : Option TagText) (source : Source) : Node :=
  match tag.bind ownTag? with
  | some name => .tagged name (.scalar (source.atom none))
  | none => .scalar (source.atom tag)

end Source

end NoteBase.Yaml
