import NoteBase.Node
import NoteBase.Number.Decimal
import NoteBase.Number.Literal

/-!
# Reading JSON text

The grammar is the strict one: no trailing commas, no control characters inside of texts, and
nothing but blanks around the value. The members of an object are kept as they are written, also
those with one key.

A text with a surrogate without its partner, a number beyond the range of doubles, and an array or
object below 127 others are well-formed but stand for nothing.

A number that is no integer of 64 bits is a double: its leading digits up to 64 bits, times a power
of ten. This is the nearest double if there are at most fifteen digits and the power is small.
-/

namespace NoteBase

namespace Json

/-! ## Blanks and literals -/

def isBlank (char : Char) : Bool :=
  char == ' ' || char == '\n' || char == '\t' || char == '\r'

def skipBlanks (chars : List Char) : List Char :=
  chars.dropWhile isBlank

/-! ## Numbers -/

/-- Appends digits to a number as long as it stays below `2 ^ 64`, and gives the number of digits
that are left out. -/
def appendDigits (value : Nat) : List Char → Nat × Nat
  | [] => (value, 0)
  | digit :: rest =>
    let longer := value * 10 + Number.decimalValue [digit]
    if longer < Nat.pow 2 64 then appendDigits longer rest else (value, rest.length + 1)

def maxPower : Nat := 308

def powerOfTen (exponent : Nat) : Float :=
  Number.Decimal.toFloat false ⟨1, exponent⟩

/-- Divides by a power of ten, in several steps if the power is no double. -/
def divideByPower (number : Float) (exponent : Nat) : Float :=
  if exponent ≤ maxPower then number / powerOfTen exponent
  else if number == 0 then number
  else divideByPower (number / powerOfTen maxPower) (exponent - maxPower)
termination_by exponent
decreasing_by simp only [maxPower] at *; omega

/-- A whole number times a power of ten. Both factors are rounded, and so is the product. -/
def scaled (value : Nat) (exponent : Int) : Float :=
  let number := Number.ofNat value
  if exponent < 0 then divideByPower number exponent.natAbs
  else if exponent ≤ maxPower then number * powerOfTen exponent.toNat
  else if value = 0 then number
  else Number.infinity

def signed (negative : Bool) (number : Float) : Float :=
  if negative then -number else number

/-- An integer that fits into 64 bits stays one; any other is a double. Negative zero is a double as
well. -/
def integerOrFloat (negative : Bool) (digits : List Char) : Scalar :=
  match appendDigits 0 digits with
  | (value, 0) =>
    if !negative then .integer value
    else if 0 < value ∧ value ≤ Nat.pow 2 63 then .integer (-(value : Int))
    else .float (signed true (Number.ofNat value))
  | (value, left) => .float (signed negative (scaled value left))

/-- The double with these digits in front of the point and behind it, and with this exponent. -/
def floatOf (negative : Bool) (whole places : List Char) (exponent : Int) : Float :=
  let (value, left) := appendDigits 0 whole
  let (value, unused) := appendDigits value places
  signed negative (scaled value (exponent + left - (places.length - unused : Nat)))

/-- What a number stands for: nothing if it is beyond the range of doubles. -/
def atomOfNumber (scalar : Scalar) : Atom :=
  match scalar with
  | .float value => if Number.isFinite value then .ofScalar scalar else .void
  | _ => .ofScalar scalar

/-- Takes a fraction from the front: none at all, or a point and at least one digit. -/
def takeFraction? : List Char → Option (Option (List Char) × List Char)
  | '.' :: rest =>
    let digits := rest.takeWhile Char.isDigit
    if digits.isEmpty then none else some (some digits, rest.dropWhile Char.isDigit)
  | chars => some (none, chars)

/-- Takes an exponent from the front: none at all, or a mark, an optional sign and at least one
digit. -/
def takeExponent? : List Char → Option (Option Int × List Char)
  | mark :: rest =>
    if mark = 'e' ∨ mark = 'E' then
      let (negative, unsigned) := Number.splitSign rest
      let digits := unsigned.takeWhile Char.isDigit
      let value : Nat := Number.decimalValue digits
      if digits.isEmpty then none
      else
        some (some (if negative then -(value : Int) else value), unsigned.dropWhile Char.isDigit)
    else some (none, mark :: rest)
  | [] => some (none, [])

/-- Whether digits may stand in front of the point: there is at least one, and the first of several
is not zero. -/
def isWhole (whole : List Char) : Bool :=
  !whole.isEmpty && (whole.head? != some '0' || whole.length == 1)

/-- What a number stands for whose sign, digits and exponent are known. -/
def numberAtom (negative : Bool) (whole : List Char) (fraction : Option (List Char))
    (exponent : Option Int) : Atom :=
  atomOfNumber <|
    match fraction, exponent with
    | none, none => integerOrFloat negative whole
    | _, _ => .float (floatOf negative whole (fraction.getD []) (exponent.getD 0))

/-- Takes a number without its sign from the front. -/
def takeUnsigned? (negative : Bool) (chars : List Char) : Option (Atom × List Char) :=
  let whole := chars.takeWhile Char.isDigit
  if isWhole whole then do
    let (fraction, rest) ← takeFraction? (chars.dropWhile Char.isDigit)
    let (exponent, rest) ← takeExponent? rest
    some (numberAtom negative whole fraction exponent, rest)
  else none

def takeNumber? (chars : List Char) : Option (Atom × List Char) :=
  match chars with
  | '-' :: rest => takeUnsigned? true rest
  | _ => takeUnsigned? false chars

/-! ## Texts -/

def takeUnit? : List Char → Option (Nat × List Char)
  | first :: second :: third :: fourth :: rest =>
    (Number.digitsValue? 16 [first, second, third, fourth]).map fun value => (value, rest)
  | _ => none

def simpleEscape? (mark : Char) : Option Char :=
  if mark = '"' ∨ mark = '\\' ∨ mark = '/' then some mark
  else if mark = 'b' then some '\x08'
  else if mark = 'f' then some '\x0c'
  else if mark = 'n' then some '\n'
  else if mark = 'r' then some '\r'
  else if mark = 't' then some '\t'
  else none

def isHighSurrogate (unit : Nat) : Bool :=
  0xD800 ≤ unit && unit < 0xDC00

def isLowSurrogate (unit : Nat) : Bool :=
  0xDC00 ≤ unit && unit < 0xE000

/-- Takes the second unit of a surrogate pair from the front, with its mark. -/
def takeLowSurrogate? (chars : List Char) : Option (Nat × List Char) :=
  match chars with
  | '\\' :: 'u' :: rest => (takeUnit? rest).filter fun (unit, _) => isLowSurrogate unit
  | _ => none

/-- Takes what follows `\u` from the front: one unit, or two that form a surrogate pair. A surrogate
without its partner is no character. -/
def takeEscaped? (chars : List Char) : Option (Option Char × List Char) := do
  let (unit, rest) ← takeUnit? chars
  if isHighSurrogate unit then
    match takeLowSurrogate? rest with
    | some (low, rest) =>
      some (some (Char.ofNat (0x10000 + (unit - 0xD800) * 0x400 + (low - 0xDC00))), rest)
    | none => some (none, rest)
  else if isLowSurrogate unit then some (none, rest)
  else some (some (Char.ofNat unit), rest)

/-- Takes the rest of a text behind its opening quote; `fuel` bounds the number of characters. -/
def takeText? : Nat → List Char → Option (List (Option Char) × List Char)
  | 0, _ => none
  | _, [] => none
  | _ + 1, '"' :: rest => some ([], rest)
  | fuel + 1, '\\' :: 'u' :: rest => do
    let (char, rest) ← takeEscaped? rest
    let (chars, rest) ← takeText? fuel rest
    some (char :: chars, rest)
  | fuel + 1, '\\' :: mark :: rest => do
    let char ← simpleEscape? mark
    let (chars, rest) ← takeText? fuel rest
    some (some char :: chars, rest)
  | fuel + 1, char :: rest =>
    if char.toNat < 0x20 ∨ char = '\\' then none
    else do
      let (chars, rest) ← takeText? fuel rest
      some (some char :: chars, rest)

/-- What a text stands for: nothing if not all of it are characters. -/
def atomOfText (chars : List (Option Char)) : Atom :=
  match chars.mapM id with
  | some chars => .ofText (String.ofList chars)
  | none => .void

def takeQuoted? (chars : List Char) : Option (Atom × List Char) :=
  match chars with
  | '"' :: rest =>
    (takeText? (rest.length + 1) rest).map fun (text, rest) => (atomOfText text, rest)
  | _ => none

/-- Takes the key of a member from the front, with its colon. -/
def takeKey? (chars : List Char) : Option (Atom × List Char) := do
  let (key, rest) ← takeQuoted? (skipBlanks chars)
  match skipBlanks rest with
  | ':' :: rest => some (key, rest)
  | _ => none

def takeAtom? (chars : List Char) : Option (Atom × List Char) :=
  match chars with
  | 'n' :: 'u' :: 'l' :: 'l' :: rest => some (.ofScalar .null, rest)
  | 't' :: 'r' :: 'u' :: 'e' :: rest => some (.ofScalar (.bool true), rest)
  | 'f' :: 'a' :: 'l' :: 's' :: 'e' :: rest => some (.ofScalar (.bool false), rest)
  | '"' :: _ => takeQuoted? chars
  | _ => takeNumber? chars

/-! ## Passing over values -/

mutual

/-- Passes over a value and the rest of the arrays and objects around it, whose closing characters
are given from the inside out. `fuel` bounds the number of steps. -/
def passValue? : Nat → List Char → List Char → Option (List Char)
  | 0, _, _ => none
  | fuel + 1, closers, chars =>
    match skipBlanks chars with
    | '[' :: rest =>
      match skipBlanks rest with
      | ']' :: rest => passRest? fuel closers rest
      | rest => passValue? fuel (']' :: closers) rest
    | '{' :: rest =>
      match skipBlanks rest with
      | '}' :: rest => passRest? fuel closers rest
      | rest => (takeKey? rest).bind fun (_, rest) => passValue? fuel ('}' :: closers) rest
    | rest => (takeAtom? rest).bind fun (_, rest) => passRest? fuel closers rest

/-- Passes over what follows a value in the arrays and objects around it. -/
def passRest? : Nat → List Char → List Char → Option (List Char)
  | 0, _, _ => none
  | _, [], chars => some chars
  | fuel + 1, closer :: closers, chars =>
    match skipBlanks chars with
    | ',' :: rest =>
      if closer = '}' then
        (takeKey? rest).bind fun (_, rest) => passValue? fuel (closer :: closers) rest
      else passValue? fuel (closer :: closers) rest
    | char :: rest => if char = closer then passRest? fuel closers rest else none
    | [] => none

end

def pass? (chars : List Char) : Option (List Char) :=
  passValue? (2 * chars.length + 2) [] chars

/-! ## Values -/

mutual

/-- Takes a value from the front. `fuel` bounds the number of steps and `depth` the levels of
nesting that are left. -/
def takeValue? : Nat → Nat → List Char → Option (Node × List Char)
  | 0, _, _ => none
  | fuel + 1, depth, chars =>
    match skipBlanks chars with
    | '[' :: rest =>
      match depth with
      | 0 => (pass? ('[' :: rest)).map fun rest => (.void, rest)
      | depth + 1 =>
        match skipBlanks rest with
        | ']' :: rest => some (.list true [], rest)
        | rest => (takeItems? fuel depth rest).map fun (items, rest) => (.list true items, rest)
    | '{' :: rest =>
      match depth with
      | 0 => (pass? ('{' :: rest)).map fun rest => (.void, rest)
      | depth + 1 =>
        match skipBlanks rest with
        | '}' :: rest => some (.map [], rest)
        | rest => (takeMembers? fuel depth rest).map fun (members, rest) => (.map members, rest)
    | rest => (takeAtom? rest).map fun (atom, rest) => (.scalar atom, rest)

/-- Takes the items of an array up to its closing bracket; there is at least one. -/
def takeItems? : Nat → Nat → List Char → Option (List Node × List Char)
  | 0, _, _ => none
  | fuel + 1, depth, chars => do
    let (item, rest) ← takeValue? fuel depth chars
    match skipBlanks rest with
    | ',' :: rest =>
      let (items, rest) ← takeItems? fuel depth rest
      some (item :: items, rest)
    | ']' :: rest => some ([item], rest)
    | _ => none

/-- Takes the members of an object up to its closing brace; there is at least one. -/
def takeMembers? : Nat → Nat → List Char → Option (List (Node × Node) × List Char)
  | 0, _, _ => none
  | fuel + 1, depth, chars => do
    let (key, rest) ← takeKey? chars
    let (value, rest) ← takeValue? fuel depth rest
    match skipBlanks rest with
    | ',' :: rest =>
      let (members, rest) ← takeMembers? fuel depth rest
      some ((.scalar key, value) :: members, rest)
    | '}' :: rest => some ([(.scalar key, value)], rest)
    | _ => none

end

def maxNesting : Nat := 127

/-- Reads a text that holds one value and nothing else but blanks. -/
def nodeOfChars? (chars : List Char) : Option Node :=
  match takeValue? (2 * chars.length + 1) maxNesting chars with
  | some (node, rest) => if (skipBlanks rest).isEmpty then some node else none
  | none => none

end Json

def Node.ofJsonText? (text : String) : Option Node :=
  Json.nodeOfChars? text.toList

/-- Reads a JSON text all parts of which stand for something. -/
def Json.ofText? (text : String) : Option Json :=
  (Node.ofJsonText? text).bind Node.toJson?

end NoteBase
