import NoteBase.Predicate.Comparison

/-!
# Shapes of predicates

A predicate is read by its shape, and the first shape that fits is taken:

1. `file.hasProperty('name')`, and a dotted path with `.startsWith('text')`, `.endsWith('text')`,
   `.includes('text')` or `.contains('text')` behind it, both perhaps behind one `!`. Between the
   first quote and the last one anything but a line break may stand.
2. A text with `&&` or `||` outside of quotes is an expression.
3. A comparison `left op right`, split at the first place where an operator can stand.
4. A single word of ASCII letters, digits and underscores asks whether the property is there.
5. Everything else is an expression.
-/

namespace NoteBase.Predicate

/-! ## Calls with a quoted argument -/

inductive TextTest where
  | startsWith
  | endsWith
  | contains
deriving DecidableEq

def TextTest.ofName? (name : String) : Option TextTest :=
  if name = "startsWith" then some .startsWith
  else if name = "endsWith" then some .endsWith
  else if name = "includes" ∨ name = "contains" then some .contains
  else none

def isQuote (char : Char) : Bool :=
  char == '\'' || char == '"'

def isWordStart (char : Char) : Bool :=
  char.isAlpha || char == '_'

def isWordChar (char : Char) : Bool :=
  char.isAlphanum || char == '_'

def isWord (chars : List Char) : Bool :=
  match chars with
  | [] => false
  | first :: rest => isWordStart first && rest.all isWordChar

def isWordPath (chars : List Char) : Bool :=
  (Text.pieces ['.'] chars).all isWord

/-- What stands between the quotes of an argument in parentheses that ends the text. It is not
empty, and a line break does not belong to it. -/
def quotedArgument? (chars : List Char) : Option (List Char) :=
  match chars with
  | '(' :: quote :: rest =>
    if isQuote quote then
      match rest.reverse with
      | ')' :: closing :: needle =>
        if isQuote closing && !needle.isEmpty && !needle.contains '\n' then some needle.reverse
        else none
      | _ => none
    else none
  | _ => none

/-- A dotted path up to an opening parenthesis: the path in front of the last point, the word behind
it, and the text from the parenthesis on. -/
def splitCall? (chars : List Char) : Option (List Char × List Char × List Char) :=
  let isPathChar := fun char => isWordChar char || char == '.'
  let path := chars.takeWhile isPathChar
  let name := Record.behindLast '.' path
  let target := path.take (path.length - name.length - 1)
  if isWordPath target && isWord name && name.length < path.length then
    some (target, name, chars.dropWhile isPathChar)
  else none

/-- Takes an optional exclamation mark from the front. -/
def splitBang (chars : List Char) : Bool × List Char :=
  match chars with
  | '!' :: rest => (true, rest)
  | _ => (false, chars)

/-! ## Logical operators -/

/-- A doubled `&` or `|` outside of quotes. `quote` is the quote that is open, and `previous` the
character before; a quote behind a backslash closes nothing. -/
def hasLogicalFrom (quote previous : Option Char) : List Char → Bool
  | [] => false
  | char :: rest =>
    match quote with
    | some open_ =>
      let quote := if char = open_ ∧ previous ≠ some '\\' then none else quote
      hasLogicalFrom quote (some char) rest
    | none =>
      if isQuote char then hasLogicalFrom (some char) (some char) rest
      else if (char == '&' || char == '|') && previous == some char then true
      else hasLogicalFrom none (some char) rest

def hasLogicalOperator (chars : List Char) : Bool :=
  hasLogicalFrom none none chars

/-! ## Comparisons -/

/-- Characters of the operators that are no words. -/
def isOperatorChar (char : Char) : Bool :=
  char == '>' || char == '<' || char == '=' || char == '!'

def wordOperators : List (List Char) :=
  ["contains".toList, "includes".toList, "startsWith".toList, "endsWith".toList]

/-- What can stand on the right of an operator: something, without a line break. -/
def isRightSide (chars : List Char) : Bool :=
  !chars.isEmpty && !chars.contains '\n'

/-- Splits an operator from the front: as many operator characters as leave something on the right,
or a word. -/
def splitOperator? (chars : List Char) : Option (List Char × List Char) :=
  let run := chars.takeWhile isOperatorChar
  let tail := chars.dropWhile isOperatorChar
  if run.isEmpty then
    wordOperators.findSome? fun word =>
      if word.isPrefixOf chars then
        let right := Text.trimStart (chars.drop word.length)
        if isRightSide right then some (word, right) else none
      else none
  else if isRightSide (Text.trimStart tail) then some (run, Text.trimStart tail)
  else if tail.isEmpty && 1 < run.length then some (run.dropLast, run.drop (run.length - 1))
  else none

/-- Splits at the first place with something on its left where an operator can stand behind blanks.
`left` holds the characters passed, the last one first. -/
def splitComparisonFrom (left : List Char) (rest : List Char) :
    Option (List Char × List Char × List Char) :=
  match splitOperator? (Text.trimStart rest) with
  | some (op, right) => some (left.reverse, op, right)
  | none =>
    match rest with
    | [] => none
    | char :: rest => if char = '\n' then none else splitComparisonFrom (char :: left) rest

/-- Splits a comparison into its left side, its operator and its right side. -/
def splitComparison? (chars : List Char) : Option (List Char × List Char × List Char) :=
  match chars with
  | [] => none
  | char :: rest => if char = '\n' then none else splitComparisonFrom [char] rest

/-! ## Shapes -/

inductive Shape where
  /-- Whether the note has a property, or with `negated` whether it has not. -/
  | hasProperty (negated : Bool) (name : String)
  | textTest (negated : Bool) (property : String) (test : TextTest) (needle : String)
  /-- A comparison; the operator may be one that is not known. -/
  | comparison (left : String) (op : Option ComparisonOp) (right : String)
  | existence (key : String)
  | expression
deriving DecidableEq

/-- The shape of a call with a quoted argument, if the text is one. -/
def callShape? (chars : List Char) : Option Shape := do
  let (negated, call) := splitBang chars
  let (target, name, argument) ← splitCall? call
  let needle ← quotedArgument? argument
  if target = "file".toList ∧ name = "hasProperty".toList then
    some (.hasProperty negated (String.ofList needle))
  else
    let test ← TextTest.ofName? (String.ofList name)
    some (.textTest negated (String.ofList target) test (String.ofList needle))

def Shape.of (chars : List Char) : Shape :=
  match callShape? chars with
  | some shape => shape
  | none =>
    if hasLogicalOperator chars then .expression
    else
      match splitComparison? chars with
      | some (left, op, right) =>
        .comparison (String.ofList left) (ComparisonOp.ofText? (String.ofList op))
          (String.ofList right)
      | none =>
        if !chars.isEmpty && chars.all isWordChar then .existence (String.ofList chars)
        else .expression

end NoteBase.Predicate
