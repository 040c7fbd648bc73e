import NoteBase.Expr.Parser

/-!
# Expressions as text

An expression is written with parentheses only around an operand that binds less tightly than its
place asks for: the operand of a unary operator, the target of a member, and the operands of a
binary operator, of which the right one has to bind more tightly than the operator itself. A `Style`
decides what is left open: the blanks around operators, the quotes of texts, and the digits of
numbers.
-/

namespace NoteBase

/-! ## Operators -/

def UnaryOp.chars : UnaryOp → List Char
  | .not => ['!']
  | .negate => ['-']
  | .plus => ['+']

def BinaryOp.chars : BinaryOp → List Char
  | .add => ['+']
  | .sub => ['-']
  | .mul => ['*']
  | .div => ['/']
  | .rem => ['%']
  | .eq => ['=', '=']
  | .ne => ['!', '=']
  | .strictEq => ['=', '=', '=']
  | .strictNe => ['!', '=', '=']
  | .lt => ['<']
  | .le => ['<', '=']
  | .gt => ['>']
  | .ge => ['>', '=']
  | .and => ['&', '&']
  | .or => ['|', '|']

namespace Expr

/-! ## What can be written -/

/-- A name that does not stand for a literal. -/
def isName (name : String) : Bool :=
  match name.toList with
  | [] => false
  | first :: rest =>
    isNameStart first && rest.all isNameChar &&
      !(["true", "false", "null", "undefined"].contains name)

/-- A value that a literal can have: a number has no sign. -/
def isLiteral : Value → Bool
  | .null => true
  | .bool _ => true
  | .text _ => true
  | .number number => !Number.isNegative number && !Number.isNaN number
  | .date _ => false
  | .list _ => false

def isProperty : Expr → Bool
  | .property _ => true
  | _ => false

mutual

/-- The shape of the trees that a parser builds. A name behind a path belongs to the path, so that
no tree is a member of a property. -/
def isPrintable : Expr → Bool
  | .literal value => isLiteral value
  | .property path => !path.isEmpty && path.all isName
  | .unary _ operand => operand.isPrintable
  | .binary _ left right => left.isPrintable && right.isPrintable
  | .call _ args => areAllPrintable args
  | .method target name args => target.isPrintable && isName name && areAllPrintable args
  | .member target name => target.isPrintable && isName name && !target.isProperty

def areAllPrintable : List Expr → Bool
  | [] => true
  | expr :: rest => expr.isPrintable && areAllPrintable rest

end

/-! ## Places -/

/-- How loosely a tree binds: a primary with its members does not at all, a unary operator less than
any binary one. -/
def looseness : Expr → Nat
  | .unary _ _ => 1
  | .binary op _ _ => op.level + 1
  | _ => 0

/-- Puts parentheses around the text of a tree that binds too loosely for its place. -/
def placed (limit : Nat) (expr : Expr) (chars : List Char) : List Char :=
  if expr.looseness ≤ limit then chars else '(' :: (chars ++ [')'])

/-- How deep the text of a tree nests in its place. -/
def placedDepth (limit : Nat) (expr : Expr) (depth : Nat) : Nat :=
  if expr.looseness ≤ limit then depth else depth + 1

mutual

/-- How deep the text of a tree nests: parentheses, arguments and operands of unary operators. -/
def printedDepth : Expr → Nat
  | .literal _ => 0
  | .property _ => 0
  | .unary _ operand => placedDepth 1 operand operand.printedDepth + 1
  | .binary op left right =>
    max (placedDepth (op.level + 1) left left.printedDepth)
      (placedDepth op.level right right.printedDepth)
  | .call _ args => printedDepthOfAll args
  | .method target _ args =>
    max (placedDepth 0 target target.printedDepth) (printedDepthOfAll args)
  | .member target _ => placedDepth 0 target target.printedDepth

def printedDepthOfAll : List Expr → Nat
  | [] => 0
  | expr :: rest => max (expr.printedDepth + 1) (printedDepthOfAll rest)

end

/-! ## Texts in quotes -/

/-- A backslash stands in front of the quote and of a backslash. -/
def escape (quote char : Char) : List Char :=
  if char = '\\' ∨ char = quote then ['\\', char] else [char]

def quotedChars (quote : Char) (text : String) : List Char :=
  quote :: (text.toList.flatMap (escape quote) ++ [quote])

/-! ## Styles -/

/-- The characters are the numeral of a number: all of them belong to one token, and they are read
as this number. -/
structure IsNumeral (chars : List Char) (number : Float) : Prop where
  starts : ∃ first rest, chars = first :: rest ∧ first.isDigit = true
  noLeadingZero : hasLeadingZero chars = false
  whole : numberLength chars = chars.length
  reads : Number.ofDecimalLiteral? chars = some number

/-- How expressions are written. Blanks stand on both sides of a binary operator; behind a unary
operator there need not be any. -/
structure Style where
  before : BinaryOp → Expr → Expr → List Char
  behind : BinaryOp → Expr → Expr → List Char
  gap : UnaryOp → Expr → List Char
  quote : String → Char
  numeral : Float → List Char
  before_ne_nil : ∀ op left right, before op left right ≠ []
  before_blank : ∀ op left right, ∀ char ∈ before op left right, Text.isBlank char = true
  behind_ne_nil : ∀ op left right, behind op left right ≠ []
  behind_blank : ∀ op left right, ∀ char ∈ behind op left right, Text.isBlank char = true
  gap_blank : ∀ op operand, ∀ char ∈ gap op operand, Text.isBlank char = true
  quote_eq : ∀ text, quote text = '\'' ∨ quote text = '"'
  isNumeral : ∀ number, Number.isNegative number = false → Number.isNaN number = false →
    IsNumeral (numeral number) number

namespace Style

variable (style : Style)

def literalChars : Value → List Char
  | .null => "null".toList
  | .bool value => if value then "true".toList else "false".toList
  | .number number => style.numeral number
  | .text text => quotedChars (style.quote text) text
  | .date _ => []
  | .list _ => []

/-- The names of a path with points between them. -/
def pathChars : List String → List Char
  | [] => []
  | name :: rest => name.toList ++ rest.flatMap fun next => '.' :: next.toList

mutual

def chars : Expr → List Char
  | .literal value => style.literalChars value
  | .property path => pathChars path
  | .unary op operand => op.chars ++ style.gap op operand ++ placed 1 operand (chars operand)
  | .binary op left right =>
    placed (op.level + 1) left (chars left) ++ style.before op left right ++ op.chars ++
      style.behind op left right ++ placed op.level right (chars right)
  | .call function args => function.name.toList ++ '(' :: (charsOfAll args ++ [')'])
  | .method target name args =>
    placed 0 target (chars target) ++ '.' :: name.toList ++ '(' :: (charsOfAll args ++ [')'])
  | .member target name => placed 0 target (chars target) ++ '.' :: name.toList

/-- Arguments with commas between them. -/
def charsOfAll : List Expr → List Char
  | [] => []
  | [expr] => chars expr
  | expr :: next :: rest => chars expr ++ ',' :: charsOfAll (next :: rest)

end

def print (expr : Expr) : String :=
  String.ofList (style.chars expr)

end Style

end Expr

end NoteBase
