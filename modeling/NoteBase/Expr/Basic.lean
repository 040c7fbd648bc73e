import NoteBase.Value.Basic

/-!
# Expressions

The syntax tree of predicates and formulas, and the three measures that bound it.
-/

namespace NoteBase

inductive UnaryOp where
  | not
  | negate
  | plus
deriving DecidableEq

inductive BinaryOp where
  | add
  | sub
  | mul
  | div
  | rem
  | eq
  | ne
  | strictEq
  | strictNe
  | lt
  | le
  | gt
  | ge
  | and
  | or
deriving DecidableEq

/-- The level of an operator: an operator of a lower level binds more tightly. -/
def BinaryOp.level : BinaryOp → Nat
  | .mul | .div | .rem => 1
  | .add | .sub => 2
  | .lt | .le | .gt | .ge => 3
  | .eq | .ne | .strictEq | .strictNe => 4
  | .and => 5
  | .or => 6

inductive Function where
  | abs
  | round
  | floor
  | ceil
  | min
  | max
  | sqrt
  | today
  | now
  | year
  | month
  | day
  | date
deriving DecidableEq

namespace Function

def all : List Function :=
  [.abs, .round, .floor, .ceil, .min, .max, .sqrt, .today, .now, .year, .month, .day, .date]

def name : Function → String
  | .abs => "abs"
  | .round => "round"
  | .floor => "floor"
  | .ceil => "ceil"
  | .min => "min"
  | .max => "max"
  | .sqrt => "sqrt"
  | .today => "today"
  | .now => "now"
  | .year => "year"
  | .month => "month"
  | .day => "day"
  | .date => "date"

def ofName? (name : String) : Option Function :=
  all.find? fun function => function.name = name

end Function

inductive Expr where
  | literal (value : Value)
  /-- A dotted path of names. How many of them name a property is known only with a record. -/
  | property (path : List String)
  | unary (op : UnaryOp) (operand : Expr)
  | binary (op : BinaryOp) (left right : Expr)
  | call (function : Function) (args : List Expr)
  | method (target : Expr) (name : String) (args : List Expr)
  | member (target : Expr) (name : String)

namespace Expr

/-! ## Measures -/

mutual

/-- The number of levels of a tree; a leaf has one. -/
def height : Expr → Nat
  | .literal _ => 1
  | .property _ => 1
  | .unary _ operand => operand.height + 1
  | .binary _ left right => max left.height right.height + 1
  | .call _ args => heightOfAll args + 1
  | .method target _ args => max target.height (heightOfAll args) + 1
  | .member target _ => target.height + 1

/-- The height of the highest of several trees, and zero if there are none. -/
def heightOfAll : List Expr → Nat
  | [] => 0
  | expr :: rest => max expr.height (heightOfAll rest)

end

mutual

def nodeCount : Expr → Nat
  | .literal _ => 0
  | .property _ => 0
  | .unary _ operand => operand.nodeCount + 1
  | .binary _ left right => left.nodeCount + right.nodeCount + 1
  | .call _ args => nodeCountOfAll args + 1
  | .method target _ args => target.nodeCount + nodeCountOfAll args + 1
  | .member target _ => target.nodeCount + 1

def nodeCountOfAll : List Expr → Nat
  | [] => 0
  | expr :: rest => expr.nodeCount + nodeCountOfAll rest

end

end Expr

end NoteBase
