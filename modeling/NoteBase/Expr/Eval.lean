import NoteBase.Expr.Paths
import NoteBase.Text.Search
import NoteBase.Value.Compare

/-!
# Evaluating expressions

An expression is evaluated against a record in one of two modes. In a predicate a property that is
missing is null. A formula needs a value for every property that it refers to, whether or not it is
evaluated, and reads numeric texts and truth values as numbers.

The functions that ask for the current time take it from the context, so that evaluation is a
function of its arguments.
-/

namespace NoteBase.Expr

open Calendar (Moment Date)

/-! ## Context and errors -/

inductive Mode where
  | predicate
  | formula
deriving DecidableEq

structure Context where
  record : Record
  mode : Mode
  now : Moment

inductive EvalError where
  | unsupportedMethod (name : String)
  /-- A method for texts and lists on something else. -/
  | typeMismatch (name target : String)
  | nullAccess (name : String)
  | missingInput (path : String)
deriving DecidableEq

def EvalError.message : EvalError → String
  | .unsupportedMethod name => "unsupported method '" ++ name ++ "'"
  | .typeMismatch name target => "'" ++ name ++ "' is not supported on " ++ target
  | .nullAccess name => "cannot read '" ++ name ++ "' of null"
  | .missingInput path => "property '" ++ path ++ "' has no value"

/-! ## Properties and members -/

/-- How a formula reads a value: numeric texts and truth values are numbers. -/
def formulaInput (value : Value) : Value :=
  match value with
  | .text text =>
    let number := Number.ofText text
    if Number.isNaN number then value else .number number
  | .bool _ => .number value.toNumber
  | _ => value

/-- The value of a member. A member that a value does not have is null in a predicate and `NaN` in a
formula. -/
def readMember (mode : Mode) (value : Value) (name : String) : Except EvalError Value :=
  match value with
  | .null => .error (.nullAccess name)
  | .text text =>
    if name = "length" then .ok (.number (Number.ofNat text.length)) else .ok absent
  | .list items =>
    if name = "length" then .ok (.number (Number.ofNat items.length)) else .ok absent
  | _ => .ok absent
where
  absent : Value :=
    match mode with
    | .predicate => .null
    | .formula => .number Number.notANumber

def readMembers (mode : Mode) : Value → List String → Except EvalError Value
  | value, [] => .ok value
  | value, name :: rest => do
    readMembers mode (← readMember mode value name) rest

def readPath (context : Context) (path : List String) : Except EvalError Value :=
  match resolve context.record path, context.mode with
  | some (value, members), .predicate => readMembers .predicate value members
  | some (value, members), .formula => readMembers .formula (formulaInput value) members
  | none, .predicate => .ok .null
  | none, .formula => .error (.missingInput (dotted path))

/-! ## Operators -/

def isTextual : Value → Bool
  | .text _ => true
  | .list _ => true
  | _ => false

/-- `+` appends texts if a side is textual, and adds numbers otherwise. -/
def add (left right : Value) : Value :=
  if isTextual left || isTextual right then
    .text (left.display ++ right.display)
  else .number (left.toNumber + right.toNumber)

/-- Whether the relational order of two values is one that an operator accepts. -/
def related (accepts : Ordering → Bool) (left right : Value) : Value :=
  .bool ((left.relationalCompare right).any accepts)

def applyUnary (op : UnaryOp) (value : Value) : Value :=
  match op with
  | .not => .bool (!value.isTruthy)
  | .negate => .number (-value.toNumber)
  | .plus => .number value.toNumber

/-- The value of a binary operator for the values of both operands. The logical operators give one
of the two. -/
def applyBinary (op : BinaryOp) (left right : Value) : Value :=
  match op with
  | .add => add left right
  | .sub => .number (left.toNumber - right.toNumber)
  | .mul => .number (left.toNumber * right.toNumber)
  | .div => .number (left.toNumber / right.toNumber)
  | .rem => .number (Number.remainder left.toNumber right.toNumber)
  | .eq => .bool (left.looseEq right)
  | .ne => .bool (!left.looseEq right)
  | .strictEq => .bool (left.strictEq right)
  | .strictNe => .bool (!left.strictEq right)
  | .lt => related (·.isLT) left right
  | .le => related (·.isLE) left right
  | .gt => related (·.isGT) left right
  | .ge => related (·.isGE) left right
  | .and => if left.isTruthy then right else left
  | .or => if left.isTruthy then left else right

/-- A logical operator whose left operand decides does not evaluate the right one. -/
def isDecided (op : BinaryOp) (left : Value) : Bool :=
  match op with
  | .and => !left.isTruthy
  | .or => left.isTruthy
  | _ => false

/-! ## Functions -/

/-- Folds the numbers of the arguments by a choice between two; `NaN` among them gives `NaN`. Of two
zeros with different signs the last one is taken if each replaces the other. -/
def foldNumbers (replaces : Float → Float → Bool) (start : Float) (args : List Value) : Float :=
  (args.map Value.toNumber).foldl
    (fun best number =>
      if Number.isNaN best || Number.isNaN number then Number.notANumber
      else if replaces number best then number
      else best)
    start

/-- The number of the first argument; a function without arguments has `NaN` for it. -/
def firstNumber (args : List Value) : Float :=
  match args with
  | [] => Number.notANumber
  | arg :: _ => arg.toNumber

/-- A part of the date of the first argument as a number. -/
def datePart (part : Date → Int) (args : List Value) : Value :=
  match args.head?.bind Value.moment? with
  | some moment => .number (Number.ofInt (part moment.date))
  | none => .number Number.notANumber

def callFunction (now : Moment) (function : Function) (args : List Value) : Value :=
  match function with
  | .abs => .number (firstNumber args).abs
  | .round => .number (Number.floor (firstNumber args + 0.5))
  | .floor => .number (Number.floor (firstNumber args))
  | .ceil => .number (Number.ceiling (firstNumber args))
  | .min => .number (foldNumbers (fun number best => number ≤ best) Number.infinity args)
  | .max => .number (foldNumbers (fun number best => best ≤ number) Number.negativeInfinity args)
  | .sqrt => .number (firstNumber args).sqrt
  | .today => .date (Moment.midnight now.date)
  | .now => .date now
  | .year => datePart (·.year) args
  | .month => datePart (·.month) args
  | .day => datePart (·.day) args
  | .date =>
    match args.head?.bind Value.moment? with
    | some moment => .date moment
    | none => .null

/-! ## Methods -/

def callOnText (name : String) (text : String) (args : List Value) : Except EvalError Value :=
  let chars := text.toList
  let needle := match args with
    | [] => "undefined".toList
    | arg :: _ => arg.displayChars
  if name = "contains" ∨ name = "includes" then .ok (.bool (Text.occursIn needle chars))
  else if name = "startsWith" then .ok (.bool (needle.isPrefixOf chars))
  else if name = "endsWith" then .ok (.bool (needle.isSuffixOf chars))
  else if name = "split" then
    match args with
    | [] => .ok (.list [.text text])
    | _ => .ok (.list ((Text.pieces needle chars).map fun piece => .text (String.ofList piece)))
  else .error (.unsupportedMethod name)

def callOnList (name : String) (items : List Value) (args : List Value) :
    Except EvalError Value :=
  if name = "contains" ∨ name = "includes" then
    .ok (.bool (items.any fun item => item.strictEq (args.headD .null)))
  else if name = "startsWith" ∨ name = "endsWith" ∨ name = "split" then
    .error (.typeMismatch name (Value.display (.list items)))
  else .error (.unsupportedMethod name)

def textMethods : List String :=
  ["contains", "includes", "startsWith", "endsWith", "split"]

def callMethod (target : Value) (name : String) (args : List Value) : Except EvalError Value :=
  if name = "isEmpty" then .ok (.bool target.isEmpty)
  else
    match target with
    | .null => .error (.nullAccess name)
    | .text text => callOnText name text args
    | .list items => callOnList name items args
    | _ =>
      if name ∈ textMethods then .error (.typeMismatch name target.display)
      else .error (.unsupportedMethod name)

/-! ## Evaluation -/

mutual

/-- Evaluates an expression. The arguments of a method are evaluated before its target. -/
def evalIn (context : Context) : Expr → Except EvalError Value
  | .literal value => .ok value
  | .property path => readPath context path
  | .unary op operand => do .ok (applyUnary op (← evalIn context operand))
  | .binary op left right => do
    let left ← evalIn context left
    if isDecided op left then .ok left
    else do .ok (applyBinary op left (← evalIn context right))
  | .call function args => do .ok (callFunction context.now function (← evalAllIn context args))
  | .method target name args => do
    let args ← evalAllIn context args
    if isHasProperty target name then
      let property := match args with
        | [] => ""
        | arg :: _ => arg.display
      .ok (.bool (context.record.hasProperty property))
    else callMethod (← evalIn context target) name args
  | .member target name => do readMember context.mode (← evalIn context target) name

def evalAllIn (context : Context) : List Expr → Except EvalError (List Value)
  | [] => .ok []
  | expr :: rest => do
    let value ← evalIn context expr
    .ok (value :: (← evalAllIn context rest))

end

def eval (now : Moment) (record : Record) (expr : Expr) : Except EvalError Value :=
  evalIn ⟨record, .predicate, now⟩ expr

/-- Evaluates an expression as a formula. A path without a value is reported before anything is
evaluated, the first one from the left. -/
def evalFormula (now : Moment) (record : Record) (expr : Expr) : Except EvalError Value :=
  match expr.paths.find? fun path => !hasInput record path with
  | some path => .error (.missingInput (dotted path))
  | none => evalIn ⟨record, .formula, now⟩ expr

end NoteBase.Expr
