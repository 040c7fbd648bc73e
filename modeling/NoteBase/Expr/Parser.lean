import NoteBase.Expr.Basic
import NoteBase.Expr.Lexer

/-!
# From tokens to expressions

A parser takes tokens from the front and counts the inner nodes that it builds. Parentheses,
arguments and operands of unary operators may be nested 64 deep; the parser of each depth is built
from the one of the depth below. A tree may have at most 1024 inner nodes and 256 levels.
-/

namespace NoteBase.Expr

/-! ## Limits -/

/-- How deep parentheses, arguments and operands of unary operators may be nested. -/
def maxDepth : Nat := 64

def maxNodes : Nat := 1024

def maxHeight : Nat := 256

/-! ## Errors -/

/-- What a parser was looking for when it found something else. -/
inductive Expectation where
  | token (token : Token)
  | memberName
  | separator
  | value
  | finish
deriving DecidableEq

inductive SyntaxError where
  | lexical (error : LexicalError)
  /-- Something else was expected in front of these tokens. -/
  | unexpected (expected : Expectation) (found : List Token)
  | unknownFunction (name : String)
  | tooComplex

def Expectation.inMessage : Expectation → String
  | .token expected => expected.inMessage
  | .memberName => "member name"
  | .separator => "',' or ')'"
  | .value => "value"
  | .finish => "end of expression"

def SyntaxError.message : SyntaxError → String
  | .lexical error => error.message
  | .unexpected expected found =>
    "expected " ++ expected.inMessage ++ ", got " ++ Token.nextInMessage found
  | .unknownFunction name => "unknown function '" ++ name ++ "'"
  | .tooComplex => "expression too complex"

/-! ## Parsers -/

/-- The tokens that are left and the number of inner nodes so far. -/
structure ParserState where
  tokens : List Token
  nodes : Nat

/-- A parser takes tokens from the front, or fails. -/
abbrev Parser (Result : Type) := ParserState → Except SyntaxError (Result × ParserState)

namespace Parser

def arrive (tokens : List Token) (nodes : Nat) : Except SyntaxError ParserState :=
  match tokens with
  | .invalid error :: _ => .error (.lexical error)
  | _ => .ok ⟨tokens, nodes⟩

def advance (state : ParserState) : Except SyntaxError ParserState :=
  arrive state.tokens.tail state.nodes

def expect (token : Token) (state : ParserState) : Except SyntaxError ParserState :=
  if state.tokens.head? = some token then advance state
  else .error (.unexpected (.token token) state.tokens)

def node (expr : Expr) : Parser Expr := fun state =>
  if state.nodes + 1 ≤ maxNodes then .ok (expr, ⟨state.tokens, state.nodes + 1⟩)
  else .error .tooComplex

def tooDeep : Parser Expr := fun _ => .error .tooComplex

/-! ## Arguments and primaries -/

/-- Parses arguments up to the closing parenthesis; there is at least one. `fuel` bounds their
number. -/
def argsFrom (argument : Parser Expr) : Nat → Parser (List Expr)
  | 0 => fun _ => .error .tooComplex
  | fuel + 1 => fun state => do
    let (arg, state) ← argument state
    match state.tokens with
    | .comma :: _ =>
      let state ← advance state
      let (args, state) ← argsFrom argument fuel state
      .ok (arg :: args, state)
    | .rightParen :: _ =>
      let state ← advance state
      .ok ([arg], state)
    | found => .error (.unexpected .separator found)

def args (argument : Parser Expr) : Parser (List Expr) := fun state => do
  let state ← expect .leftParen state
  match state.tokens with
  | .rightParen :: _ =>
    let state ← advance state
    .ok ([], state)
  | _ => argsFrom argument (state.tokens.length + 1) state

/-- Parses a literal, a name, a call, or an expression in parentheses. -/
def primary (nested : Parser Expr) : Parser Expr := fun state =>
  match state.tokens with
  | .number value :: _ => do .ok (.literal (.number value), ← advance state)
  | .text value :: _ => do .ok (.literal (.text value), ← advance state)
  | .bool value :: _ => do .ok (.literal (.bool value), ← advance state)
  | .null :: _ => do .ok (.literal .null, ← advance state)
  | .leftParen :: _ => do
    let (expr, state) ← nested (← advance state)
    .ok (expr, ← expect .rightParen state)
  | .ident name :: _ => do
    let state ← advance state
    match state.tokens with
    | .leftParen :: _ =>
      match Function.ofName? name with
      | some function =>
        let (args, state) ← args nested state
        node (.call function args) state
      | none => .error (.unknownFunction name)
    | _ => .ok (.property [name], state)
  | found => .error (.unexpected .value found)

/-! ## Postfix and unary operators -/

/-- A name behind a point extends a path, and is a member of anything else. -/
def select (target : Expr) (name : String) : Parser Expr := fun state =>
  match target with
  | .property path => .ok (.property (path ++ [name]), state)
  | _ => node (.member target name) state

/-- Parses members and method calls behind a target. `fuel` bounds their number. -/
def postfixFrom (nested : Parser Expr) : Nat → Expr → Parser Expr
  | 0, target => fun state => .ok (target, state)
  | fuel + 1, target => fun state =>
    match state.tokens with
    | .dot :: _ => do
      let state ← advance state
      match state.tokens with
      | .ident name :: _ =>
        let state ← advance state
        let (target, state) ←
          match state.tokens with
          | .leftParen :: _ => do
            let (args, state) ← args nested state
            node (.method target name args) state
          | _ => select target name state
        postfixFrom nested fuel target state
      | found => .error (.unexpected .memberName found)
    | _ => .ok (target, state)

/-- Parses a primary with members and method calls behind it. -/
def postfixed (nested : Parser Expr) : Parser Expr := fun state => do
  let (target, state) ← primary nested state
  postfixFrom nested state.tokens.length target state

def unaryOp? : Token → Option UnaryOp
  | .not => some .not
  | .minus => some .negate
  | .plus => some .plus
  | _ => none

/-- Parses a unary operator with its operand, or a postfixed primary. -/
def unary (nested operand : Parser Expr) : Parser Expr := fun state =>
  match state.tokens.head?.bind unaryOp? with
  | some op => do
    let (expr, state) ← operand (← advance state)
    node (.unary op expr) state
  | none => postfixed nested state

/-! ## Binary operators -/

def binaryOp? : Token → Option BinaryOp
  | .plus => some .add
  | .minus => some .sub
  | .star => some .mul
  | .slash => some .div
  | .percent => some .rem
  | .eq => some .eq
  | .ne => some .ne
  | .strictEq => some .strictEq
  | .strictNe => some .strictNe
  | .lt => some .lt
  | .le => some .le
  | .gt => some .gt
  | .ge => some .ge
  | .andAnd => some .and
  | .orOr => some .or
  | _ => none

/-- The binary operator of one level that a token stands for. -/
def opAtLevel? (level : Nat) (token : Token) : Option BinaryOp :=
  (binaryOp? token).filter fun op => op.level = level

/-- Parses the operators of one level behind a left operand, each with its right operand, from left
to right. `fuel` bounds their number. -/
def chainFrom (level : Nat) (operand : Parser Expr) : Nat → Expr → Parser Expr
  | 0, left => fun state => .ok (left, state)
  | fuel + 1, left => fun state =>
    match state.tokens.head?.bind (opAtLevel? level) with
    | some op => do
      let (right, state) ← operand (← advance state)
      let (left, state) ← node (.binary op left right) state
      chainFrom level operand fuel left state
    | none => .ok (left, state)

/-- Parses the operators up to a level over a parser of the operands of the first one. -/
def chains (operand : Parser Expr) : Nat → Parser Expr
  | 0 => operand
  | level + 1 => fun state => do
    let (left, state) ← chains operand level state
    chainFrom (level + 1) (chains operand level) state.tokens.length left state

/-- The level of the operator that binds least tightly. -/
def topLevel : Nat := 6

/-! ## Expressions -/

/-- Parses a unary operand in which this much may still be nested. -/
def unaryAt : Nat → Parser Expr
  | 0 => unary tooDeep tooDeep
  | depth + 1 =>
    let operand := unaryAt depth
    unary (chains operand topLevel) operand

/-- Parses an expression in which this much may still be nested. -/
def exprAt (depth : Nat) : Parser Expr :=
  chains (unaryAt depth) topLevel

end Parser

/-- Parses tokens that hold one expression and nothing else. -/
def ofTokens (tokens : List Token) : Except SyntaxError Expr := do
  let (expr, state) ← Parser.exprAt maxDepth (← Parser.arrive tokens 0)
  if state.tokens.isEmpty then
    if expr.height ≤ maxHeight then .ok expr else .error .tooComplex
  else .error (.unexpected .finish state.tokens)

/-- Parses a text that holds one expression and nothing else. -/
def parse (text : String) : Except SyntaxError Expr :=
  ofTokens (tokens text)

end NoteBase.Expr
