import NoteBase.Expr.Parser

/-!
# The grammar of expressions

The token sequences that stand for an expression, by level: operators from `||` down to `*`, `/` and
`%`, all of them left-associative, then unary operators, then members and method calls, then
primaries. A derivation also says how deep parentheses, arguments and operands of unary operators
are nested in it, which the tree does not show.

Every phrase starts with a token that tells its kind, which is what a parser with one token of
look-ahead needs.
-/

namespace NoteBase

open NoteBase.Expr (Token)

/-! ## Operators as they are written -/

namespace UnaryOp

def token : UnaryOp → Token
  | .not => .not
  | .negate => .minus
  | .plus => .plus

theorem token_ne_invalid (op : UnaryOp) (error : Expr.LexicalError) :
    op.token ≠ .invalid error := by
  cases op <;> exact nofun

end UnaryOp

namespace BinaryOp

def token : BinaryOp → Token
  | .add => .plus
  | .sub => .minus
  | .mul => .star
  | .div => .slash
  | .rem => .percent
  | .eq => .eq
  | .ne => .ne
  | .strictEq => .strictEq
  | .strictNe => .strictNe
  | .lt => .lt
  | .le => .le
  | .gt => .gt
  | .ge => .ge
  | .and => .andAnd
  | .or => .orOr

theorem token_ne_invalid (op : BinaryOp) (error : Expr.LexicalError) :
    op.token ≠ .invalid error := by
  cases op <;> exact nofun

end BinaryOp

namespace Expr.Grammar

open NoteBase.Expr.Parser (topLevel)

/-! ## Phrases -/

mutual

/-- `Primary tokens expr depth`: the tokens are a literal, a name, a call, or an expression in
parentheses, and nest `depth` deep. -/
inductive Primary : List Token → Expr → Nat → Prop
  | number (value : Float) : Primary [.number value] (.literal (.number value)) 0
  | text (value : String) : Primary [.text value] (.literal (.text value)) 0
  | bool (value : Bool) : Primary [.bool value] (.literal (.bool value)) 0
  | null : Primary [.null] (.literal .null) 0
  | name (name : String) : Primary [.ident name] (.property [name]) 0
  | call (function : Function) {tokens : List Token} {args : List Expr} {depth : Nat} :
      Arguments tokens args depth →
      Primary (.ident function.name :: tokens) (.call function args) depth
  | group {tokens : List Token} {expr : Expr} {depth : Nat} :
      Chain topLevel tokens expr depth →
      Primary (.leftParen :: tokens ++ [.rightParen]) expr (depth + 1)

/-- A primary with members and method calls behind it. A name behind a path extends the path. -/
inductive Selection : List Token → Expr → Nat → Prop
  | primary {tokens : List Token} {expr : Expr} {depth : Nat} :
      Primary tokens expr depth → Selection tokens expr depth
  | path {tokens : List Token} {names : List String} {depth : Nat} (name : String) :
      Selection tokens (.property names) depth →
      Selection (tokens ++ [.dot, .ident name]) (.property (names ++ [name])) depth
  | member {tokens : List Token} {target : Expr} {depth : Nat} (name : String) :
      Selection tokens target depth → (∀ names, target ≠ .property names) →
      Selection (tokens ++ [.dot, .ident name]) (.member target name) depth
  | method {tokens argTokens : List Token} {target : Expr} {args : List Expr}
      {depth argDepth : Nat} (name : String) :
      Selection tokens target depth → Arguments argTokens args argDepth →
      Selection (tokens ++ .dot :: .ident name :: argTokens) (.method target name args)
        (max depth argDepth)

inductive Arguments : List Token → List Expr → Nat → Prop
  | empty : Arguments [.leftParen, .rightParen] [] 0
  | items {tokens : List Token} {args : List Expr} {depth : Nat} :
      Items tokens args depth →
      Arguments (.leftParen :: tokens ++ [.rightParen]) args depth

/-- One or more expressions with commas between them. -/
inductive Items : List Token → List Expr → Nat → Prop
  | last {tokens : List Token} {expr : Expr} {depth : Nat} :
      Chain topLevel tokens expr depth → Items tokens [expr] (depth + 1)
  | more {tokens rest : List Token} {expr : Expr} {args : List Expr} {depth restDepth : Nat} :
      Chain topLevel tokens expr depth → Items rest args restDepth →
      Items (tokens ++ .comma :: rest) (expr :: args) (max (depth + 1) restDepth)

inductive Unary : List Token → Expr → Nat → Prop
  | selection {tokens : List Token} {expr : Expr} {depth : Nat} :
      Selection tokens expr depth → Unary tokens expr depth
  | operator (op : UnaryOp) {tokens : List Token} {operand : Expr} {depth : Nat} :
      Unary tokens operand depth → Unary (op.token :: tokens) (.unary op operand) (depth + 1)

/-- Binary operators up to a level. An operator has its own level on the left and the one below on
the right. -/
inductive Chain : Nat → List Token → Expr → Nat → Prop
  | unary {tokens : List Token} {expr : Expr} {depth : Nat} :
      Unary tokens expr depth → Chain 0 tokens expr depth
  | lift {level : Nat} {tokens : List Token} {expr : Expr} {depth : Nat} :
      Chain level tokens expr depth → Chain (level + 1) tokens expr depth
  | operator (op : BinaryOp) {level : Nat} {leftTokens rightTokens : List Token}
      {left right : Expr} {leftDepth rightDepth : Nat} :
      op.level = level + 1 →
      Chain (level + 1) leftTokens left leftDepth → Chain level rightTokens right rightDepth →
      Chain (level + 1) (leftTokens ++ op.token :: rightTokens) (.binary op left right)
        (max leftDepth rightDepth)

end

abbrev Expression : List Token → Expr → Nat → Prop :=
  Chain topLevel

/-! ## Operators as they are read -/

theorem unaryOp?_eq_some_iff {token : Token} {op : UnaryOp} :
    Parser.unaryOp? token = some op ↔ token = op.token := by
  constructor
  · intro found
    cases token <;> cases found <;> rfl
  · rintro rfl
    cases op <;> rfl

theorem binaryOp?_eq_some_iff {token : Token} {op : BinaryOp} :
    Parser.binaryOp? token = some op ↔ token = op.token := by
  constructor
  · intro found
    cases token <;> cases found <;> rfl
  · rintro rfl
    cases op <;> rfl

theorem opAtLevel?_eq_some_iff {level : Nat} {token : Token} {op : BinaryOp} :
    Parser.opAtLevel? level token = some op ↔ token = op.token ∧ op.level = level := by
  simp [Parser.opAtLevel?, Option.filter_eq_some_iff, binaryOp?_eq_some_iff]

theorem ofName?_eq_some_iff {name : String} {function : Function} :
    Function.ofName? name = some function ↔ name = function.name := by
  constructor
  · intro found
    have holds := List.find?_some found
    simpa using (of_decide_eq_true holds).symm
  · rintro rfl
    cases function <;> rfl

/-! ## First tokens -/

def startsPrimary : Token → Bool
  | .number _ => true
  | .text _ => true
  | .bool _ => true
  | .null => true
  | .ident _ => true
  | .leftParen => true
  | _ => false

def startsOperand (token : Token) : Bool :=
  startsPrimary token || (Parser.unaryOp? token).isSome

theorem Primary.starts {tokens : List Token} {expr : Expr} {depth : Nat}
    (primary : Primary tokens expr depth) :
    ∃ first rest, tokens = first :: rest ∧ startsPrimary first = true := by
  cases primary <;> exact ⟨_, _, rfl, rfl⟩

theorem Selection.starts :
    ∀ {tokens : List Token} {expr : Expr} {depth : Nat}, Selection tokens expr depth →
      ∃ first rest, tokens = first :: rest ∧ startsPrimary first = true
  | _, _, _, .primary inner => inner.starts
  | _, _, _, .path _ target => by
      obtain ⟨first, rest, rfl, starts⟩ := Selection.starts target
      exact ⟨first, _, rfl, starts⟩
  | _, _, _, .member _ target _ => by
      obtain ⟨first, rest, rfl, starts⟩ := Selection.starts target
      exact ⟨first, _, rfl, starts⟩
  | _, _, _, .method _ target _ => by
      obtain ⟨first, rest, rfl, starts⟩ := Selection.starts target
      exact ⟨first, _, rfl, starts⟩

theorem Unary.starts {tokens : List Token} {expr : Expr} {depth : Nat}
    (unary : Unary tokens expr depth) :
    ∃ first rest, tokens = first :: rest ∧ startsOperand first = true := by
  cases unary with
  | selection inner =>
      obtain ⟨first, rest, tokensEq, starts⟩ := inner.starts
      exact ⟨first, rest, tokensEq, by simp [startsOperand, starts]⟩
  | operator op _ =>
      have read : Parser.unaryOp? op.token = some op := unaryOp?_eq_some_iff.mpr rfl
      exact ⟨op.token, _, rfl, by simp [startsOperand, read]⟩

theorem Chain.starts :
    ∀ {level : Nat} {tokens : List Token} {expr : Expr} {depth : Nat},
      Chain level tokens expr depth →
        ∃ first rest, tokens = first :: rest ∧ startsOperand first = true
  | _, _, _, _, .unary inner => inner.starts
  | _, _, _, _, .lift inner => Chain.starts inner
  | _, _, _, _, .operator _ _ left _ => by
      obtain ⟨first, rest, rfl, starts⟩ := Chain.starts left
      exact ⟨first, _, rfl, starts⟩

theorem Chain.length_pos {level : Nat} {tokens : List Token} {expr : Expr} {depth : Nat}
    (chain : Chain level tokens expr depth) : 0 < tokens.length := by
  obtain ⟨first, rest, rfl, _⟩ := chain.starts
  exact Nat.succ_pos rest.length

theorem Items.starts {tokens : List Token} {args : List Expr} {depth : Nat}
    (items : Items tokens args depth) :
    ∃ first rest, tokens = first :: rest ∧ startsOperand first = true := by
  cases items with
  | last inner =>
      exact inner.starts
  | more inner _ =>
      obtain ⟨first, rest, rfl, starts⟩ := inner.starts
      exact ⟨first, _, rfl, starts⟩

/-! ## Last tokens -/

def endsOperand : Token → Bool
  | .number _ => true
  | .text _ => true
  | .bool _ => true
  | .null => true
  | .ident _ => true
  | .rightParen => true
  | _ => false

/-- What the last token of a phrase is does not depend on the tokens in front of it. -/
theorem exists_last_of_append {tokens : List Token} (front : List Token)
    (ends : ∃ initial last, tokens = initial ++ [last] ∧ endsOperand last = true) :
    ∃ initial last, front ++ tokens = initial ++ [last] ∧ endsOperand last = true := by
  obtain ⟨initial, last, rfl, isEnd⟩ := ends
  exact ⟨front ++ initial, last, (List.append_assoc _ _ _).symm, isEnd⟩

theorem Arguments.ends {tokens : List Token} {args : List Expr} {depth : Nat}
    (arguments : Arguments tokens args depth) :
    ∃ initial last, tokens = initial ++ [last] ∧ endsOperand last = true := by
  cases arguments with
  | empty => exact ⟨[.leftParen], .rightParen, rfl, rfl⟩
  | items _ => exact ⟨_, .rightParen, rfl, rfl⟩

theorem Primary.ends {tokens : List Token} {expr : Expr} {depth : Nat}
    (primary : Primary tokens expr depth) :
    ∃ initial last, tokens = initial ++ [last] ∧ endsOperand last = true := by
  cases primary with
  | number value => exact ⟨[], .number value, rfl, rfl⟩
  | text value => exact ⟨[], .text value, rfl, rfl⟩
  | bool value => exact ⟨[], .bool value, rfl, rfl⟩
  | null => exact ⟨[], .null, rfl, rfl⟩
  | name name => exact ⟨[], .ident name, rfl, rfl⟩
  | call function arguments => exact exists_last_of_append [_] arguments.ends
  | group _ => exact ⟨_, .rightParen, rfl, rfl⟩

theorem Selection.ends {tokens : List Token} {expr : Expr} {depth : Nat}
    (selection : Selection tokens expr depth) :
    ∃ initial last, tokens = initial ++ [last] ∧ endsOperand last = true := by
  cases selection with
  | primary inner => exact inner.ends
  | path name _ => exact exists_last_of_append _ ⟨[.dot], .ident name, rfl, rfl⟩
  | member name _ _ => exact exists_last_of_append _ ⟨[.dot], .ident name, rfl, rfl⟩
  | method name _ arguments =>
      exact exists_last_of_append _ (exists_last_of_append [.dot, .ident name] arguments.ends)

theorem Unary.ends :
    ∀ {tokens : List Token} {expr : Expr} {depth : Nat}, Unary tokens expr depth →
      ∃ initial last, tokens = initial ++ [last] ∧ endsOperand last = true
  | _, _, _, .selection inner => inner.ends
  | _, _, _, .operator _ inner => exists_last_of_append [_] (Unary.ends inner)

/-- No phrase ends with an operator. -/
theorem Chain.ends :
    ∀ {level : Nat} {tokens : List Token} {expr : Expr} {depth : Nat},
      Chain level tokens expr depth →
        ∃ initial last, tokens = initial ++ [last] ∧ endsOperand last = true
  | _, _, _, _, .unary inner => inner.ends
  | _, _, _, _, .lift inner => Chain.ends inner
  | _, _, _, _, .operator _ _ _ right =>
      exists_last_of_append _ (exists_last_of_append [_] (Chain.ends right))

/-! ## No phrase has an invalid token -/

def Valid (tokens : List Token) : Prop :=
  ∀ error, Token.invalid error ∉ tokens

theorem valid_nil : Valid [] :=
  fun _ member => by cases member

theorem valid_cons {token : Token} {tokens : List Token}
    (isValid : ∀ error, token ≠ .invalid error) (rest : Valid tokens) :
    Valid (token :: tokens) := by
  intro error member
  rcases List.mem_cons.mp member with same | inside
  · exact isValid error same.symm
  · exact rest error inside

theorem valid_singleton {token : Token} (isValid : ∀ error, token ≠ .invalid error) :
    Valid [token] :=
  valid_cons isValid valid_nil

theorem Valid.append {left right : List Token} (leftValid : Valid left)
    (rightValid : Valid right) : Valid (left ++ right) := by
  intro error member
  rcases List.mem_append.mp member with inLeft | inRight
  · exact leftValid error inLeft
  · exact rightValid error inRight

mutual

theorem Primary.valid :
    ∀ {tokens : List Token} {expr : Expr} {depth : Nat}, Primary tokens expr depth → Valid tokens
  | _, _, _, .number _ => valid_singleton nofun
  | _, _, _, .text _ => valid_singleton nofun
  | _, _, _, .bool _ => valid_singleton nofun
  | _, _, _, .null => valid_singleton nofun
  | _, _, _, .name _ => valid_singleton nofun
  | _, _, _, .call _ arguments => valid_cons nofun arguments.valid
  | _, _, _, .group inner => valid_cons nofun (inner.valid.append (valid_singleton nofun))

theorem Selection.valid :
    ∀ {tokens : List Token} {expr : Expr} {depth : Nat}, Selection tokens expr depth → Valid tokens
  | _, _, _, .primary inner => inner.valid
  | _, _, _, .path _ target =>
      target.valid.append (valid_cons nofun (valid_singleton nofun))
  | _, _, _, .member _ target _ =>
      target.valid.append (valid_cons nofun (valid_singleton nofun))
  | _, _, _, .method _ target arguments =>
      target.valid.append (valid_cons nofun (valid_cons nofun arguments.valid))

theorem Arguments.valid :
    ∀ {tokens : List Token} {args : List Expr} {depth : Nat},
      Arguments tokens args depth → Valid tokens
  | _, _, _, .empty => valid_cons nofun (valid_singleton nofun)
  | _, _, _, .items items => valid_cons nofun (items.valid.append (valid_singleton nofun))

theorem Items.valid :
    ∀ {tokens : List Token} {args : List Expr} {depth : Nat},
      Items tokens args depth → Valid tokens
  | _, _, _, .last inner => inner.valid
  | _, _, _, .more inner others => inner.valid.append (valid_cons nofun others.valid)

theorem Unary.valid :
    ∀ {tokens : List Token} {expr : Expr} {depth : Nat}, Unary tokens expr depth → Valid tokens
  | _, _, _, .selection inner => inner.valid
  | _, _, _, .operator op inner => valid_cons op.token_ne_invalid inner.valid

theorem Chain.valid :
    ∀ {level : Nat} {tokens : List Token} {expr : Expr} {depth : Nat},
      Chain level tokens expr depth → Valid tokens
  | _, _, _, _, .unary inner => inner.valid
  | _, _, _, _, .lift inner => inner.valid
  | _, _, _, _, .operator op _ left right =>
      left.valid.append (valid_cons op.token_ne_invalid right.valid)

end

end Expr.Grammar

end NoteBase
