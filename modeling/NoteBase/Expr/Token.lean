import NoteBase.Number.Layout
import NoteBase.Text.Quoted

/-!
# Tokens of the expression language

Texts that hold no token give an invalid token, which keeps what is wrong with them and where. It is
the last token of its text, and is reported when a parser comes to it.
-/

namespace NoteBase.Expr

/-- What is wrong with a text that holds no token. Positions count characters from zero. -/
inductive LexicalError where
  /-- No token starts with this character, or it does not go on as it has to. -/
  | unexpectedChar (char : Char) (position : Nat)
  | unterminatedString (start : Nat)
  /-- A number with more than one digit that starts with zero. -/
  | leadingZero (start : Nat)
deriving DecidableEq

def LexicalError.message : LexicalError → String
  | .unexpectedChar char position =>
    "unexpected character '" ++ String.singleton char ++ "' at position " ++ toString position
  | .unterminatedString start => "unterminated string starting at position " ++ toString start
  | .leadingZero start => "number with a leading zero at position " ++ toString start

inductive Token where
  | ident (name : String)
  | number (value : Float)
  | text (value : String)
  | bool (value : Bool)
  | null
  | plus
  | minus
  | star
  | slash
  | percent
  | not
  | andAnd
  | orOr
  | eq
  | ne
  | strictEq
  | strictNe
  | lt
  | le
  | gt
  | ge
  | leftParen
  | rightParen
  | comma
  | dot
  | invalid (error : LexicalError)
deriving DecidableEq

/-! ## Tokens in messages -/

/-- A number in a message has a fraction in positional notation, which is used from `1e-4` up to
below `1e16`, and an exponent without a plus elsewhere. -/
def messageLayout : Number.Layout where
  fixedFrom := some (-4)
  fixedBelow := 16
  tie := .up
  pointZero := true
  plusSign := false

def numberInMessage (value : Float) : String :=
  if Number.isFinite value then String.ofList (messageLayout.chars value)
  else if Number.isNaN value then "NaN"
  else if Number.isNegative value then "-inf"
  else "inf"

namespace Token

def inMessage : Token → String
  | .ident name => "Ident(" ++ Text.quoted name ++ ")"
  | .number value => "Number(" ++ numberInMessage value ++ ")"
  | .text value => "String(" ++ Text.quoted value ++ ")"
  | .bool value => if value then "Bool(true)" else "Bool(false)"
  | .null => "Null"
  | .plus => "Plus"
  | .minus => "Minus"
  | .star => "Star"
  | .slash => "Slash"
  | .percent => "Percent"
  | .not => "Not"
  | .andAnd => "AndAnd"
  | .orOr => "OrOr"
  | .eq => "Eq"
  | .ne => "Ne"
  | .strictEq => "StrictEq"
  | .strictNe => "StrictNe"
  | .lt => "Lt"
  | .le => "Le"
  | .gt => "Gt"
  | .ge => "Ge"
  | .leftParen => "LParen"
  | .rightParen => "RParen"
  | .comma => "Comma"
  | .dot => "Dot"
  | .invalid error => error.message

/-- The name of the token that comes next in a message; behind the last one is the end. -/
def nextInMessage : List Token → String
  | [] => "Eof"
  | token :: _ => token.inMessage

end Token

end NoteBase.Expr
