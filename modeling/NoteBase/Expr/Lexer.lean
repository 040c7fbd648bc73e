import NoteBase.Expr.Token
import NoteBase.Number.Literal
import NoteBase.Text.Blank
import NoteBase.Text.Letter

/-!
# From text to tokens

Blanks separate tokens and are dropped. Every token is as long as it can be: a number takes a point
only if a digit follows, and an exponent only if it has a digit.
-/

namespace NoteBase.Expr

/-! ## Names -/

def isNameStart (char : Char) : Bool :=
  Text.isAlphabetic char || char == '_' || char == '$'

def isNameChar (char : Char) : Bool :=
  Text.isAlphanumeric char || char == '_' || char == '$'

/-- The token of a name: a few names are literals. -/
def nameToken (name : List Char) : Token :=
  let text := String.ofList name
  if text = "true" then .bool true
  else if text = "false" then .bool false
  else if text = "null" ∨ text = "undefined" then .null
  else .ident text

/-! ## Numbers -/

/-- The length of the fraction at the front: a point and the digits behind it, if there is one. -/
def fractionLength : List Char → Nat
  | '.' :: rest =>
    let digits := rest.takeWhile Char.isDigit
    if digits.isEmpty then 0 else digits.length + 1
  | _ => 0

/-- The length of the exponent at the front: its mark, an optional sign and its digits, if there is
one. -/
def exponentLength : List Char → Nat
  | mark :: rest =>
    if mark = 'e' ∨ mark = 'E' then
      let signLength := match rest with
        | '+' :: _ => 1
        | '-' :: _ => 1
        | _ => 0
      let digits := (rest.drop signLength).takeWhile Char.isDigit
      if digits.isEmpty then 0 else 1 + signLength + digits.length
    else 0
  | [] => 0

/-- The length of the number at the front of a text that starts with a digit. -/
def numberLength (chars : List Char) : Nat :=
  let whole := (chars.takeWhile Char.isDigit).length
  let fraction := fractionLength (chars.drop whole)
  whole + fraction + exponentLength (chars.drop (whole + fraction))

def hasLeadingZero (chars : List Char) : Bool :=
  match chars.takeWhile Char.isDigit with
  | '0' :: _ :: _ => true
  | _ => false

def numberToken (chars : List Char) : Token :=
  .number ((Number.ofDecimalLiteral? chars).getD Number.notANumber)

/-! ## Texts -/

/-- The character that stands behind a backslash for another one. -/
def unescape (char : Char) : Char :=
  if char = 'n' then '\n' else if char = 't' then '\t' else char

/-- The contents of a text up to its closing quote, and the number of characters taken with that
quote. -/
def stringBody? (quote : Char) : List Char → Option (List Char × Nat)
  | [] => none
  | '\\' :: rest =>
    match rest with
    | [] => none
    | escaped :: rest =>
      (stringBody? quote rest).map fun (body, taken) => (unescape escaped :: body, taken + 2)
  | char :: rest =>
    if char = quote then some ([], 1)
    else (stringBody? quote rest).map fun (body, taken) => (char :: body, taken + 1)

/-! ## One token -/

/-- The token at the front of a text that starts with a character that is no blank, and the number
of characters behind the first one that belong to it. -/
def lexeme (position : Nat) (char : Char) (rest : List Char) : Token × Nat :=
  match char, rest with
  | '(', _ => (.leftParen, 0)
  | ')', _ => (.rightParen, 0)
  | ',', _ => (.comma, 0)
  | '.', _ => (.dot, 0)
  | '+', _ => (.plus, 0)
  | '-', _ => (.minus, 0)
  | '*', _ => (.star, 0)
  | '/', _ => (.slash, 0)
  | '%', _ => (.percent, 0)
  | '=', '=' :: '=' :: _ => (.strictEq, 2)
  | '=', '=' :: _ => (.eq, 1)
  | '!', '=' :: '=' :: _ => (.strictNe, 2)
  | '!', '=' :: _ => (.ne, 1)
  | '!', _ => (.not, 0)
  | '<', '=' :: _ => (.le, 1)
  | '<', _ => (.lt, 0)
  | '>', '=' :: _ => (.ge, 1)
  | '>', _ => (.gt, 0)
  | '&', '&' :: _ => (.andAnd, 1)
  | '|', '|' :: _ => (.orOr, 1)
  | _, _ =>
    if char = '\'' ∨ char = '"' then
      match stringBody? char rest with
      | some (body, taken) => (.text (String.ofList body), taken)
      | none => (.invalid (.unterminatedString position), rest.length)
    else if char.isDigit then
      if hasLeadingZero (char :: rest) then (.invalid (.leadingZero position), rest.length)
      else
        let length := numberLength (char :: rest)
        (numberToken ((char :: rest).take length), length - 1)
    else if isNameStart char then
      let tail := rest.takeWhile isNameChar
      (nameToken (char :: tail), tail.length)
    else (.invalid (.unexpectedChar char position), rest.length)

/-! ## All tokens -/

/-- The tokens of a text that starts at a position. `skip` counts the characters that belong to the
token before. An invalid token takes the rest of the text. -/
def tokensFrom (position : Nat) : Nat → List Char → List Token
  | _, [] => []
  | skip + 1, _ :: rest => tokensFrom (position + 1) skip rest
  | 0, char :: rest =>
    if Text.isBlank char then tokensFrom (position + 1) 0 rest
    else
      let (token, taken) := lexeme position char rest
      token :: tokensFrom (position + 1) taken rest

def tokens (text : String) : List Token :=
  tokensFrom 0 0 text.toList

end NoteBase.Expr
