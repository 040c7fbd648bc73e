import NoteBase.Predicate.Shape

/-!
# Evaluating predicates

A predicate holds of a record or not; one that is malformed or has no value does not hold.
-/

namespace NoteBase.Predicate

open Calendar (Moment)

/-- Whether an expression is well formed, has a value, and that value is truthy. -/
def holdsAsExpression (now : Moment) (record : Record) (text : String) : Bool :=
  match Expr.parse text with
  | .error _ => false
  | .ok expr =>
    match Expr.eval now record expr with
    | .error _ => false
    | .ok value => value.isTruthy

/-- The text of a property that a test looks at: nothing if the value is not truthy. -/
def testedText (record : Record) (property : String) : List Char :=
  match record.lookup property with
  | some value => if value.isTruthy then value.displayChars else []
  | none => []

def TextTest.holds (test : TextTest) (needle text : List Char) : Bool :=
  match test with
  | .startsWith => needle.isPrefixOf text
  | .endsWith => needle.isSuffixOf text
  | .contains => Text.occursIn needle text

/-- A truth value, or with `negated` its negation. -/
def negateIf (negated result : Bool) : Bool :=
  if negated then !result else result

/-- Whether a predicate of a shape holds of a record. -/
def Shape.holds (now : Moment) (record : Record) (text : String) : Shape → Bool
  | .hasProperty negated name => negateIf negated (record.hasProperty name)
  | .textTest negated property test needle =>
    negateIf negated (test.holds needle.toList (testedText record property))
  | .comparison left op right =>
    match op with
    | some op => compareValues (operand now record left) op (operand now record right)
    | none => false
  | .existence key => (record.get? key).any fun value => !value.isNull
  | .expression => holdsAsExpression now record text

def evaluate (now : Moment) (record : Record) (text : String) : Bool :=
  let chars := Text.trimChars text.toList
  (Shape.of chars).holds now record (String.ofList chars)

end NoteBase.Predicate
