import NoteBase.Predicate.Evaluate
import NoteBase.Proofs.Value.Order

/-!
# Comparisons in predicates and in expressions

A comparison in a predicate asks for the numbers of its operands, whatever they are. The same
operator in an expression asks for the relational order, which compares lists by their texts and
dates by their numbers before it decides between texts and numbers. Both agree on operands that are
not null, unless both are textual: then only the expression compares texts.
-/

namespace NoteBase

open Calendar (Moment)
open NoteBase.Expr (Context evalIn isTextual)

/-- The operator of a predicate that is written like that of an expression. -/
def RelationalOp.comparison : RelationalOp → Predicate.ComparisonOp
  | .lt => .lt
  | .le => .le
  | .gt => .gt
  | .ge => .ge

namespace Predicate

/-- Operands that are not null are compared by number. -/
theorem compareValues_by_number (op : RelationalOp) {left right : Value}
    (leftSome : left.isNull = false) (rightSome : right.isNull = false) :
    compareValues left op.comparison right =
      (Number.compare? left.toNumber right.toNumber).any op.accepts := by
  have bothSome : (left.isNull || right.isNull) = false := by
    rw [leftSome, rightSome, Bool.or_false]
  unfold compareValues
  rw [bothSome]
  cases op with
  | lt => exact Number.decide_lt left.toNumber right.toNumber
  | le => exact Number.decide_le left.toNumber right.toNumber
  | gt =>
      exact (Number.decide_lt right.toNumber left.toNumber).trans
        (Number.any_isGT_compare? left.toNumber right.toNumber).symm
  | ge =>
      exact (Number.decide_le right.toNumber left.toNumber).trans
        (Number.any_isGE_compare? left.toNumber right.toNumber).symm

/-- Operands that are not null and not both textual compare alike in a predicate and in the
relational order. Hence a predicate that is a comparison of such operands, and an expression with
the same operator and operands of the same values, give the same truth value. -/
theorem compareValues_relational (op : RelationalOp) {left right : Value}
    (leftSome : left.isNull = false) (rightSome : right.isNull = false)
    (notTexts : (isTextual left && isTextual right) = false) :
    (compareValues left op.comparison right = true ↔
        ∃ ordering, left.relationalCompare right = some ordering ∧ op.accepts ordering = true) ∧
      ∀ (now : Moment) (record : Record) (text leftText rightText : String) (context : Context)
        (leftExpr rightExpr : Expr),
        Shape.of (Text.trimChars text.toList) =
            .comparison leftText (some op.comparison) rightText →
          operand now record leftText = left → operand now record rightText = right →
            evalIn context leftExpr = .ok left → evalIn context rightExpr = .ok right →
              evalIn context (.binary op.binary leftExpr rightExpr) =
                .ok (.bool (evaluate now record text)) := by
  have same : compareValues left op.comparison right =
      (left.relationalCompare right).any op.accepts := by
    rw [compareValues_by_number op leftSome rightSome,
      Value.relationalCompare_of_not_texts notTexts]
  refine ⟨?_, ?_⟩
  · rw [same, Option.any_eq_true]
  · intro now record text leftText rightText context leftExpr rightExpr shape leftRead rightRead
      leftValue rightValue
    have compared : evaluate now record text = compareValues left op.comparison right := by
      rw [evaluate, shape, Shape.holds, leftRead, rightRead]
    rw [Expr.evalIn_relational op leftValue rightValue, compared, same]

/-- A note with the property `parts: ['12']`. -/
def partsNote : Record :=
  OrderedMap.ofList [("parts", .list [.text "12"])]

/-- The list is compared by the number of its text, in the predicate and in the expression. -/
theorem compareValues_relational_parts :
    (Value.list [.text "12"]).isNull = false ∧ (Value.number (Number.ofNat 12)).isNull = false ∧
      (isTextual (.list [.text "12"]) && isTextual (.number (Number.ofNat 12))) = false ∧
      Shape.of (Text.trimChars "parts >= 12".toList) = .comparison "parts" (some .ge) "12" ∧
      operand Moment.epoch partsNote "parts" = .list [.text "12"] ∧
      operand Moment.epoch partsNote "12" = .number (Number.ofNat 12) ∧
      evalIn ⟨partsNote, .predicate, Moment.epoch⟩ (.property ["parts"]) =
        .ok (.list [.text "12"]) ∧
      evaluate Moment.epoch partsNote "parts >= 12" = true ∧
      evalIn ⟨partsNote, .predicate, Moment.epoch⟩
          (.binary .ge (.property ["parts"]) (.literal (.number (Number.ofNat 12)))) =
        .ok (.bool true) := by
  have shape : Shape.of (Text.trimChars "parts >= 12".toList) =
      .comparison "parts" (some .ge) "12" := by decide +kernel
  have parts : operand Moment.epoch partsNote "parts" = .list [.text "12"] := rfl
  have number : plainNumber "12".toList = Number.ofNat 12 := by decide +kernel
  have twelve : operand Moment.epoch partsNote "12" = .number (Number.ofNat 12) := number ▸ rfl
  have holds : evaluate Moment.epoch partsNote "parts >= 12" = true := by decide +kernel
  have leftSome : (Value.list [.text "12"]).isNull = false := rfl
  have rightSome : (Value.number (Number.ofNat 12)).isNull = false := rfl
  obtain ⟨_, expression⟩ := compareValues_relational .ge leftSome rightSome rfl
  have same := expression Moment.epoch partsNote "parts >= 12" "parts" "12"
    ⟨partsNote, .predicate, Moment.epoch⟩ (.property ["parts"])
    (.literal (.number (Number.ofNat 12))) shape parts twelve rfl rfl
  exact ⟨leftSome, rightSome, rfl, shape, parts, twelve, rfl, holds, holds ▸ same⟩

end Predicate

end NoteBase
