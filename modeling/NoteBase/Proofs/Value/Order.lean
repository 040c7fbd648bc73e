import NoteBase.Expr.Eval
import NoteBase.Proofs.Text.Collation
import NoteBase.Proofs.Value.Equality

/-!
# The relational order and equality

The relational order compares two textual values as texts and all others as numbers, in whichever
order they stand. Loose equality comes to the same two comparisons, by conversions of its own,
except for null, for dates and for two lists. For all other operands the operators of expressions
fit together: `<=` is `<` or `==`, and `==` excludes `<` and `>`.
-/

namespace NoteBase

/-! ## The operators -/

/-- The operators that ask for an order of their operands. -/
inductive RelationalOp where
  | lt
  | le
  | gt
  | ge
deriving DecidableEq

namespace RelationalOp

def binary : RelationalOp → BinaryOp
  | .lt => .lt
  | .le => .le
  | .gt => .gt
  | .ge => .ge

/-- Whether an operator holds of operands in this order. -/
def accepts : RelationalOp → Ordering → Bool
  | .lt => Ordering.isLT
  | .le => Ordering.isLE
  | .gt => Ordering.isGT
  | .ge => Ordering.isGE

end RelationalOp

namespace Expr

/-- Every operator but the logical ones evaluates both operands. -/
theorem evalIn_binary {context : Context} {op : BinaryOp} {leftExpr rightExpr : Expr}
    {left right : Value} (undecided : isDecided op left = false)
    (leftValue : evalIn context leftExpr = .ok left)
    (rightValue : evalIn context rightExpr = .ok right) :
    evalIn context (.binary op leftExpr rightExpr) = .ok (applyBinary op left right) := by
  rw [evalIn, leftValue]
  show (if isDecided op left = true then _ else _) = _
  rw [undecided, rightValue]
  rfl

theorem evalIn_relational (op : RelationalOp) {context : Context} {leftExpr rightExpr : Expr}
    {left right : Value} (leftValue : evalIn context leftExpr = .ok left)
    (rightValue : evalIn context rightExpr = .ok right) :
    evalIn context (.binary op.binary leftExpr rightExpr) =
      .ok (.bool ((left.relationalCompare right).any op.accepts)) := by
  have undecided : isDecided op.binary left = false := by cases op <;> rfl
  rw [evalIn_binary undecided leftValue rightValue]
  cases op <;> rfl

end Expr

namespace Value

open NoteBase.Expr (Context evalIn isTextual)

/-! ## The relational order -/

theorem display_text (text : String) : display (.text text) = text :=
  String.ofList_toList

theorem asPrimitive_of_isTextual {value : Value} (textual : isTextual value = true) :
    value.asPrimitive = .text value.display := by
  cases value with
  | text text => exact congrArg Value.text (display_text text).symm
  | list items => rfl
  | _ => cases textual

theorem relationalCompare_of_texts {left right : Value} (leftText : isTextual left = true)
    (rightText : isTextual right = true) :
    left.relationalCompare right = some (Text.compareCodes left.display right.display) := by
  rw [relationalCompare, asPrimitive_of_isTextual leftText, asPrimitive_of_isTextual rightText]

theorem isTextual_of_asPrimitive {value : Value} {text : String}
    (same : value.asPrimitive = .text text) : isTextual value = true := by
  cases value with
  | text _ => rfl
  | list _ => rfl
  | _ => cases same

theorem toNumber_asPrimitive (value : Value) : value.asPrimitive.toNumber = value.toNumber := by
  cases value <;> rfl

/-- Values that are not both textual are compared by number. -/
theorem relationalCompare_of_not_texts {left right : Value}
    (numeric : (isTextual left && isTextual right) = false) :
    left.relationalCompare right = Number.compare? left.toNumber right.toNumber := by
  unfold relationalCompare
  split
  · next leftText rightText =>
    rw [isTextual_of_asPrimitive leftText, isTextual_of_asPrimitive rightText] at numeric
    cases numeric
  · rw [toNumber_asPrimitive, toNumber_asPrimitive]

theorem relationalCompare_swap (left right : Value) :
    (left.relationalCompare right).map Ordering.swap = right.relationalCompare left := by
  by_cases texts : (isTextual left && isTextual right) = true
  · obtain ⟨leftText, rightText⟩ := Bool.and_eq_true_iff.mp texts
    rw [relationalCompare_of_texts leftText rightText,
      relationalCompare_of_texts rightText leftText]
    exact congrArg some (Text.compareCodes_swap left.display right.display)
  · have numeric := Bool.not_eq_true _ ▸ texts
    rw [relationalCompare_of_not_texts numeric,
      relationalCompare_of_not_texts (Bool.and_comm _ _ ▸ numeric), Number.compare?_swap]

/-! ## Loose equality -/

/-- Whether order and equality convert a value alike. Null is zero in the order and equal to nothing
else, and a date is ordered by its number and equal by its text. -/
def convertsAlike : Value → Bool
  | .null => false
  | .date _ => false
  | _ => true

/-- What loose equality compares is the text of a textual value, and the number of any other. -/
theorem plain_cases {value : Value} (alike : value.convertsAlike = true) :
    (isTextual value = true ∧ value.plain = .text value.display ∧
        value.toNumber = Number.ofText value.display) ∨
      (isTextual value = false ∧ value.plain = .number value.toNumber) := by
  cases value with
  | null => cases alike
  | bool _ => exact .inr ⟨rfl, rfl⟩
  | number _ => exact .inr ⟨rfl, rfl⟩
  | text text =>
      exact .inl ⟨rfl, congrArg Value.text (display_text text).symm,
        congrArg Number.ofText (display_text text).symm⟩
  | date _ => cases alike
  | list _ => exact .inl ⟨rfl, rfl, rfl⟩

theorem looseEq_eq_plain {left right : Value} (leftAlike : left.convertsAlike = true)
    (rightAlike : right.convertsAlike = true)
    (notLists : left.items? = none ∨ right.items? = none) :
    left.looseEq right = looseEqPlain left.plain right.plain := by
  have notNull : ∀ value : Value, value.convertsAlike = true → value.isNull = false := by
    intro value alike
    cases value with
    | null => cases alike
    | _ => rfl
  have onlyLists : ∀ value : Value, value.convertsAlike = true → value.items? = none →
      value.isCompound = false := by
    intro value alike noList
    cases value with
    | date _ => cases alike
    | list _ => cases noList
    | _ => rfl
  have notCompound : (left.isCompound && right.isCompound) = false := by
    rcases notLists with noList | noList
    · rw [onlyLists left leftAlike noList, Bool.false_and]
    · rw [onlyLists right rightAlike noList, Bool.and_false]
  rw [looseEq_eq, notNull left leftAlike, notNull right rightAlike, notCompound]
  rfl

/-- Loose equality is the equality of the relational order. -/
theorem relationalCompare_eq_some_eq_iff {left right : Value}
    (leftAlike : left.convertsAlike = true) (rightAlike : right.convertsAlike = true)
    (notLists : left.items? = none ∨ right.items? = none) :
    left.relationalCompare right = some .eq ↔ left.looseEq right = true := by
  rw [looseEq_eq_plain leftAlike rightAlike notLists]
  rcases plain_cases leftAlike with ⟨leftText, leftPlain, leftNumber⟩ | ⟨leftNumeric, leftPlain⟩
  · rcases plain_cases rightAlike with ⟨rightText, rightPlain, _⟩ | ⟨rightNumeric, rightPlain⟩
    · rw [relationalCompare_of_texts leftText rightText, leftPlain, rightPlain, Option.some_inj,
        Text.compareCodes_eq_iff]
      exact beq_iff_eq.symm
    · have numeric : (isTextual left && isTextual right) = false := by
        rw [rightNumeric, Bool.and_false]
      rw [relationalCompare_of_not_texts numeric, Number.compare?_eq_some_eq_iff, leftPlain,
        rightPlain, leftNumber]
      rfl
  · have numeric : (isTextual left && isTextual right) = false := by
      rw [leftNumeric, Bool.false_and]
    rw [relationalCompare_of_not_texts numeric, Number.compare?_eq_some_eq_iff, leftPlain]
    rcases plain_cases rightAlike with ⟨_, rightPlain, rightNumber⟩ | ⟨_, rightPlain⟩
    · rw [rightPlain, rightNumber]
      rfl
    · rw [rightPlain]
      rfl

/-! ## Both in expressions -/

/-- The operators of an order of which it is known where it is equality. -/
theorem any_of_equality {order : Option Ordering} {equal : Bool}
    (same : order = some .eq ↔ equal = true) :
    order.any Ordering.isLE = (order.any Ordering.isLT || equal) ∧
      order.any Ordering.isGE = (order.any Ordering.isGT || equal) ∧
      (equal = true → order.any Ordering.isLT = false ∧ order.any Ordering.isGT = false) := by
  obtain rfl : equal = decide (order = some .eq) := by
    rw [Bool.eq_iff_iff, decide_eq_true_iff, same]
  cases order with
  | none => decide
  | some ordering => cases ordering <;> decide

/-- Exchanging the operands reverses the order, or leaves it undefined. Of operands that are neither
null nor dates, nor both lists, the order is equality exactly where loose equality holds; hence `<=`
is `<` or `==`, `>=` is `>` or `==`, and `==` excludes `<` and `>`. -/
theorem relationalCompare_consistent (left right : Value) :
    left.relationalCompare right = (right.relationalCompare left).map Ordering.swap ∧
      (left.relationalCompare right = none ↔ right.relationalCompare left = none) ∧
      (left.convertsAlike = true → right.convertsAlike = true →
        (left.items? = none ∨ right.items? = none) →
          (left.relationalCompare right = some .eq ↔ left.looseEq right = true) ∧
          ∀ (context : Context) (leftExpr rightExpr : Expr),
            evalIn context leftExpr = .ok left → evalIn context rightExpr = .ok right →
              ∃ less equal greater : Bool,
                evalIn context (.binary .lt leftExpr rightExpr) = .ok (.bool less) ∧
                evalIn context (.binary .eq leftExpr rightExpr) = .ok (.bool equal) ∧
                evalIn context (.binary .gt leftExpr rightExpr) = .ok (.bool greater) ∧
                evalIn context (.binary .le leftExpr rightExpr) = .ok (.bool (less || equal)) ∧
                evalIn context (.binary .ge leftExpr rightExpr) = .ok (.bool (greater || equal)) ∧
                (equal = true → less = false ∧ greater = false)) := by
  refine ⟨(relationalCompare_swap right left).symm, ?_, fun leftAlike rightAlike notLists => ?_⟩
  · rw [← relationalCompare_swap right left, Option.map_eq_none_iff]
  · have equality := relationalCompare_eq_some_eq_iff leftAlike rightAlike notLists
    refine ⟨equality, fun context leftExpr rightExpr leftValue rightValue => ?_⟩
    have related := fun op : RelationalOp => Expr.evalIn_relational op leftValue rightValue
    have equal : evalIn context (.binary .eq leftExpr rightExpr) =
        .ok (.bool (left.looseEq right)) := Expr.evalIn_binary rfl leftValue rightValue
    obtain ⟨atMost, atLeast, excluded⟩ := any_of_equality equality
    have atMostRelated := related .le
    have atLeastRelated := related .ge
    rw [show RelationalOp.le.accepts = Ordering.isLE from rfl, atMost] at atMostRelated
    rw [show RelationalOp.ge.accepts = Ordering.isGE from rfl, atLeast] at atLeastRelated
    exact ⟨_, _, _, related .lt, equal, related .gt, atMostRelated, atLeastRelated, excluded⟩

/-- A note with the property `tags: ['1']`, and an evaluation of expressions on it. -/
def taggedContext : Context :=
  ⟨OrderedMap.ofList [("tags", .list [.text "1"])], .predicate, Calendar.Moment.epoch⟩

/-- The list is compared by the number of its text, so that `tags == true` holds, and so does
`tags <= true`. -/
theorem relationalCompare_consistent_tagged :
    (Value.list [.text "1"]).convertsAlike = true ∧ (Value.bool true).convertsAlike = true ∧
      (Value.bool true).items? = none ∧
      evalIn taggedContext (.property ["tags"]) = .ok (.list [.text "1"]) ∧
      evalIn taggedContext (.literal (.bool true)) = .ok (.bool true) ∧
      (Value.list [.text "1"]).relationalCompare (.bool true) = some .eq ∧
      evalIn taggedContext (.binary .lt (.property ["tags"]) (.literal (.bool true))) =
        .ok (.bool false) ∧
      evalIn taggedContext (.binary .le (.property ["tags"]) (.literal (.bool true))) =
        .ok (.bool true) := by
  have tags : evalIn taggedContext (.property ["tags"]) = .ok (.list [.text "1"]) := rfl
  have holds : (Value.list [.text "1"]).looseEq (.bool true) = true := by decide +kernel
  obtain ⟨_, _, consistent⟩ := relationalCompare_consistent (.list [.text "1"]) (.bool true)
  obtain ⟨equality, operators⟩ := consistent rfl rfl (.inr rfl)
  obtain ⟨less, equal, _, isLess, isEqual, _, atMost, _, excluded⟩ :=
    operators taggedContext (.property ["tags"]) (.literal (.bool true)) tags rfl
  have known : evalIn taggedContext (.binary .eq (.property ["tags"]) (.literal (.bool true))) =
      .ok (.bool ((Value.list [.text "1"]).looseEq (.bool true))) := Expr.evalIn_binary rfl tags rfl
  obtain rfl : true = equal := by
    rw [known, holds] at isEqual
    cases isEqual
    rfl
  obtain rfl : less = false := (excluded rfl).1
  exact ⟨rfl, rfl, rfl, tags, rfl, equality.mpr holds, isLess, atMost⟩

end Value

end NoteBase
