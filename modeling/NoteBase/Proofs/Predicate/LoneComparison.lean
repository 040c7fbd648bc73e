import NoteBase.Proofs.Predicate.Comparison
import NoteBase.Proofs.Predicate.Operands
import NoteBase.Proofs.Predicate.Sides

/-!
# Lone comparisons as expressions

A comparison that is the whole predicate is split into its sides and never parsed, whereas the same
comparison beside a logical operator is an expression. Alone, it compares what its sides are read
as. Both give the same answer if the sides are read as the numbers that they are as expressions, and
with most operators also if a side is the literal of its number. A side with a line break keeps the
text from being split, so that it is an expression as well.
-/

namespace NoteBase.Predicate

open Calendar (Moment)
open NoteBase.Expr (Unmarked IsComparison)

/-! ## Comparing numbers -/

/-- Both ways to compare two numbers give the same answer. -/
theorem exists_binaryOp {symbol : List Char} {op : ComparisonOp} (known : (symbol, op) ∈ symbols) :
    ∃ binary : BinaryOp, symbol = binary.chars ∧ IsComparison binary ∧
      ∀ left right : Float, compareValues (.number left) op (.number right) =
        (Expr.applyBinary binary (.number left) (.number right)).isTruthy := by
  have relational : ∀ (op : RelationalOp) (left right : Float),
      compareValues (.number left) op.comparison (.number right) =
        (Expr.applyBinary op.binary (.number left) (.number right)).isTruthy := by
    intro op left right
    rw [compareValues_by_number op rfl rfl]
    cases op <;> rfl
  simp only [symbols, List.mem_cons, List.not_mem_nil, or_false, Prod.mk.injEq] at known
  rcases known with ⟨rfl, rfl⟩ | ⟨rfl, rfl⟩ | ⟨rfl, rfl⟩ | ⟨rfl, rfl⟩ | ⟨rfl, rfl⟩ | ⟨rfl, rfl⟩ |
    ⟨rfl, rfl⟩ | ⟨rfl, rfl⟩
  · exact ⟨.gt, rfl, .inl rfl, relational .gt⟩
  · exact ⟨.ge, rfl, .inl rfl, relational .ge⟩
  · exact ⟨.lt, rfl, .inl rfl, relational .lt⟩
  · exact ⟨.le, rfl, .inl rfl, relational .le⟩
  · exact ⟨.eq, rfl, .inr rfl, fun _ _ => rfl⟩
  · exact ⟨.strictEq, rfl, .inr rfl, fun _ _ => rfl⟩
  · exact ⟨.ne, rfl, .inr rfl, fun _ _ => rfl⟩
  · exact ⟨.strictNe, rfl, .inr rfl, fun _ _ => rfl⟩

/-- An operator that asks for an order takes a literal for its number on either side. -/
theorem compareValues_relational_countsAs (op : RelationalOp) {leftNumber rightNumber : Float}
    {left right : Value} (leftCounts : CountsAs leftNumber left)
    (rightCounts : CountsAs rightNumber right) :
    compareValues left op.comparison right =
      compareValues (.number leftNumber) op.comparison (.number rightNumber) := by
  rw [compareValues_by_number op leftCounts.isNull_eq rightCounts.isNull_eq,
    compareValues_by_number op rfl rfl, leftCounts.toNumber_eq, rightCounts.toNumber_eq]
  rfl

/-- Loose equality takes a literal for its number beside a number. -/
theorem looseEq_countsAs {number : Float} {value : Value} (counts : CountsAs number value)
    (other : Float) :
    value.looseEq (.number other) = (Value.number number).looseEq (.number other) ∧
      (Value.number other).looseEq value = (Value.number other).looseEq (.number number) := by
  cases counts with
  | number => exact ⟨rfl, rfl⟩
  | text reads =>
      subst reads
      exact ⟨rfl, rfl⟩

theorem compareValues_loose_countsAs {op : ComparisonOp} (loose : op = .looseEq ∨ op = .looseNe)
    {number : Float} {value : Value} (counts : CountsAs number value) (other : Float) :
    compareValues value op (.number other) = compareValues (.number number) op (.number other) ∧
      compareValues (.number other) op value =
        compareValues (.number other) op (.number number) := by
  obtain ⟨before, behind⟩ := looseEq_countsAs counts other
  unfold compareValues
  rw [counts.isNull_eq, before, behind]
  rcases loose with rfl | rfl <;> exact ⟨rfl, rfl⟩

/-- Two sides whose numbers an operator compares although it is not parsed. Every operator compares
what is read as a number; a text that is a literal has to be on a side of an order, or beside a
number in a loose equality. -/
inductive ComparesNumbers (now : Moment) (record : Record) (op : ComparisonOp)
    (left : List Char) (leftExpr : Expr) (leftNumber : Float)
    (right : List Char) (rightExpr : Expr) (rightNumber : Float) : Prop
  | numbers (leftAlone : StandsAlone now record left leftExpr leftNumber)
      (rightAlone : StandsAlone now record right rightExpr rightNumber)
  | ordered (relational : RelationalOp) (same : op = relational.comparison)
      (leftStands : StandsForNumber now record left leftExpr leftNumber)
      (rightStands : StandsForNumber now record right rightExpr rightNumber)
  | looseLeft (loose : op = .looseEq ∨ op = .looseNe)
      (leftStands : StandsForNumber now record left leftExpr leftNumber)
      (rightAlone : StandsAlone now record right rightExpr rightNumber)
  | looseRight (loose : op = .looseEq ∨ op = .looseNe)
      (leftAlone : StandsAlone now record left leftExpr leftNumber)
      (rightStands : StandsForNumber now record right rightExpr rightNumber)

theorem ComparesNumbers.compareValues_eq {now : Moment} {record : Record} {op : ComparisonOp}
    {left right : List Char} {leftExpr rightExpr : Expr} {leftNumber rightNumber : Float}
    (compares : ComparesNumbers now record op left leftExpr leftNumber right rightExpr rightNumber)
    (leftNumeric : IsNumericSide now record left leftExpr leftNumber)
    (rightNumeric : IsNumericSide now record right rightExpr rightNumber)
    (leftTrimmed : Text.trimChars left = left) (rightTrimmed : Text.trimChars right = right) :
    compareValues (sideValue now record left leftExpr leftNumber) op
        (sideValue now record right rightExpr rightNumber) =
      compareValues (.number leftNumber) op (.number rightNumber) := by
  cases compares with
  | numbers leftAlone rightAlone =>
      rw [leftAlone.sideValue_eq leftNumeric, rightAlone.sideValue_eq rightNumeric]
  | ordered relational same leftStands rightStands =>
      rw [same]
      exact compareValues_relational_countsAs relational
        (leftStands.countsAs leftNumeric leftTrimmed)
        (rightStands.countsAs rightNumeric rightTrimmed)
  | looseLeft loose leftStands rightAlone =>
      have counts := leftStands.countsAs leftNumeric leftTrimmed
      rw [rightAlone.sideValue_eq rightNumeric]
      exact (compareValues_loose_countsAs loose counts rightNumber).1
  | looseRight loose leftAlone rightStands =>
      have counts := rightStands.countsAs rightNumeric rightTrimmed
      rw [leftAlone.sideValue_eq leftNumeric]
      exact (compareValues_loose_countsAs loose counts leftNumber).2

/-! ## Whole texts -/

theorem callShape?_eq_none_of_unquoted {chars : List Char}
    (unquoted : ∀ char ∈ chars, isQuote char = false) : callShape? chars = none := by
  cases found : callShape? chars with
  | none => rfl
  | some shape =>
      obtain ⟨call, valid, rfl, _⟩ := QuotedCall.exists_of_callShape? found
      have inside : call.opening ∈ call.chars := by simp [QuotedCall.chars]
      have noQuote := unquoted _ inside
      rw [valid.opening_quote] at noQuote
      cases noQuote

section Joined

variable {now : Moment} {record : Record} {left right symbol : List Char} {op : ComparisonOp}
  {leftExpr rightExpr : Expr} {leftNumber rightNumber : Float}

/-- No quote and no logical operator stands in a comparison of sides. -/
theorem unquoted_comparison (leftNumeric : IsNumericSide now record left leftExpr leftNumber)
    (rightNumeric : IsNumericSide now record right rightExpr rightNumber)
    (known : (symbol, op) ∈ symbols) :
    ∀ char ∈ left ++ (symbol ++ right), isQuote char = false ∧ char ≠ '&' ∧ char ≠ '|' := by
  have unmarked : ∀ char, char ∉ Expr.marks → isQuote char = false ∧ char ≠ '&' ∧ char ≠ '|' := by
    intro char noMark
    simp only [Expr.marks, List.mem_cons, List.not_mem_nil, or_false, not_or] at noMark
    obtain ⟨_, _, _, _, noAnd, noOr, noSingle, noDouble⟩ := noMark
    exact ⟨by simp [isQuote, noSingle, noDouble], noAnd, noOr⟩
  intro char member
  rcases List.mem_append.mp member with inLeft | later
  · exact unmarked char (leftNumeric.unmarked char inLeft)
  · rcases List.mem_append.mp later with inSymbol | inRight
    · have operator := (symbols_valid _ known).2.1 char inSymbol
      simp only [isOperatorChar, Bool.or_eq_true, beq_iff_eq] at operator
      rcases operator with ((rfl | rfl) | rfl) | rfl <;> decide
    · exact unmarked char (rightNumeric.unmarked char inRight)

/-- A comparison of sides is neither a call nor a logical expression. -/
theorem noCall_comparison (leftNumeric : IsNumericSide now record left leftExpr leftNumber)
    (rightNumeric : IsNumericSide now record right rightExpr rightNumber)
    (known : (symbol, op) ∈ symbols) :
    callShape? (Text.trimChars (left ++ (symbol ++ right))) = none ∧
      hasLogicalOperator (Text.trimChars (left ++ (symbol ++ right))) = false := by
  have subset := (Text.trimChars_isInfix (left ++ (symbol ++ right))).subset
  have plain : ∀ char ∈ Text.trimChars (left ++ (symbol ++ right)),
      isQuote char = false ∧ char ≠ '&' ∧ char ≠ '|' :=
    fun char member => unquoted_comparison leftNumeric rightNumeric known char (subset member)
  refine ⟨callShape?_eq_none_of_unquoted fun char member => (plain char member).1, ?_⟩
  obtain ⟨last, passes⟩ := hasLogicalFrom_unquoted plain none []
  rw [List.append_nil] at passes
  rw [hasLogicalOperator, passes]
  rfl

/-- The parts of a comparison without the blanks around it: the sides without the blanks at their
ends, and blanks between them and the operator. -/
structure TrimmedParts (left symbol right gap space : List Char) : Prop where
  trimmed : Text.trimChars (left ++ (symbol ++ right)) =
    Text.trimChars left ++ (gap ++ (symbol ++ (space ++ Text.trimChars right)))
  gapBlank : ∀ char ∈ gap, Text.isBlank char = true
  spaceBlank : ∀ char ∈ space, Text.isBlank char = true
  leftTrimmed : Text.IsTrimmed (Text.trimChars left)
  rightTrimmed : Text.IsTrimmed (Text.trimChars right)
  isInfix : space ++ Text.trimChars right <:+: right
  parse_eq : Expr.parse (String.ofList (Text.trimChars (left ++ (symbol ++ right)))) =
    Expr.parse (String.ofList (left ++ (symbol ++ right)))

theorem exists_trimmedParts (leftNumeric : IsNumericSide now record left leftExpr leftNumber)
    (rightNumeric : IsNumericSide now record right rightExpr rightNumber)
    (known : (symbol, op) ∈ symbols) : ∃ gap space, TrimmedParts left symbol right gap space := by
  obtain ⟨binary, rfl, comparison, _⟩ := exists_binaryOp known
  obtain ⟨before, gap, leftParts, beforeBlank, gapBlank, leftTrimmed⟩ := Text.exists_trimChars left
  obtain ⟨space, behind, rightParts, spaceBlank, behindBlank, rightTrimmed⟩ :=
    Text.exists_trimChars right
  have someLeft := leftNumeric.trimChars.ne_nil
  have someRight := rightNumeric.trimChars.ne_nil
  rw [← List.append_assoc] at rightParts
  have trimmed : Text.trimChars (left ++ (binary.chars ++ right)) =
      Text.trimChars left ++ (gap ++ (binary.chars ++ (space ++ Text.trimChars right))) := by
    refine Eq.trans (congrArg Text.trimChars ?_)
      (Text.trimChars_blanks beforeBlank behindBlank (by simp [someLeft]) ⟨?_, ?_⟩)
    · conv_lhs => rw [leftParts, rightParts]
      simp
    · rw [List.head?_append_of_ne_nil _ someLeft]
      exact leftTrimmed.head
    · simp only [← List.append_assoc]
      rw [List.getLast?_append_of_ne_nil _ someRight]
      exact rightTrimmed.last
  have leftUnmarked := leftNumeric.unmarked
  have rightUnmarked := rightNumeric.unmarked
  have leftParsed := leftNumeric.parsed
  have rightParsed := rightNumeric.parsed
  rw [leftParts] at leftUnmarked leftParsed
  rw [rightParts] at rightUnmarked rightParsed
  have parsed := Expr.parse_comparison_blanks comparison beforeBlank behindBlank leftUnmarked
    rightUnmarked leftParsed rightParsed
  rw [← leftParts, ← rightParts, List.append_assoc] at parsed
  refine ⟨gap, space, trimmed, gapBlank, spaceBlank, leftTrimmed, rightTrimmed,
    ⟨[], behind, ?_⟩, ?_⟩
  · exact rightParts.symm
  · rw [trimmed, parsed]

/-- A comparison on one line compares what its sides are read as. -/
theorem evaluate_sides (leftNumeric : IsNumericSide now record left leftExpr leftNumber)
    (rightNumeric : IsNumericSide now record right rightExpr rightNumber)
    (known : (symbol, op) ∈ symbols) (leftLine : '\n' ∉ Text.trimChars left)
    (rightLine : '\n' ∉ Text.trimChars right) :
    evaluate now record (String.ofList (left ++ (symbol ++ right))) =
      compareValues (sideValue now record (Text.trimChars left) leftExpr leftNumber) op
        (sideValue now record (Text.trimChars right) rightExpr rightNumber) := by
  obtain ⟨some_, operators, read⟩ := symbols_valid _ known
  obtain ⟨noCall, noLogical⟩ := noCall_comparison leftNumeric rightNumeric known
  obtain ⟨gap, space, parts⟩ := exists_trimmedParts leftNumeric rightNumeric known
  have someLeft := leftNumeric.trimChars.ne_nil
  have someRight := rightNumeric.trimChars.ne_nil
  have behind : Text.trimStart (space ++ Text.trimChars right) = Text.trimChars right :=
    Text.trimStart_blanks parts.spaceBlank parts.rightTrimmed.head
  have isRight : isRightSide (Text.trimChars right) = true := by
    simp [isRightSide, someRight, rightLine]
  have split := splitComparison?_eq someLeft leftLine parts.leftTrimmed.last
    leftNumeric.trimChars.noOperator parts.gapBlank some_ operators
    (isOperatorChar_head (rightNumeric.startsOperator parts.isInfix)) (by rw [behind, isRight])
  rw [← parts.trimmed, behind] at split
  rw [evaluate, String.toList_ofList, shape_of_split noCall noLogical split]
  simp only [read, Shape.holds, operand, String.toList_ofList, Text.trimChars_trimChars]
  rw [leftNumeric.trimChars.trimmedOperand_eq (Text.trimChars_trimChars left),
    rightNumeric.trimChars.trimmedOperand_eq (Text.trimChars_trimChars right)]

/-- A comparison with a line break inside a side is not split. -/
theorem splitComparison?_broken (leftNumeric : IsNumericSide now record left leftExpr leftNumber)
    (rightNumeric : IsNumericSide now record right rightExpr rightNumber)
    (known : (symbol, op) ∈ symbols)
    (broken : '\n' ∈ Text.trimChars left ∨ '\n' ∈ Text.trimChars right) :
    splitComparison? (Text.trimChars (left ++ (symbol ++ right))) = none := by
  obtain ⟨some_, operators, _⟩ := symbols_valid _ known
  obtain ⟨gap, space, parts⟩ := exists_trimmedParts leftNumeric rightNumeric known
  have noOperator := leftNumeric.trimChars.noOperator
  have startsNone : ∀ {rest}, rest <:+: space ++ Text.trimChars right →
      startsOperator rest = false :=
    fun isInfix => rightNumeric.startsOperator (isInfix.trans parts.isInfix)
  rw [parts.trimmed]
  rcases broken with inLeft | inRight
  · have inTail := parts.leftTrimmed.mem_tail (by decide) inLeft
    exact splitComparison?_left_broken inTail parts.leftTrimmed.last noOperator
      (isAlpha_gap parts.gapBlank some_ operators)
  · have behind : Text.trimStart (space ++ Text.trimChars right) = Text.trimChars right :=
      Text.trimStart_blanks parts.spaceBlank parts.rightTrimmed.head
    have inBehind : '\n' ∈ Text.trimStart (space ++ Text.trimChars right) := by
      rw [behind]
      exact inRight
    exact splitComparison?_right_broken leftNumeric.trimChars.ne_nil parts.leftTrimmed.last
      noOperator parts.gapBlank some_ operators (isOperatorChar_head (startsNone List.infix_rfl))
      inBehind fun rest suffix => startsNone suffix.isInfix

/-- A comparison is no single word. -/
theorem all_isWordChar_comparison
    (leftNumeric : IsNumericSide now record left leftExpr leftNumber)
    (rightNumeric : IsNumericSide now record right rightExpr rightNumber)
    (known : (symbol, op) ∈ symbols) :
    (Text.trimChars (left ++ (symbol ++ right))).all isWordChar = false := by
  obtain ⟨some_, operators, _⟩ := symbols_valid _ known
  obtain ⟨gap, space, parts⟩ := exists_trimmedParts leftNumeric rightNumeric known
  obtain ⟨mark, marks, rfl⟩ := List.exists_cons_of_ne_nil some_
  have operator := operators mark List.mem_cons_self
  have member : mark ∈ Text.trimChars (left ++ (mark :: marks ++ right)) := by
    rw [parts.trimmed]
    simp
  rw [List.all_eq_false]
  refine ⟨mark, member, fun word => ?_⟩
  rw [isOperatorChar_of_isWordChar word] at operator
  cases operator

/-- A comparison with a line break inside a side is an expression. -/
theorem evaluate_broken (leftNumeric : IsNumericSide now record left leftExpr leftNumber)
    (rightNumeric : IsNumericSide now record right rightExpr rightNumber)
    (known : (symbol, op) ∈ symbols)
    (broken : '\n' ∈ Text.trimChars left ∨ '\n' ∈ Text.trimChars right) :
    evaluate now record (String.ofList (left ++ (symbol ++ right))) =
      holdsAsExpression now record (String.ofList (left ++ (symbol ++ right))) := by
  obtain ⟨noCall, noLogical⟩ := noCall_comparison leftNumeric rightNumeric known
  obtain ⟨gap, space, parts⟩ := exists_trimmedParts leftNumeric rightNumeric known
  have unsplit := splitComparison?_broken leftNumeric rightNumeric known broken
  have noWord := all_isWordChar_comparison leftNumeric rightNumeric known
  have shape : Shape.of (Text.trimChars (left ++ (symbol ++ right))) = .expression := by
    simp [Shape.of, noCall, noLogical, unsplit, noWord]
  rw [evaluate, String.toList_ofList, shape]
  simp only [Shape.holds, holdsAsExpression, parts.parse_eq]

/-- A comparison of sides is the comparison of their numbers, unless that is too complex. -/
theorem exists_value (leftNumeric : IsNumericSide now record left leftExpr leftNumber)
    (rightNumeric : IsNumericSide now record right rightExpr rightNumber)
    (known : (symbol, op) ∈ symbols)
    (simple : Expr.parse (String.ofList (left ++ (symbol ++ right))) ≠ .error .tooComplex) :
    ∃ expr value, Expr.parse (String.ofList (left ++ (symbol ++ right))) = .ok expr ∧
      Expr.eval now record expr = .ok value ∧
      value.isTruthy = compareValues (.number leftNumber) op (.number rightNumber) := by
  obtain ⟨binary, rfl, comparison, same⟩ := exists_binaryOp known
  have parsed := (Expr.parse_comparison comparison leftNumeric.unmarked rightNumeric.unmarked
    leftNumeric.parsed rightNumeric.parsed).resolve_right simple
  have undecided : Expr.isDecided binary (.number leftNumber) = false := by
    cases binary <;> first
      | rfl
      | rcases comparison with level | level <;> cases level
  exact ⟨_, _, parsed, Expr.evalIn_binary undecided leftNumeric.value rightNumeric.value,
    (same leftNumber rightNumber).symm⟩

/-- A lone comparison of two sides that have numbers. As an expression it compares the numbers.
Alone it compares what the sides are read as, unless a line break inside a side makes it an
expression anyway. Hence both give the same answer if each side is read as its number, or is a
literal that the operator takes for one. -/
theorem evaluate_loneComparison (leftNumeric : IsNumericSide now record left leftExpr leftNumber)
    (rightNumeric : IsNumericSide now record right rightExpr rightNumber)
    (known : (symbol, op) ∈ symbols)
    (simple : Expr.parse (String.ofList (left ++ (symbol ++ right))) ≠ .error .tooComplex) :
    ∃ expr value, Expr.parse (String.ofList (left ++ (symbol ++ right))) = .ok expr ∧
      Expr.eval now record expr = .ok value ∧
      value.isTruthy = compareValues (.number leftNumber) op (.number rightNumber) ∧
      evaluate now record (String.ofList (left ++ (symbol ++ right))) =
        (if '\n' ∈ Text.trimChars left ∨ '\n' ∈ Text.trimChars right then value.isTruthy
          else compareValues (sideValue now record (Text.trimChars left) leftExpr leftNumber) op
            (sideValue now record (Text.trimChars right) rightExpr rightNumber)) ∧
      (ComparesNumbers now record op (Text.trimChars left) leftExpr leftNumber
          (Text.trimChars right) rightExpr rightNumber →
        evaluate now record (String.ofList (left ++ (symbol ++ right))) = value.isTruthy) := by
  obtain ⟨expr, value, parsed, evaluated, truthy⟩ :=
    exists_value leftNumeric rightNumeric known simple
  refine ⟨expr, value, parsed, evaluated, truthy, ?_⟩
  by_cases broken : '\n' ∈ Text.trimChars left ∨ '\n' ∈ Text.trimChars right
  · have asExpression : evaluate now record (String.ofList (left ++ (symbol ++ right))) =
        value.isTruthy := by
      rw [evaluate_broken leftNumeric rightNumeric known broken, holdsAsExpression]
      simp only [parsed, evaluated]
    rw [if_pos broken]
    exact ⟨asExpression, fun _ => asExpression⟩
  · obtain ⟨leftLine, rightLine⟩ := not_or.mp broken
    have asSides := evaluate_sides leftNumeric rightNumeric known leftLine rightLine
    rw [if_neg broken]
    refine ⟨asSides, fun compares => ?_⟩
    rw [asSides, truthy]
    exact compares.compareValues_eq leftNumeric.trimChars rightNumeric.trimChars
      (Text.trimChars_trimChars left) (Text.trimChars_trimChars right)

end Joined

/-! ## Comparisons on a note -/

/-- The conditions on a side as tests of its text and its expression. -/
theorem isNumericSide {now : Moment} {record : Record} {text : String} {expr : Expr}
    {number : Float} (parsed : Expr.parse text = .ok expr)
    (inputs : expr.paths.all (Expr.hasInput record) = true)
    (value : Expr.eval now record expr = .ok (.number number))
    (unmarked : text.toList.all (fun char => decide (char ∉ Expr.marks)) = true)
    (wordless : ∀ word ∈ wordOperators, ¬ word <:+: text.toList) :
    IsNumericSide now record text.toList expr number where
  parsed := by
    rw [String.ofList_toList]
    exact parsed
  inputs := List.all_eq_true.mp inputs
  value := value
  unmarked := fun char member => of_decide_eq_true (List.all_eq_true.mp unmarked char member)
  wordless := wordless

/-- A note with a date, numbers, tags, the text of a number, and a property that is named like a
difference. -/
def datedNote : Record :=
  OrderedMap.ofList [("release_date", .text "1998-09-01"), ("rating", .number (Number.ofNat 4)),
    ("tags", .list [.text "rock", .text "live"]), ("a", .number (Number.ofNat 1)),
    ("b", .text "3"), ("c", .number (Number.ofNat 2)), ("a-c", .number (Number.ofNat 5))]

/-- A product takes a text for a number both in a formula and in a predicate, and a literal with an
exponent counts as its number in an order. -/
theorem evaluate_loneComparison_dated :
    ∃ expr value, Expr.parse "b * 2 > 5e0" = .ok expr ∧
      Expr.eval Moment.epoch datedNote expr = .ok value ∧ value.isTruthy = true ∧
      evaluate Moment.epoch datedNote "b * 2 > 5e0" = value.isTruthy := by
  have doubled : IsNumericSide Moment.epoch datedNote "b * 2 ".toList
      (.binary .mul (.property ["b"]) (.literal (.number (plainNumber ['2']))))
      (Number.ofText "3" * plainNumber ['2']) :=
    isNumericSide rfl (by decide +kernel) rfl (by decide) (by decide)
  have five : IsNumericSide Moment.epoch datedNote " 5e0".toList
      (.literal (.number (plainNumber "5e0".toList))) (plainNumber "5e0".toList) :=
    isNumericSide rfl (by decide) rfl (by decide) (by decide)
  have known : (">".toList, ComparisonOp.gt) ∈ symbols := by decide
  have written : String.ofList ("b * 2 ".toList ++ (">".toList ++ " 5e0".toList)) =
      "b * 2 > 5e0" := by decide +kernel
  have simple : Expr.parse (String.ofList ("b * 2 ".toList ++ (">".toList ++ " 5e0".toList))) ≠
      .error .tooComplex := by
    rw [written]
    nofun
  have textAlike : (Expr.property ["b"]).ReadsAlike Moment.epoch datedNote .number :=
    Expr.readsAlike_property_number Moment.epoch rfl
  have doubledAlone : StandsAlone Moment.epoch datedNote (Text.trimChars "b * 2 ".toList)
      (.binary .mul (.property ["b"]) (.literal (.number (plainNumber ['2']))))
      (Number.ofText "3" * plainNumber ['2']) :=
    .formula (by decide) (by decide +kernel) ⟨textAlike, trivial⟩ (by decide +kernel)
  have numeral : Expr.IsNumeral (Text.trimChars " 5e0".toList) (plainNumber "5e0".toList) :=
    ⟨⟨'5', ['e', '0'], by decide, rfl⟩, by decide, by decide, by decide +kernel⟩
  have fiveStands : StandsForNumber Moment.epoch datedNote (Text.trimChars " 5e0".toList)
      (.literal (.number (plainNumber "5e0".toList))) (plainNumber "5e0".toList) :=
    .literal numeral (by decide +kernel) (by decide)
  obtain ⟨expr, value, parsed, evaluated, truthy, _, alone⟩ :=
    evaluate_loneComparison doubled five known simple
  have greater : compareValues (.number (Number.ofText "3" * plainNumber ['2'])) .gt
      (.number (plainNumber "5e0".toList)) = true := by decide +kernel
  rw [← written]
  exact ⟨expr, value, parsed, evaluated, truthy.trans greater,
    alone (.ordered .gt rfl (.alone doubledAlone) fiveStands)⟩

/-- A comparison of two numbers that holds as an expression, and hence beside `&& true`, but not
alone. -/
def HoldsOnlyAsExpression (now : Moment) (record : Record) (left symbol right : String) : Prop :=
  (∃ expr number, IsNumericSide now record left.toList expr number) ∧
    (∃ expr number, IsNumericSide now record right.toList expr number) ∧
    evaluate now record (left ++ symbol ++ right) = false ∧
    evaluate now record (left ++ symbol ++ right ++ " && true") = true ∧
    holdsAsExpression now record (left ++ symbol ++ right) = true

/-- A side that names no property and has no arithmetic character is a text, even a call, a member,
a remainder, an expression in parentheses or a literal with an exponent. A formula has no infinite
number, and adds texts as numbers. The name of a property comes before a formula. -/
theorem datedNote_holdsOnlyAsExpression :
    HoldsOnlyAsExpression Moment.epoch datedNote "year(release_date)" " < " "2010" ∧
      HoldsOnlyAsExpression Moment.epoch datedNote "tags.length" " > " "1" ∧
      HoldsOnlyAsExpression Moment.epoch datedNote "(rating)" " >= " "4" ∧
      HoldsOnlyAsExpression Moment.epoch datedNote "rating % 2" " == " "0" ∧
      HoldsOnlyAsExpression Moment.epoch datedNote "1e3" " == " "1.0e3" ∧
      HoldsOnlyAsExpression Moment.epoch datedNote "a / 0" " > " "0" ∧
      HoldsOnlyAsExpression Moment.epoch datedNote "(b + b) * 1" " > " "30" ∧
      HoldsOnlyAsExpression Moment.epoch datedNote "a-c" " < " "0" := by
  refine ⟨?call, ?member, ?enclosed, ?remainder, ?exponent, ?infinite, ?texts, ?named⟩
  all_goals
    exact ⟨⟨_, _, isNumericSide rfl (by decide +kernel) rfl (by decide) (by decide)⟩,
      ⟨_, _, isNumericSide rfl (by decide +kernel) rfl (by decide) (by decide)⟩,
      by decide +kernel⟩

end NoteBase.Predicate
