import NoteBase.Predicate.Evaluate
import NoteBase.Proofs.Expr.Comparing
import NoteBase.Proofs.Expr.Footprint
import NoteBase.Proofs.Expr.FormulaMode
import NoteBase.Proofs.Number.Language
import NoteBase.Proofs.Number.Numeral
import NoteBase.Proofs.Predicate.Split

/-!
# Sides that are read as their numbers

A side of a comparison that is an expression need not be read as its value: a text without an
arithmetic operator that names no property stands for itself. A plain number, the name of a
property, and a formula whose number does not depend on what formulas read differently are read as
the number that they have as an expression. A literal with an exponent is a text, but one that
counts as its number wherever numbers are compared.
-/

namespace NoteBase.Predicate

open Calendar (Moment)
open NoteBase.Expr (Unmarked Token)

/-! ## Plain numbers -/

/-- Digits, perhaps with a point and further digits behind it. -/
inductive IsUnsigned : List Char → Prop
  | whole {digits : List Char} (nonempty : digits ≠ [])
      (all : ∀ char ∈ digits, char.isDigit = true) : IsUnsigned digits
  | fraction {digits behind : List Char} (nonempty : digits ≠ []) (someBehind : behind ≠ [])
      (all : ∀ char ∈ digits, char.isDigit = true)
      (allBehind : ∀ char ∈ behind, char.isDigit = true) :
      IsUnsigned (digits ++ '.' :: behind)

theorem isUnsigned_of_parts {chars : List Char}
    (nonempty : (chars.takeWhile Char.isDigit).isEmpty = false)
    (tail : (match chars.dropWhile Char.isDigit with
      | [] => true
      | '.' :: digits => !digits.isEmpty && digits.all Char.isDigit
      | _ => false) = true) : IsUnsigned chars := by
  have parts := chars.takeWhile_append_dropWhile (p := Char.isDigit)
  have all : ∀ char ∈ chars.takeWhile Char.isDigit, char.isDigit = true :=
    fun _ member => List.mem_takeWhile_imp member
  rw [List.isEmpty_eq_false_iff] at nonempty
  rw [← parts]
  split at tail
  · next empty =>
    rw [empty, List.append_nil]
    exact .whole nonempty all
  · next digits point =>
    simp only [Bool.and_eq_true, Bool.not_eq_true', List.isEmpty_eq_false_iff,
      List.all_eq_true] at tail
    rw [point]
    exact .fraction nonempty tail.1 all tail.2
  · cases tail

theorem exists_of_isPlainNumber {chars : List Char} (plain : isPlainNumber chars = true) :
    IsUnsigned chars ∨ ∃ unsigned, chars = '-' :: unsigned ∧ IsUnsigned unsigned := by
  unfold isPlainNumber at plain
  simp only [Bool.and_eq_true, Bool.not_eq_true'] at plain
  split at plain
  · exact .inr ⟨_, rfl, isUnsigned_of_parts plain.1 plain.2⟩
  · exact .inl (isUnsigned_of_parts plain.1 plain.2)

namespace IsUnsigned

variable {chars : List Char}

theorem takeWhile_fraction {digits behind : List Char}
    (all : ∀ char ∈ digits, char.isDigit = true) :
    (digits ++ '.' :: behind).takeWhile Char.isDigit = digits ∧
      (digits ++ '.' :: behind).dropWhile Char.isDigit = '.' :: behind := by
  have ends : ∀ char ∈ ('.' :: behind).head?, char.isDigit = false :=
    fun _ head => Option.some.inj head ▸ rfl
  rw [Text.takeWhile_append_of_head ends, Text.dropWhile_append_of_head ends,
    Text.takeWhile_eq_self all, Text.dropWhile_eq_nil all, List.nil_append]
  exact ⟨rfl, rfl⟩

theorem starts (unsigned : IsUnsigned chars) :
    ∃ first rest, chars = first :: rest ∧ first.isDigit = true := by
  cases unsigned with
  | whole nonempty all =>
      obtain ⟨first, rest, rfl⟩ := List.exists_cons_of_ne_nil nonempty
      exact ⟨first, rest, rfl, all first List.mem_cons_self⟩
  | fraction nonempty _ all _ =>
      obtain ⟨first, rest, rfl⟩ := List.exists_cons_of_ne_nil nonempty
      exact ⟨first, _, rfl, all first List.mem_cons_self⟩

theorem numberLength_eq (unsigned : IsUnsigned chars) :
    Expr.numberLength chars = chars.length := by
  unfold Expr.numberLength
  cases unsigned with
  | whole nonempty all =>
      simp [Text.takeWhile_eq_self all, Expr.fractionLength, Expr.exponentLength]
  | @fraction digits behind nonempty someBehind all allBehind =>
      have length : Expr.fractionLength ('.' :: behind) = behind.length + 1 := by
        simp [Expr.fractionLength, Text.takeWhile_eq_self allBehind, someBehind]
      simp [(takeWhile_fraction all).1, length, Expr.exponentLength]

theorem exists_number (unsigned : IsUnsigned chars) :
    ∃ number, Number.ofDecimalLiteral? chars = some number := by
  obtain ⟨first, rest, starts, digit⟩ := unsigned.starts
  have noSign : Number.splitSign chars = (false, chars) := by
    rw [starts, Number.splitSign_of_isDigit digit]
  unfold Number.ofDecimalLiteral? Number.decimalLiteral?
  simp only [noSign]
  cases unsigned with
  | whole nonempty all =>
      simp [Text.takeWhile_eq_self all, Text.dropWhile_eq_nil all, nonempty, Number.exponent?]
  | @fraction digits behind nonempty someBehind all allBehind =>
      simp [takeWhile_fraction all, Text.takeWhile_eq_self allBehind,
        Text.dropWhile_eq_nil allBehind, nonempty, Number.exponent?]

/-- The token of a number that is valid. -/
theorem tokensFrom_eq (unsigned : IsUnsigned chars) {position : Nat}
    (valid : Expr.Grammar.Valid (Expr.tokensFrom position 0 chars)) :
    ∃ number, Number.ofDecimalLiteral? chars = some number ∧
      Expr.tokensFrom position 0 chars = [.number number] := by
  obtain ⟨first, rest, rfl, digit⟩ := unsigned.starts
  obtain ⟨number, reads⟩ := unsigned.exists_number
  have inName := Expr.isNameChar_of_isDigit digit
  have noQuote : ¬ (first = '\'' ∨ first = '"') := by
    rintro (rfl | rfl) <;> cases digit
  have noZeros : Expr.hasLeadingZero (first :: rest) = false := by
    rw [Expr.tokensFrom_cons (Expr.isBlank_of_isNameChar inName)] at valid
    have tokenValid := valid.of_cons.1
    rw [Expr.lexeme_eq_plainLexeme position (Expr.not_mem_signs_of_isNameChar inName),
      Expr.plainLexeme_valid_iff noQuote, if_pos digit] at tokenValid
    exact tokenValid
  have numeral : Expr.IsNumeral (first :: rest) number :=
    ⟨⟨first, rest, rfl, digit⟩, noZeros, unsigned.numberLength_eq, reads⟩
  have lexed := Expr.lexedAs_numeral numeral [] position Expr.endsAny_nil
  rw [List.append_nil, Expr.tokensFrom, List.append_nil] at lexed
  exact ⟨number, reads, lexed⟩

end IsUnsigned

/-- A plain number that is an expression has its own value. Not every one is an expression: digits
may start with a zero. -/
theorem eval_of_isPlainNumber {chars : List Char} {expr : Expr}
    (plain : isPlainNumber chars = true)
    (parsed : Expr.parse (String.ofList chars) = .ok expr) (now : Moment) (record : Record) :
    Expr.eval now record expr = .ok (.number (plainNumber chars)) := by
  obtain ⟨all, depth, ⟨lexed, valid⟩, _⟩ := Expr.derives_of_parse parsed
  subst lexed
  rw [Expr.parse] at parsed
  rw [Expr.tokens, String.toList_ofList] at valid parsed
  rcases exists_of_isPlainNumber plain with unsigned | ⟨digits, rfl, unsigned⟩
  · obtain ⟨number, reads, lexed⟩ := unsigned.tokensFrom_eq valid
    have read : Expr.ofTokens [.number number] = .ok (.literal (.number number)) := rfl
    rw [← lexed, parsed] at read
    rw [Except.ok.inj read, plainNumber, reads]
    rfl
  · have minus : Expr.tokensFrom 0 0 ('-' :: digits) = .minus :: Expr.tokensFrom 1 0 digits :=
      Expr.tokensFrom_cons (by decide) 0 digits
    rw [minus] at valid parsed
    obtain ⟨number, reads, lexed⟩ := unsigned.tokensFrom_eq valid.of_cons.2
    have read : Expr.ofTokens [.minus, .number number] =
        .ok (.unary .negate (.literal (.number number))) := rfl
    rw [← lexed, parsed] at read
    obtain ⟨first, rest, rfl, digit⟩ := unsigned.starts
    rw [Except.ok.inj read, plainNumber, Number.ofDecimalLiteral?_neg digit, reads]
    rfl

/-- A literal as an expression. -/
theorem parse_of_isNumeral {chars : List Char} {number : Float}
    (numeral : Expr.IsNumeral chars number) :
    Expr.parse (String.ofList chars) = .ok (.literal (.number number)) := by
  have lexed := Expr.lexedAs_numeral numeral [] 0 Expr.endsAny_nil
  rw [List.append_nil, Expr.tokensFrom, List.append_nil] at lexed
  rw [Expr.parse, Expr.tokens, String.toList_ofList, lexed]
  rfl

/-- A literal as a text. -/
theorem ofTrimmed_of_ofDecimalLiteral? {chars : List Char} {number : Float}
    (reads : Number.ofDecimalLiteral? chars = some number) : Number.ofTrimmed chars = number := by
  obtain ⟨_, found, _⟩ := Option.map_eq_some_iff.mp reads
  obtain ⟨literal, rfl⟩ := Number.exists_literal found
  rw [Number.ofDecimalLiteral?, Number.decimalLiteral?_chars] at reads
  rw [Number.ofTrimmed_literal]
  exact Option.some.inj reads

/-! ## Sides -/

/-- An expression with a number, in a text without quotes, comparisons, logical operators and words
that compare. All properties that it refers to have a value. -/
structure IsNumericSide (now : Moment) (record : Record) (side : List Char) (expr : Expr)
    (number : Float) : Prop where
  parsed : Expr.parse (String.ofList side) = .ok expr
  inputs : ∀ path ∈ expr.paths, Expr.hasInput record path = true
  value : Expr.eval now record expr = .ok (.number number)
  unmarked : Unmarked side
  wordless : ∀ word ∈ wordOperators, ¬ word <:+: side

/-- What a side without blanks at its ends is read as: its number if it is a plain one, the property
of this name, the number that its expression has as a formula, or else the text itself. -/
def sideValue (now : Moment) (record : Record) (side : List Char) (expr : Expr)
    (number : Float) : Value :=
  if isPlainNumber side then .number number
  else
    (record.lookup (String.ofList side)).getD <|
      if looksArithmetic side then
        ((Formula.numberOf? now record expr).map Value.number).getD .null
      else .text (String.ofList side)

/-- A side without blanks at its ends that is read as the number that it has as an expression. -/
inductive StandsAlone (now : Moment) (record : Record) (side : List Char) : Expr → Float → Prop
  | number {expr : Expr} {number : Float} (plain : isPlainNumber side = true) :
      StandsAlone now record side expr number
  /-- The name of a property, which is the whole path. -/
  | property {path : List String} {number : Float}
      (written : String.ofList side = Expr.dotted path)
      (named : (record.lookup (Expr.dotted path)).isSome = true) :
      StandsAlone now record side (.property path) number
  /-- A formula that is not itself the name of a property, and reads the record like a predicate. -/
  | formula {expr : Expr} {number : Float} (arithmetic : looksArithmetic side = true)
      (unnamed : record.lookup (String.ofList side) = none)
      (alike : expr.ReadsAlike now record .whole) (finite : Number.isFinite number = true) :
      StandsAlone now record side expr number

/-- A side that is read as its number, or as a text that is the literal of its number. -/
inductive StandsForNumber (now : Moment) (record : Record) (side : List Char) (expr : Expr)
    (number : Float) : Prop
  | alone (alone : StandsAlone now record side expr number)
  | literal {literal : Float} (numeral : Expr.IsNumeral side literal)
      (unnamed : record.lookup (String.ofList side) = none)
      (plain : looksArithmetic side = false)

/-- A number, or a text that is read as it. -/
inductive CountsAs (number : Float) : Value → Prop
  | number : CountsAs number (.number number)
  | text {text : String} (reads : Number.ofText text = number) : CountsAs number (.text text)

theorem CountsAs.isNull_eq {number : Float} {value : Value} (counts : CountsAs number value) :
    value.isNull = false := by
  cases counts <;> rfl

theorem CountsAs.toNumber_eq {number : Float} {value : Value} (counts : CountsAs number value) :
    value.toNumber = number := by
  cases counts with
  | number => rfl
  | text reads => exact reads

section Sides

variable {now : Moment} {record : Record} {side : List Char} {expr : Expr} {number : Float}

theorem isQuotedBy_eq_false (unmarked : Unmarked side) :
    isQuotedBy '"' side = false ∧ isQuotedBy '\'' side = false := by
  have noHead : ∀ quote, quote ∈ Expr.marks → isQuotedBy quote side = false := by
    intro quote mark
    have different : side.head? ≠ some quote := fun head =>
      unmarked quote (List.mem_of_head? head) mark
    simp [isQuotedBy, different]
  exact ⟨noHead '"' (by decide), noHead '\'' (by decide)⟩

theorem IsNumericSide.noMark (numeric : IsNumericSide now record side expr number) :
    ∀ char ∈ side, isOperatorChar char = false := by
  intro char member
  apply Bool.eq_false_iff.mpr
  intro operator
  have mark := numeric.unmarked char member
  simp only [isOperatorChar, Bool.or_eq_true, beq_iff_eq] at operator
  rcases operator with ((rfl | rfl) | rfl) | rfl <;> exact mark (by decide)

/-- No operator stands anywhere in a side. -/
theorem IsNumericSide.startsOperator (numeric : IsNumericSide now record side expr number)
    {rest : List Char} (isInfix : rest <:+: side) : startsOperator rest = false :=
  startsOperator_of_wordless numeric.wordless isInfix fun char head =>
    numeric.noMark char (isInfix.subset (List.mem_of_head? head))

theorem IsNumericSide.noOperator (numeric : IsNumericSide now record side expr number) :
    hasOperatorInside side = false :=
  hasOperatorInside_of_wordless numeric.wordless fun char member =>
    numeric.noMark char (List.mem_of_mem_tail member)

/-- The side without the blanks at its ends. -/
theorem IsNumericSide.trimChars (numeric : IsNumericSide now record side expr number) :
    IsNumericSide now record (Text.trimChars side) expr number := by
  have isInfix := Text.trimChars_isInfix side
  obtain ⟨front, back, parts, frontBlank, backBlank, _⟩ := Text.exists_trimChars side
  have unmarked := numeric.unmarked
  have parsed := numeric.parsed
  rw [parts] at unmarked parsed
  exact {
    parsed := Expr.parse_blanks frontBlank backBlank unmarked parsed
    inputs := numeric.inputs
    value := numeric.value
    unmarked := numeric.unmarked.of_subset isInfix.subset
    wordless := fun word member inside => numeric.wordless word member (inside.trans isInfix) }

theorem IsNumericSide.ne_nil (numeric : IsNumericSide now record side expr number) :
    side ≠ [] := by
  rintro rfl
  have parsed := numeric.parsed
  rw [show Expr.parse (String.ofList []) = .error (.unexpected .value []) from rfl] at parsed
  cases parsed

/-- A literal word has no number. -/
theorem IsNumericSide.literalWord? (numeric : IsNumericSide now record side expr number) :
    literalWord? (String.ofList side) = none := by
  have parsed := numeric.parsed
  have value := numeric.value
  unfold Predicate.literalWord?
  split
  · next word =>
    rw [word, show Expr.parse "true" = .ok (.literal (.bool true)) from rfl] at parsed
    rw [← Except.ok.inj parsed] at value
    cases Except.ok.inj value
  · split
    · next word =>
      rw [word, show Expr.parse "false" = .ok (.literal (.bool false)) from rfl] at parsed
      rw [← Except.ok.inj parsed] at value
      cases Except.ok.inj value
    · split
      · next word =>
        rw [word, show Expr.parse "null" = .ok (.literal .null) from rfl] at parsed
        rw [← Except.ok.inj parsed] at value
        cases Except.ok.inj value
      · rfl

/-- The value of a property whose whole path is its name. -/
theorem eval_property {path : List String} {value : Value}
    (found : record.lookup (Expr.dotted path) = some value)
    (evaluated : Expr.eval now record (.property path) = .ok (.number number)) :
    value = .number number := by
  cases path with
  | nil => cases Except.ok.inj evaluated
  | cons name rest =>
      have whole := Expr.resolve_of_lookup (List.cons_ne_nil name rest) found
      simp only [Expr.eval, Expr.evalIn, Expr.readPath, whole, Expr.readMembers] at evaluated
      exact Except.ok.inj evaluated

/-- As a formula a side has the expression that it has in a predicate. -/
theorem IsNumericSide.evaluate?_eq (numeric : IsNumericSide now record side expr number)
    (trimmed : Text.trimChars side = side) :
    Formula.evaluate? now record (String.ofList side) = Formula.numberOf? now record expr := by
  have noBlock : Formula.dropBlockMark side = side := by
    unfold Formula.dropBlockMark
    split
    all_goals first
      | rfl
      | exact absurd (numeric.unmarked '|' List.mem_cons_self) (by decide)
  have source : Formula.source (String.ofList side) = String.ofList side := by
    rw [Formula.source, String.toList_ofList, noBlock, trimmed]
  rw [Formula.evaluate?, Formula.compile?, source, numeric.parsed]
  rfl

/-- The expression of a side decides what the side is read as. -/
theorem IsNumericSide.trimmedOperand_eq (numeric : IsNumericSide now record side expr number)
    (trimmed : Text.trimChars side = side) :
    trimmedOperand now record side = sideValue now record side expr number := by
  obtain ⟨noDouble, noSingle⟩ := isQuotedBy_eq_false numeric.unmarked
  by_cases plain : isPlainNumber side = true
  · have evaluated := eval_of_isPlainNumber plain numeric.parsed now record
    rw [numeric.value] at evaluated
    have same := Value.number.inj (Except.ok.inj evaluated)
    simp [trimmedOperand, sideValue, noDouble, noSingle, plain, same]
  · simp only [trimmedOperand, sideValue, noDouble, noSingle, plain, numeric.literalWord?,
      numeric.evaluate?_eq trimmed, Bool.or_self, Bool.false_eq_true, if_false]
    cases record.lookup (String.ofList side) with
    | some value => rfl
    | none => cases Formula.numberOf? now record expr <;> rfl

/-- A side that stands alone is read as its number. -/
theorem StandsAlone.sideValue_eq (alone : StandsAlone now record side expr number)
    (numeric : IsNumericSide now record side expr number) :
    sideValue now record side expr number = .number number := by
  by_cases plain : isPlainNumber side = true
  · exact if_pos plain
  · rw [sideValue, if_neg plain]
    cases alone with
    | number isPlain => exact absurd isPlain plain
    | property written named =>
        obtain ⟨value, found⟩ := Option.isSome_iff_exists.mp named
        rw [written, found]
        exact eval_property found numeric.value
    | formula arithmetic unnamed alike finite =>
        have same := Formula.numberOf?_eq_some numeric.inputs alike numeric.value finite
        rw [unnamed, same]
        exact if_pos arithmetic

theorem StandsForNumber.countsAs (standsFor : StandsForNumber now record side expr number)
    (numeric : IsNumericSide now record side expr number)
    (trimmed : Text.trimChars side = side) :
    CountsAs number (sideValue now record side expr number) := by
  cases standsFor with
  | alone alone =>
      rw [alone.sideValue_eq numeric]
      exact .number
  | @literal literal numeral unnamed plain =>
      by_cases isPlain : isPlainNumber side = true
      · rw [sideValue, if_pos isPlain]
        exact .number
      · have parsed := parse_of_isNumeral numeral
        rw [numeric.parsed] at parsed
        have evaluated := numeric.value
        rw [Except.ok.inj parsed] at evaluated
        have same : literal = number := Value.number.inj (Except.ok.inj evaluated)
        have reads : Number.ofText (String.ofList side) = number := by
          rw [Number.ofText, String.toList_ofList, trimmed, ← same]
          exact ofTrimmed_of_ofDecimalLiteral? numeral.reads
        rw [sideValue, if_neg isPlain, unnamed, plain]
        exact .text reads

end Sides

end NoteBase.Predicate
