import NoteBase.Predicate.Evaluate
import NoteBase.Proofs.Expr.Lexing
import NoteBase.Proofs.Predicate.QuotedCall
import NoteBase.Proofs.Predicate.Split

/-!
# Comparisons of plain operands

An operand is a text in quotes, a number or a dotted path of names. A comparison of two operands is
the comparison of their values if no operator stands inside the left one; otherwise it is split
inside the left one. A single name asks whether the property is there, unless a word operator stands
inside it.
-/

namespace NoteBase.Predicate

open Calendar (Moment)

/-! ## Operands -/

def IsIdentifier (chars : List Char) : Prop :=
  ∃ first rest, chars = first :: rest ∧ Expr.isNameStart first = true ∧
    ∀ char ∈ rest, Expr.isNameChar char = true

/-- Digits with a fraction and an exponent, if there are any. -/
def IsNumberLiteral (chars : List Char) : Prop :=
  (∃ first rest, chars = first :: rest ∧ first.isDigit = true) ∧
    Expr.numberLength chars = chars.length

inductive IsOperand : List Char → Prop
  | quoted {quote : Char} {body : List Char} (marked : isQuote quote = true)
      (plain : ∀ char ∈ body, isQuote char = false ∧ char ≠ '\\' ∧ char ≠ '\n') :
      IsOperand (quote :: (body ++ [quote]))
  | number (negative : Bool) {chars : List Char} (literal : IsNumberLiteral chars) :
      IsOperand (if negative then '-' :: chars else chars)
  | path {names : List (List Char)} (nonempty : names ≠ [])
      (named : ∀ name ∈ names, IsIdentifier name) : IsOperand (['.'].intercalate names)

/-- The operators of comparisons that are no words. -/
def symbols : List (List Char × ComparisonOp) :=
  [(">".toList, .gt), (">=".toList, .ge), ("<".toList, .lt), ("<=".toList, .le),
    ("==".toList, .looseEq), ("===".toList, .strictEq), ("!=".toList, .looseNe),
    ("!==".toList, .strictNe)]

theorem symbols_valid :
    ∀ entry ∈ symbols, entry.1 ≠ [] ∧ (∀ char ∈ entry.1, isOperatorChar char = true) ∧
      ComparisonOp.ofText? (String.ofList entry.1) = some entry.2 := by
  have all : (symbols.all fun entry => !entry.1.isEmpty && (entry.1.all isOperatorChar &&
      decide (ComparisonOp.ofText? (String.ofList entry.1) = some entry.2))) = true := by
    decide +kernel
  simpa only [List.all_eq_true, Bool.and_eq_true, Bool.not_eq_true', List.isEmpty_eq_false_iff,
    decide_eq_true_eq] using all

/-- A comparison as it is written, with one blank on each side of its operator. -/
def comparisonChars (left symbol right : List Char) : List Char :=
  left ++ ' ' :: (symbol ++ ' ' :: right)

/-! ## How operands read -/

/-- A character that is neither a blank nor a quote, and that neither logical operators nor calls
end with. -/
def IsPlain (char : Char) : Prop :=
  Text.isBlank char = false ∧ isQuote char = false ∧ char ∉ ['&', '|', ')']

/-- A text on one line, without blanks at its ends, that is neither the end of a call nor holds a
logical operator. -/
structure IsShown (chars : List Char) : Prop where
  starts : ∃ first rest, chars = first :: rest ∧ Text.isBlank first = false
  ends : ∃ inner last, chars = inner ++ [last] ∧ Text.isBlank last = false ∧ last ≠ ')'
  line : '\n' ∉ chars
  passes : ∀ previous rest, ∃ last,
    hasLogicalFrom none previous (chars ++ rest) = hasLogicalFrom none last rest

theorem hasLogicalFrom_unquoted {chars : List Char}
    (plain : ∀ char ∈ chars, isQuote char = false ∧ char ≠ '&' ∧ char ≠ '|')
    (previous : Option Char) (rest : List Char) :
    ∃ last, hasLogicalFrom none previous (chars ++ rest) = hasLogicalFrom none last rest := by
  induction chars generalizing previous with
  | nil => exact ⟨previous, rfl⟩
  | cons char chars inductionHypothesis =>
      obtain ⟨noQuote, noAnd, noOr⟩ := plain char List.mem_cons_self
      obtain ⟨last, later⟩ := inductionHypothesis
        (fun next member => plain next (List.mem_cons_of_mem _ member)) (some char)
      refine ⟨last, ?_⟩
      rw [List.cons_append, hasLogicalFrom, ← later]
      simp [noQuote, noAnd, noOr]

theorem isShown_of_plain {chars : List Char} (nonempty : chars ≠ [])
    (plain : ∀ char ∈ chars, IsPlain char) : IsShown chars where
  starts := by
    obtain ⟨first, rest, rfl⟩ := List.exists_cons_of_ne_nil nonempty
    exact ⟨first, rest, rfl, (plain first List.mem_cons_self).1⟩
  ends := by
    obtain ⟨inner, last, rfl⟩ := (List.eq_nil_or_concat' chars).resolve_left nonempty
    obtain ⟨shown, _, different⟩ := plain last (by simp)
    refine ⟨inner, last, rfl, shown, ?_⟩
    rintro rfl
    exact different (by decide)
  line := by
    intro member
    have shown := (plain _ member).1
    revert shown
    decide
  passes := by
    refine hasLogicalFrom_unquoted fun char member => ?_
    obtain ⟨_, noQuote, different⟩ := plain char member
    simp only [List.mem_cons, List.not_mem_nil, or_false, not_or] at different
    exact ⟨noQuote, different.1, different.2.1⟩

theorem hasLogicalFrom_body {quote : Char} {body : List Char} (marked : isQuote quote = true)
    (plain : ∀ char ∈ body, isQuote char = false ∧ char ≠ '\\' ∧ char ≠ '\n')
    {previous : Char} (noBackslash : previous ≠ '\\') (rest : List Char) :
    hasLogicalFrom (some quote) (some previous) (body ++ quote :: rest) =
      hasLogicalFrom none (some quote) rest := by
  induction body generalizing previous with
  | nil => simp [hasLogicalFrom, noBackslash]
  | cons char body inductionHypothesis =>
      obtain ⟨noQuote, charNoBackslash, _⟩ := plain char List.mem_cons_self
      have different : char ≠ quote := by
        rintro rfl
        rw [marked] at noQuote
        cases noQuote
      have later := @inductionHypothesis
        (fun next member => plain next (List.mem_cons_of_mem _ member)) char charNoBackslash
      rw [List.cons_append, hasLogicalFrom]
      simp [different, later]

theorem isShown_quoted {quote : Char} {body : List Char} (marked : isQuote quote = true)
    (plain : ∀ char ∈ body, isQuote char = false ∧ char ≠ '\\' ∧ char ≠ '\n') :
    IsShown (quote :: (body ++ [quote])) := by
  have marks : quote = '\'' ∨ quote = '"' := by simpa [isQuote] using marked
  have shown : Text.isBlank quote = false := by
    rcases marks with rfl | rfl <;> decide
  have noParenthesis : quote ≠ ')' := by
    rcases marks with rfl | rfl <;> decide
  have noBackslash : quote ≠ '\\' := by
    rcases marks with rfl | rfl <;> decide
  have noBreak : quote ≠ '\n' := by
    rcases marks with rfl | rfl <;> decide
  refine ⟨⟨quote, _, rfl, shown⟩, ⟨quote :: body, quote, rfl, shown, noParenthesis⟩, ?_, ?_⟩
  · intro member
    simp only [List.mem_cons, List.mem_append, List.not_mem_nil, or_false] at member
    rcases member with same | inBody | same
    · exact noBreak same.symm
    · exact (plain _ inBody).2.2 rfl
    · exact noBreak same.symm
  · intro previous rest
    refine ⟨some quote, ?_⟩
    have body := hasLogicalFrom_body marked plain noBackslash rest
    rw [List.cons_append, List.append_assoc, List.singleton_append, hasLogicalFrom]
    simp only [marked, if_true, body]

/-! ### Numbers and paths -/

theorem isPlain_of_isNameChar {char : Char} (name : Expr.isNameChar char = true) :
    IsPlain char := by
  refine ⟨Expr.isBlank_of_isNameChar name, ?_, ?_⟩
  · cases quoted : isQuote char with
    | false => rfl
    | true =>
        simp only [isQuote, Bool.or_eq_true, beq_iff_eq] at quoted
        rcases quoted with rfl | rfl <;> (revert name; decide)
  · intro member
    simp only [List.mem_cons, List.not_mem_nil, or_false] at member
    rcases member with rfl | rfl | rfl <;> (revert name; decide)

theorem isOperatorChar_of_isNameChar {char : Char} (name : Expr.isNameChar char = true) :
    isOperatorChar char = false := by
  apply Bool.eq_false_iff.mpr
  intro operator
  simp only [isOperatorChar, Bool.or_eq_true, beq_iff_eq] at operator
  rcases operator with ((rfl | rfl) | rfl) | rfl <;> (revert name; decide)

/-- The characters that a number is written with. -/
def isNumberChar (char : Char) : Bool :=
  char.isDigit || char == '.' || char == 'e' || char == 'E' || char == '+' || char == '-'

theorem isPlain_of_isNumberChar {char : Char} (numeric : isNumberChar char = true) :
    IsPlain char := by
  simp only [isNumberChar, Bool.or_eq_true, beq_iff_eq] at numeric
  rcases numeric with ((((digit | rfl) | rfl) | rfl) | rfl) | rfl
  · exact isPlain_of_isNameChar (Expr.isNameChar_of_isDigit digit)
  all_goals exact ⟨by decide, by decide, by decide⟩

theorem isNumberChar_of_isDigit {char : Char} (digit : char.isDigit = true) :
    isNumberChar char = true := by
  simp [isNumberChar, digit]

theorem isNumberChar_takeWhile {chars : List Char} :
    ∀ char ∈ chars.takeWhile Char.isDigit, isNumberChar char = true :=
  fun _ member => isNumberChar_of_isDigit (List.mem_takeWhile_imp member)

theorem isNumberChar_fraction (chars : List Char) :
    ∀ char ∈ chars.take (Expr.fractionLength chars), isNumberChar char = true := by
  unfold Expr.fractionLength
  split
  · next rest =>
    dsimp only
    split
    · simp
    · intro char member
      rw [List.take_succ_cons, List.mem_cons] at member
      rcases member with rfl | inDigits
      · rfl
      · rw [← List.prefix_iff_eq_take.mp (List.takeWhile_prefix Char.isDigit)] at inDigits
        exact isNumberChar_takeWhile char inDigits
  · simp

theorem isNumberChar_exponent (chars : List Char) :
    ∀ char ∈ chars.take (Expr.exponentLength chars), isNumberChar char = true := by
  unfold Expr.exponentLength
  split
  · next mark rest =>
    have marked : ∀ signLength, (∀ char ∈ rest.take signLength, isNumberChar char = true) →
        mark = 'e' ∨ mark = 'E' → ∀ char ∈ (mark :: rest).take
          (if ((rest.drop signLength).takeWhile Char.isDigit).isEmpty then 0
            else 1 + signLength + ((rest.drop signLength).takeWhile Char.isDigit).length),
          isNumberChar char = true := by
      intro signLength signs isMark char member
      split at member
      · simp at member
      · rw [Nat.add_assoc, Nat.add_comm 1, List.take_succ_cons, List.mem_cons, List.take_add,
          List.mem_append] at member
        rcases member with rfl | inSign | inDigits
        · rcases isMark with rfl | rfl <;> rfl
        · exact signs char inSign
        · rw [← List.prefix_iff_eq_take.mp (List.takeWhile_prefix Char.isDigit)] at inDigits
          exact isNumberChar_takeWhile char inDigits
    split
    · next isMark =>
      split
      · exact marked 1 (by simp [isNumberChar]) isMark
      · exact marked 1 (by simp [isNumberChar]) isMark
      · exact marked 0 (by simp) isMark
    · simp
  · simp

/-- The number at the front of a text is written with these characters. -/
theorem isNumberChar_number (chars : List Char) :
    ∀ char ∈ chars.take (Expr.numberLength chars), isNumberChar char = true := by
  intro char member
  unfold Expr.numberLength at member
  dsimp only at member
  rw [List.take_add, List.take_add, List.mem_append, List.mem_append] at member
  rcases member with (inWhole | inFraction) | inExponent
  · rw [← List.prefix_iff_eq_take.mp (List.takeWhile_prefix Char.isDigit)] at inWhole
    exact isNumberChar_takeWhile char inWhole
  · exact isNumberChar_fraction _ char inFraction
  · exact isNumberChar_exponent _ char inExponent

/-- And so is what stands behind its first character. -/
theorem isNumberChar_numberTail (char : Char) (rest : List Char) :
    ∀ next ∈ rest.take (Expr.numberLength (char :: rest) - 1), isNumberChar next = true := by
  intro next member
  apply isNumberChar_number (char :: rest)
  cases length : Expr.numberLength (char :: rest) with
  | zero =>
      rw [length] at member
      cases member
  | succ count =>
      rw [length, Nat.add_sub_cancel] at member
      exact List.mem_cons_of_mem char member

theorem isNumberChar_of_isNumberLiteral {chars : List Char} (literal : IsNumberLiteral chars) :
    ∀ char ∈ chars, isNumberChar char = true := by
  have numeric := isNumberChar_number chars
  rwa [literal.2, List.take_length] at numeric

theorem IsIdentifier.isNameChar {name : List Char} (identifier : IsIdentifier name) :
    ∀ char ∈ name, Expr.isNameChar char = true := by
  obtain ⟨first, rest, rfl, start, others⟩ := identifier
  intro char member
  rcases List.mem_cons.mp member with rfl | later
  · exact Expr.isNameChar_of_isNameStart start
  · exact others char later

theorem IsOperand.isShown {chars : List Char} (operand : IsOperand chars) : IsShown chars := by
  cases operand with
  | quoted marked plain => exact isShown_quoted marked plain
  | @number negative chars literal =>
      have numeric : ∀ char ∈ (if negative then '-' :: chars else chars), IsPlain char := by
        intro char member
        apply isPlain_of_isNumberChar
        cases negative with
        | true =>
            rcases List.mem_cons.mp member with rfl | later
            · rfl
            · exact isNumberChar_of_isNumberLiteral literal char later
        | false => exact isNumberChar_of_isNumberLiteral literal char member
      refine isShown_of_plain ?_ numeric
      obtain ⟨⟨first, rest, rfl, _⟩, _⟩ := literal
      cases negative <;> exact List.cons_ne_nil _ _
  | @path names nonempty named =>
      have plain : ∀ char ∈ ['.'].intercalate names, IsPlain char :=
        forall_mem_intercalate ⟨by decide, by decide, by decide⟩ fun name member char inName =>
          isPlain_of_isNameChar ((named name member).isNameChar char inName)
      refine isShown_of_plain ?_ plain
      obtain ⟨name, rest, rfl⟩ := List.exists_cons_of_ne_nil nonempty
      obtain ⟨first, others, rfl, _⟩ := named name List.mem_cons_self
      cases rest with
      | nil => simp
      | cons next rest =>
          rw [List.intercalate_cons_cons]
          exact List.cons_ne_nil _ _

/-! ## Where the comparison of two operands is split -/

section Comparison

variable {left right symbol : List Char} {op : ComparisonOp}

theorem callShape?_eq_none {chars inner : List Char} {last : Char}
    (ends : chars = inner ++ [last]) (noParenthesis : last ≠ ')') : callShape? chars = none := by
  cases found : callShape? chars with
  | none => rfl
  | some shape =>
      obtain ⟨call, _, written, _⟩ := QuotedCall.exists_of_callShape? found
      obtain ⟨front, closing⟩ := call.exists_chars_eq_append
      rw [written, ends] at closing
      exact absurd (List.append_singleton_inj.mp closing).2 noParenthesis

theorem isShown_comparison (leftShown : IsShown left) (rightShown : IsShown right)
    (known : (symbol, op) ∈ symbols) : IsShown (comparisonChars left symbol right) := by
  have middle : ∀ char ∈ ' ' :: symbol ++ [' '], isQuote char = false ∧
      char ≠ '&' ∧ char ≠ '|' ∧ char ≠ '\n' := by
    intro char member
    simp only [List.cons_append, List.mem_cons, List.mem_append, List.not_mem_nil, or_false]
      at member
    rcases member with rfl | inSymbol | rfl
    · decide
    · have operator := (symbols_valid _ known).2.1 char inSymbol
      simp only [isOperatorChar, Bool.or_eq_true, beq_iff_eq] at operator
      rcases operator with ((rfl | rfl) | rfl) | rfl <;> decide
    · decide
  have written : comparisonChars left symbol right =
      left ++ (' ' :: symbol ++ [' '] ++ right) := by
    simp [comparisonChars]
  rw [written]
  obtain ⟨first, rest, leftEq, firstShown⟩ := leftShown.starts
  obtain ⟨inner, last, rightEq, lastShown⟩ := rightShown.ends
  refine ⟨⟨first, _, by rw [leftEq]; rfl, firstShown⟩,
    ⟨left ++ (' ' :: symbol ++ [' '] ++ inner), last, by simp [rightEq], lastShown⟩, ?_, ?_⟩
  · intro member
    rcases List.mem_append.mp member with inLeft | later
    · exact leftShown.line inLeft
    · rcases List.mem_append.mp later with inMiddle | inRight
      · exact (middle _ inMiddle).2.2.2 rfl
      · exact rightShown.line inRight
  · intro previous others
    obtain ⟨behindLeft, leftPasses⟩ :=
      leftShown.passes previous (' ' :: symbol ++ [' '] ++ right ++ others)
    obtain ⟨behindMiddle, middlePasses⟩ := hasLogicalFrom_unquoted
      (fun char member => ⟨(middle char member).1, (middle char member).2.1,
        (middle char member).2.2.1⟩) behindLeft (right ++ others)
    obtain ⟨behindRight, rightPasses⟩ := rightShown.passes behindMiddle others
    refine ⟨behindRight, ?_⟩
    rw [List.append_assoc, leftPasses, List.append_assoc, middlePasses, rightPasses]

theorem IsShown.trimChars {chars : List Char} (shown : IsShown chars) :
    Text.trimChars chars = chars := by
  obtain ⟨first, rest, chars_, firstShown⟩ := shown.starts
  obtain ⟨inner, last, ends, lastShown, _⟩ := shown.ends
  exact Text.trimChars_of_ends firstShown lastShown (by rw [chars_]; rfl) ends

/-- A shown text is no call and no logical expression. -/
theorem IsShown.noCall {chars : List Char} (shown : IsShown chars) :
    callShape? chars = none ∧ hasLogicalOperator chars = false := by
  obtain ⟨inner, last, ends, _, noParenthesis⟩ := shown.ends
  refine ⟨callShape?_eq_none ends noParenthesis, ?_⟩
  obtain ⟨last, passes⟩ := shown.passes none []
  rw [List.append_nil] at passes
  rw [hasLogicalOperator, passes]
  rfl

theorem IsShown.evaluate {chars : List Char} (shown : IsShown chars) (now : Moment)
    (record : Record) :
    Predicate.evaluate now record (String.ofList chars) =
      (Shape.of chars).holds now record (String.ofList chars) := by
  unfold Predicate.evaluate
  rw [String.toList_ofList, shown.trimChars]

/-- A text that is neither a call nor a logical expression is a comparison if it is split. -/
theorem shape_of_split {chars front found behind : List Char} (noCall : callShape? chars = none)
    (noLogical : hasLogicalOperator chars = false)
    (split : splitComparison? chars = some (front, found, behind)) :
    Shape.of chars = .comparison (String.ofList front)
      (ComparisonOp.ofText? (String.ofList found)) (String.ofList behind) := by
  simp [Shape.of, noCall, noLogical, split]

/-- The right side of a comparison of operands is the right operand. -/
theorem isRightSide_operand (rightShown : IsShown right) :
    Text.trimStart (' ' :: right) = right ∧ isRightSide right = true := by
  obtain ⟨first, rest, rightEq, firstShown⟩ := rightShown.starts
  have blank : ∀ char ∈ [' '], Text.isBlank char = true :=
    fun _ member => List.mem_singleton.mp member ▸ rfl
  have trimmed : Text.trimStart (' ' :: right) = right :=
    @Text.trimStart_blanks [' '] right blank fun char head => by
      rw [rightEq] at head
      exact Option.some.inj head ▸ firstShown
  have some_ : right.isEmpty = false := by
    rw [rightEq]
    rfl
  exact ⟨trimmed, by simp [isRightSide, some_, rightShown.line]⟩

theorem splitComparison?_comparison (leftShown : IsShown left) (rightShown : IsShown right)
    (known : (symbol, op) ∈ symbols) (noOperator : hasOperatorInside left = false) :
    splitComparison? (comparisonChars left symbol right) = some (left, symbol, right) := by
  obtain ⟨some_, operators, _⟩ := symbols_valid _ known
  obtain ⟨trimmed, isRight⟩ := isRightSide_operand rightShown
  obtain ⟨inner, last, leftEq, lastShown, _⟩ := leftShown.ends
  have split := @splitComparison?_eq left [' '] symbol (' ' :: right) (by simp [leftEq])
    leftShown.line (by simpa [leftEq] using lastShown) noOperator
    (fun _ member => List.mem_singleton.mp member ▸ rfl) some_ operators
    (fun _ head => Option.some.inj head ▸ rfl) (by rw [trimmed, isRight])
  rw [trimmed] at split
  exact split

theorem splitComparison?_comparison_inside (leftShown : IsShown left) (rightShown : IsShown right)
    (known : (symbol, op) ∈ symbols) (operator : hasOperatorInside left = true) :
    ∃ front others found behind, left = front ++ others ∧ front ≠ [] ∧ others ≠ [] ∧
      splitComparison? (comparisonChars left symbol right) = some (front, found, behind) := by
  obtain ⟨some_, operators, _⟩ := symbols_valid _ known
  obtain ⟨first, rest, rightEq, firstShown⟩ := rightShown.starts
  have whole := isShown_comparison leftShown rightShown known
  have notBlank : Text.trimStart (' ' :: (symbol ++ ' ' :: right)) ≠ [] := by
    intro gone
    have blank := List.dropWhile_eq_nil_iff.mp gone first (by simp [rightEq])
    rw [firstShown] at blank
    cases blank
  obtain ⟨front, others, found, behind, leftEq, someFront, someOthers, split, _⟩ :=
    splitComparison?_inside operator whole.line
      (by simp [isOperatorChar]) notBlank
  exact ⟨front, others, found, behind, leftEq, someFront, someOthers, split⟩

end Comparison

/-! ## Names -/

section Names

variable {name : List Char}

theorem isPlain_of_isWordChar {char : Char} (word : isWordChar char = true) : IsPlain char := by
  simp only [isWordChar, Char.isAlphanum, Bool.or_eq_true, beq_iff_eq] at word
  rcases word with (letter | digit) | rfl
  · refine ⟨Text.isBlank_of_isAlpha letter, ?_, ?_⟩
    · cases quoted : isQuote char with
      | false => rfl
      | true =>
          simp only [isQuote, Bool.or_eq_true, beq_iff_eq] at quoted
          rcases quoted with rfl | rfl <;> cases letter
    · intro member
      simp only [List.mem_cons, List.not_mem_nil, or_false] at member
      rcases member with rfl | rfl | rfl <;> cases letter
  · exact isPlain_of_isNameChar (Expr.isNameChar_of_isDigit digit)
  · exact ⟨by decide, by decide, by decide⟩

theorem isOperatorChar_of_isWordChar {char : Char} (word : isWordChar char = true) :
    isOperatorChar char = false := by
  cases operator : isOperatorChar char with
  | false => rfl
  | true =>
      simp only [isOperatorChar, Bool.or_eq_true, beq_iff_eq] at operator
      rcases operator with ((rfl | rfl) | rfl) | rfl <;> (revert word; decide)

theorem trimStart_word {chars : List Char} (words : ∀ char ∈ chars, isWordChar char = true) :
    Text.trimStart chars = chars :=
  Text.trimStart_eq_self fun char head =>
    (isPlain_of_isWordChar (words char (List.mem_of_mem_head? head))).1

/-- Only a word can be an operator among the characters of names, with something behind it. -/
theorem splitOperator?_words {chars op right : List Char}
    (words : ∀ char ∈ chars, isWordChar char = true)
    (found : splitOperator? chars = some (op, right)) :
    op ∈ wordOperators ∧ chars = op ++ right ∧ right ≠ [] := by
  obtain ⟨member, behind, rfl, rfl, isRight⟩ := splitOperator?_word
    (fun char head => isOperatorChar_of_isWordChar (words char (List.mem_of_mem_head? head))) found
  have untrimmed : Text.trimStart behind = behind :=
    trimStart_word fun char inBehind => words char (List.mem_append_right _ inBehind)
  rw [untrimmed] at isRight ⊢
  refine ⟨member, rfl, ?_⟩
  rintro rfl
  cases isRight

theorem exists_comparisonOp_of_word {word : List Char} (member : word ∈ wordOperators) :
    ∃ op, ComparisonOp.ofText? (String.ofList word) = some op := by
  have known : ∀ word ∈ wordOperators,
      (ComparisonOp.ofText? (String.ofList word)).isSome = true := by
    decide +kernel
  exact Option.isSome_iff_exists.mp (known word member)

theorem opens_iff_of_word {rest : List Char} (words : ∀ char ∈ rest, isWordChar char = true) :
    Opens rest ↔ startsOperator rest.dropLast = true := by
  have untrimmed := trimStart_word words
  constructor
  · intro opens
    obtain ⟨⟨op, right⟩, found⟩ := Option.isSome_iff_exists.mp opens
    rw [untrimmed] at found
    obtain ⟨member, rfl, some_⟩ := splitOperator?_words words found
    have isPrefix : op.isPrefixOf (op ++ right).dropLast = true := by
      rw [List.dropLast_append_of_ne_nil some_]
      exact List.isPrefixOf_iff_prefix.mpr (List.prefix_append _ _)
    simp only [startsOperator, Bool.or_eq_true, List.any_eq_true]
    exact .inr ⟨op, member, isPrefix⟩
  · intro starts
    have nonempty : rest ≠ [] := by
      rintro rfl
      exact absurd starts (by decide)
    have last := isPlain_of_isWordChar (words _ (List.getLast_mem nonempty))
    have noOperator := isOperatorChar_of_isWordChar (words _ (List.getLast_mem nonempty))
    have opens := @opens_of_startsOperator rest.dropLast [rest.getLast nonempty] starts
    rw [List.dropLast_append_getLast] at opens
    refine opens (fun member => ?_) (fun char head => Option.some.inj head ▸ noOperator) ?_
    · exact absurd (words _ member) (by decide)
    · have shown : Text.trimStart [rest.getLast nonempty] = [rest.getLast nonempty] :=
        Text.trimStart_eq_self fun char head => Option.some.inj head ▸ last.1
      rw [shown]
      exact List.cons_ne_nil _ _

theorem hasOperatorInside_dropLast {first : Char} {rest : List Char}
    (words : ∀ char ∈ rest, isWordChar char = true) :
    hasOperatorInside (first :: rest).dropLast = true ↔
      ∃ others, others <:+ rest ∧ others ≠ [] ∧ Opens others := by
  have tail : (first :: rest).dropLast.tail = rest.dropLast := by
    cases rest <;> rfl
  rw [hasOperatorInside_iff, tail]
  constructor
  · rintro ⟨inner, ⟨front, written⟩, starts⟩
    have nonempty : rest ≠ [] := by
      rintro rfl
      obtain ⟨_, rfl⟩ := List.append_eq_nil_iff.mp written
      exact absurd starts (by decide)
    have suffix : inner ++ [rest.getLast nonempty] <:+ rest := by
      refine ⟨front, ?_⟩
      rw [← List.append_assoc, written, List.dropLast_append_getLast]
    refine ⟨_, suffix, by simp, ?_⟩
    rw [opens_iff_of_word fun char member => words char (suffix.subset member),
      List.dropLast_concat]
    exact starts
  · rintro ⟨others, ⟨front, rfl⟩, nonempty, opens⟩
    refine ⟨others.dropLast, ⟨front, ?_⟩, ?_⟩
    · rw [List.dropLast_append_of_ne_nil nonempty]
    · exact (opens_iff_of_word fun char member =>
        words char (List.mem_append_right _ member)).mp opens

/-- A name is not split if no word operator stands inside it, and is split at one otherwise. -/
theorem splitComparison?_name (nonempty : name ≠ [])
    (words : ∀ char ∈ name, isWordChar char = true) :
    (hasOperatorInside name.dropLast = false → splitComparison? name = none) ∧
      (hasOperatorInside name.dropLast = true →
        ∃ front op behind, name = front ++ op ++ behind ∧ front ≠ [] ∧ op ∈ wordOperators ∧
          behind ≠ [] ∧ splitComparison? name = some (front, op, behind)) := by
  obtain ⟨first, rest, rfl⟩ := List.exists_cons_of_ne_nil nonempty
  have restWords : ∀ char ∈ rest, isWordChar char = true :=
    fun char member => words char (List.mem_cons_of_mem _ member)
  have noBreak : '\n' ∉ first :: rest := fun member => absurd (words _ member) (by decide)
  have noBreakRest : '\n' ∉ rest := fun member => noBreak (List.mem_cons_of_mem _ member)
  have start : splitComparison? (first :: rest) = splitComparisonFrom [first] (rest ++ []) := by
    rw [List.append_nil]
    exact splitComparison?_cons fun same => noBreak (same ▸ List.mem_cons_self)
  have inside := @hasOperatorInside_dropLast first rest restWords
  refine ⟨fun noOperator => ?_, fun operator => ?_⟩
  · have closed : ∀ others, others <:+ rest → others ≠ [] → ¬ Opens (others ++ []) := by
      intro others suffix some_ opens
      rw [List.append_nil] at opens
      rw [inside.mpr ⟨others, suffix, some_, opens⟩] at noOperator
      cases noOperator
    rw [start, splitComparisonFrom_append noBreakRest closed]
    rfl
  · obtain ⟨inner, suffix, some_, opens⟩ := inside.mp operator
    rw [← List.append_nil inner] at opens
    obtain ⟨passed, others, op, behind, rfl, _, split, found⟩ :=
      splitComparisonFrom_inside noBreakRest suffix some_ opens [first]
    have otherWords : ∀ char ∈ others, isWordChar char = true :=
      fun char member => restWords char (List.mem_append_right _ member)
    rw [List.append_nil, trimStart_word otherWords] at found
    obtain ⟨member, rfl, someBehind⟩ := splitOperator?_words otherWords found
    refine ⟨first :: passed, op, behind, ?_, List.cons_ne_nil _ _, member, someBehind, ?_⟩
    · simp
    · rw [start, split]
      rfl

end Names

/-! ## The comparison of two operands, and single names -/

/-- A comparison of two operands compares their values if no operator stands inside the left one,
and is split inside the left one otherwise. A name asks whether the property is there if no word
operator stands inside it, and is compared at that operator otherwise. -/
theorem evaluate_operands (now : Moment) (record : Record) :
    (∀ left right symbol op, IsOperand left → IsOperand right → (symbol, op) ∈ symbols →
      (hasOperatorInside left = false →
        evaluate now record (String.ofList (comparisonChars left symbol right)) =
          compareValues (operand now record (String.ofList left)) op
            (operand now record (String.ofList right))) ∧
      (hasOperatorInside left = true →
        ∃ front others found behind, left = front ++ others ∧ front ≠ [] ∧ others ≠ [] ∧
          evaluate now record (String.ofList (comparisonChars left symbol right)) =
            Shape.holds now record (String.ofList (comparisonChars left symbol right))
              (.comparison (String.ofList front) found (String.ofList behind)))) ∧
    (∀ name : List Char, name ≠ [] → (∀ char ∈ name, isWordChar char = true) →
      (hasOperatorInside name.dropLast = false →
        evaluate now record (String.ofList name) =
          (record.get? (String.ofList name)).any fun value => !value.isNull) ∧
      (hasOperatorInside name.dropLast = true →
        ∃ front word op behind, name = front ++ word ++ behind ∧ front ≠ [] ∧
          word ∈ wordOperators ∧ behind ≠ [] ∧
          ComparisonOp.ofText? (String.ofList word) = some op ∧
          evaluate now record (String.ofList name) =
            compareValues (operand now record (String.ofList front)) op
              (operand now record (String.ofList behind)))) := by
  constructor
  · intro left right symbol op leftOperand rightOperand known
    have leftShown := leftOperand.isShown
    have rightShown := rightOperand.isShown
    have shown := isShown_comparison leftShown rightShown known
    have whole := shown.evaluate now record
    obtain ⟨noCall, noLogical⟩ := shown.noCall
    refine ⟨fun noOperator => ?_, fun operator => ?_⟩
    · have split := splitComparison?_comparison leftShown rightShown known noOperator
      rw [whole, shape_of_split noCall noLogical split]
      simp only [(symbols_valid _ known).2.2, Shape.holds]
    · obtain ⟨front, others, found, behind, leftEq, someFront, someOthers, split⟩ :=
        splitComparison?_comparison_inside leftShown rightShown known operator
      refine ⟨front, others, ComparisonOp.ofText? (String.ofList found), behind, leftEq, someFront,
        someOthers, ?_⟩
      rw [whole, shape_of_split noCall noLogical split]
  · intro name nonempty words
    have shown := isShown_of_plain nonempty fun char member =>
      isPlain_of_isWordChar (words char member)
    have whole := shown.evaluate now record
    obtain ⟨noCall, noLogical⟩ := shown.noCall
    obtain ⟨alone, inside⟩ := splitComparison?_name nonempty words
    refine ⟨fun noOperator => ?_, fun operator => ?_⟩
    · have someName : name.isEmpty = false := by
        rw [List.isEmpty_eq_false_iff]
        exact nonempty
      have allWords : name.all isWordChar = true := List.all_eq_true.mpr words
      have shape : Shape.of name = .existence (String.ofList name) := by
        simp [Shape.of, noCall, noLogical, alone noOperator, someName, allWords]
      rw [whole, shape]
      rfl
    · obtain ⟨front, word, behind, nameEq, someFront, member, someBehind, split⟩ :=
        inside operator
      obtain ⟨op, known⟩ := exists_comparisonOp_of_word member
      refine ⟨front, word, op, behind, nameEq, someFront, member, someBehind, known, ?_⟩
      rw [whole, shape_of_split noCall noLogical split]
      simp only [known, Shape.holds]

/-- A note with a property whose name holds the word of an operator. -/
def containingNote : Record :=
  OrderedMap.ofList [("rating", .number (Number.ofNat 4)), ("xcontainsy", .number (Number.ofNat 1))]

theorem isOperand_name {first : Char} {rest : List Char} (start : Expr.isNameStart first = true)
    (others : rest.all Expr.isNameChar = true) : IsOperand (first :: rest) := by
  have named : IsIdentifier (first :: rest) :=
    ⟨first, rest, rfl, start, List.all_eq_true.mp others⟩
  have single := @IsOperand.path [first :: rest] (List.cons_ne_nil _ _) (by simpa using named)
  simpa using single

theorem evaluate_operands_rating :
    evaluate Moment.epoch containingNote "rating >= -3" =
        compareValues (operand Moment.epoch containingNote "rating") .ge
          (operand Moment.epoch containingNote "-3") ∧
      evaluate Moment.epoch containingNote "rating" =
        (containingNote.get? "rating").any fun value => !value.isNull := by
  have left : IsOperand "rating".toList :=
    isOperand_name (by decide) (by decide)
  have right : IsOperand "-3".toList := .number true ⟨⟨'3', [], rfl, rfl⟩, rfl⟩
  have written : String.ofList (comparisonChars "rating".toList ">=".toList "-3".toList) =
      "rating >= -3" := by decide +kernel
  obtain ⟨operands, names⟩ := evaluate_operands Moment.epoch containingNote
  have compared := (operands _ _ ">=".toList .ge left right (by decide)).1 (by decide)
  have asked := (names "rating".toList (by decide) (List.all_eq_true.mp (by decide))).1 (by decide)
  rw [written] at compared
  simp only [String.ofList_toList] at compared asked
  exact ⟨compared, asked⟩

/-- The property is there, and is 1, but neither its name nor its comparison with 1 holds: both are
split inside the name. -/
theorem containingNote_splitInside :
    IsOperand "xcontainsy".toList ∧ IsOperand "1".toList ∧
      compareValues (operand Moment.epoch containingNote "xcontainsy") .looseEq
        (operand Moment.epoch containingNote "1") = true ∧
      evaluate Moment.epoch containingNote "xcontainsy == 1" = false ∧
      (containingNote.get? "xcontainsy").isSome = true ∧
      evaluate Moment.epoch containingNote "xcontainsy" = false := by
  have path : IsOperand "xcontainsy".toList :=
    isOperand_name (by decide) (by decide)
  have number : IsOperand "1".toList := .number false ⟨⟨'1', [], rfl, rfl⟩, rfl⟩
  exact ⟨path, number, by decide +kernel⟩

end NoteBase.Predicate
