import NoteBase.Proofs.Expr.Parse
import NoteBase.Proofs.Expr.Spelling
import NoteBase.Proofs.Predicate.Operands

/-!
# Predicates of no listed shape

A predicate that is neither a call with a quoted argument nor a comparison nor a name is evaluated
as an expression, as long as no character of a comparison operator stands behind its first one.
Otherwise it is split at the first such character, even if this is the negation of an operand or
stands in a text in quotes.
-/

namespace NoteBase.Predicate

open Calendar (Moment)
open NoteBase.Expr (Token Spells IsSpelling lexeme plainLexeme)
open NoteBase.Expr.Grammar (Valid)

/-! ## Tokens with operator characters -/

/-- An operator of comparisons or logic, or a text in quotes with an operator character. -/
def HoldsOperator (token : Token) : Prop :=
  (∃ op : BinaryOp, 3 ≤ op.level ∧ token = op.token) ∨
    ∃ text, token = .text text ∧ ∃ char ∈ text.toList, isOperatorChar char = true

section Lexemes

variable {char : Char} {rest : List Char} {position : Nat}

theorem isOperatorChar_of_isNumberChar (numeric : isNumberChar char = true) :
    isOperatorChar char = false := by
  apply Bool.eq_false_iff.mpr
  intro operator
  simp only [isOperatorChar, Bool.or_eq_true, beq_iff_eq] at operator
  rcases operator with ((rfl | rfl) | rfl) | rfl <;> (revert numeric; decide)

/-- A token that starts with an operator character is a negation or an operator. -/
theorem lexeme_operatorChar (operator : isOperatorChar char = true)
    (valid : ∀ error, (lexeme position char rest).1 ≠ .invalid error) :
    lexeme position char rest = (.not, 0) ∨
      ∃ op : BinaryOp, 3 ≤ op.level ∧ (lexeme position char rest).1 = op.token := by
  simp only [isOperatorChar, Bool.or_eq_true, beq_iff_eq] at operator
  rcases operator with ((rfl | rfl) | rfl) | rfl
  · rw [Expr.lexeme_greater]
    split
    · exact .inr ⟨.ge, by decide, rfl⟩
    · exact .inr ⟨.gt, by decide, rfl⟩
  · rw [Expr.lexeme_less]
    split
    · exact .inr ⟨.le, by decide, rfl⟩
    · exact .inr ⟨.lt, by decide, rfl⟩
  · rw [Expr.lexeme_equals] at valid ⊢
    split
    · exact .inr ⟨.strictEq, by decide, rfl⟩
    · split
      · exact .inr ⟨.eq, by decide, rfl⟩
      · next none one =>
        rw [if_neg none, if_neg one] at valid
        exact absurd rfl (valid _)
  · rw [Expr.lexeme_bang]
    split
    · exact .inr ⟨.strictNe, by decide, rfl⟩
    · split
      · exact .inr ⟨.ne, by decide, rfl⟩
      · exact .inl rfl

/-- A token of more than one sign is an operator. -/
theorem lexeme_signs (sign : char ∈ Expr.signs)
    (valid : ∀ error, (lexeme position char rest).1 ≠ .invalid error)
    (more : (lexeme position char rest).2 ≠ 0) :
    ∃ op : BinaryOp, 3 ≤ op.level ∧ (lexeme position char rest).1 = op.token := by
  by_cases operator : isOperatorChar char = true
  · rcases lexeme_operatorChar operator valid with negation | found
    · rw [negation] at more
      exact absurd rfl more
    · exact found
  · simp only [Expr.signs, List.mem_cons, List.not_mem_nil, or_false] at sign
    rcases sign with rfl | rfl | rfl | rfl | rfl | rfl | rfl | rfl | rfl | rfl | rfl | rfl | rfl |
      rfl | rfl
    iterate 9 exact absurd rfl more
    iterate 4 exact absurd rfl operator
    · obtain ⟨tail, rfl⟩ := Expr.exists_of_lexeme_double (.inl rfl) valid
      exact ⟨.and, by decide, rfl⟩
    · obtain ⟨tail, rfl⟩ := Expr.exists_of_lexeme_double (.inr rfl) valid
      exact ⟨.or, by decide, rfl⟩

/-- Behind its first character a token without a sign holds no operator character, unless it is a
text in quotes, which ends with its quote. -/
theorem plainLexeme_inner (valid : ∀ error, (plainLexeme position char rest).1 ≠ .invalid error) :
    (∃ body inner, (plainLexeme position char rest).1 = .text (String.ofList body) ∧
        rest.take (plainLexeme position char rest).2 = inner ++ [char] ∧
        isOperatorChar char = false ∧ ∀ next ∈ inner, next ∈ body ∨ next ∈ ['\\', 'n', 't']) ∨
      ∀ next ∈ rest.take (plainLexeme position char rest).2, isOperatorChar next = false := by
  unfold plainLexeme at valid ⊢
  by_cases quote : char = '\'' ∨ char = '"'
  · simp only [if_pos quote] at valid ⊢
    cases found : Expr.stringBody? char rest with
    | none =>
        rw [found] at valid
        exact absurd rfl (valid (.unterminatedString position))
    | some read =>
        obtain ⟨inner, spelled, own⟩ := Expr.stringBody?_spelling found
        have noOperator : isOperatorChar char = false := by
          rcases quote with rfl | rfl <;> decide
        exact .inl ⟨read.1, inner, rfl, spelled, noOperator, own⟩
  · simp only [if_neg quote] at valid ⊢
    right
    by_cases digit : char.isDigit = true
    · simp only [if_pos digit] at valid ⊢
      by_cases leading : Expr.hasLeadingZero (char :: rest) = true
      · simp only [if_pos leading] at valid
        exact absurd rfl (valid (.leadingZero position))
      · simp only [if_neg leading]
        intro next member
        exact isOperatorChar_of_isNumberChar (isNumberChar_numberTail char rest next member)
    · simp only [if_neg digit] at valid ⊢
      by_cases start : Expr.isNameStart char = true
      · simp only [if_pos start]
        intro next member
        rw [← List.prefix_iff_eq_take.mp (List.takeWhile_prefix Expr.isNameChar)] at member
        exact isOperatorChar_of_isNameChar (List.mem_takeWhile_imp member)
      · simp only [if_neg start] at valid
        exact absurd rfl (valid (.unexpectedChar char position))

/-- A token with an operator character behind its first character is an operator or a text with that
character. -/
theorem lexeme_inner (valid : ∀ error, (lexeme position char rest).1 ≠ .invalid error)
    {next : Char} (member : next ∈ rest.take (lexeme position char rest).2)
    (operator : isOperatorChar next = true) : HoldsOperator (lexeme position char rest).1 := by
  by_cases sign : char ∈ Expr.signs
  · left
    apply lexeme_signs sign valid
    intro none
    rw [none] at member
    cases member
  · rw [Expr.lexeme_eq_plainLexeme position sign] at valid member ⊢
    rcases plainLexeme_inner valid with ⟨body, inner, isText, spelled, noOperator, own⟩ | noOperator
    · right
      refine ⟨String.ofList body, isText, next, ?_, operator⟩
      rw [spelled, List.mem_append, List.mem_singleton] at member
      rcases member with inInner | rfl
      · rw [String.toList_ofList]
        refine (own next inInner).resolve_right fun escape => ?_
        simp only [List.mem_cons, List.not_mem_nil, or_false] at escape
        rcases escape with rfl | rfl | rfl <;> cases operator
      · rw [noOperator] at operator
        cases operator
    · rw [noOperator next member] at operator
      cases operator

/-- A token that ends with an operator character behind its first character is an operator. -/
theorem lexeme_inner_last (valid : ∀ error, (lexeme position char rest).1 ≠ .invalid error)
    {last : Char} (isLast : (rest.take (lexeme position char rest).2).getLast? = some last)
    (operator : isOperatorChar last = true) :
    ∃ op : BinaryOp, (lexeme position char rest).1 = op.token := by
  by_cases sign : char ∈ Expr.signs
  · have more : (lexeme position char rest).2 ≠ 0 := by
      intro none
      rw [none] at isLast
      cases isLast
    obtain ⟨op, _, isOp⟩ := lexeme_signs sign valid more
    exact ⟨op, isOp⟩
  · rw [Expr.lexeme_eq_plainLexeme position sign] at valid isLast
    rcases plainLexeme_inner valid with ⟨_, inner, _, spelled, noOperator, _⟩ | noOperator
    · rw [spelled, List.getLast?_concat] at isLast
      rw [← Option.some.inj isLast, noOperator] at operator
      cases operator
    · rw [noOperator last (List.mem_of_getLast? isLast)] at operator
      cases operator

end Lexemes

/-! ## Operator characters in texts -/

section Spellings

variable {token : Token} {all : List Token} {spelling chars : List Char} {char : Char}

theorem holdsOperator_of_mem_inner (spelled : IsSpelling token (char :: spelling))
    (valid : ∀ error, token ≠ .invalid error) {next : Char} (member : next ∈ spelling)
    (operator : isOperatorChar next = true) : HoldsOperator token := by
  obtain ⟨position, first, rest, _, rfl, written⟩ := spelled
  obtain ⟨rfl, rfl⟩ := List.cons.inj written
  exact lexeme_inner valid member operator

theorem holdsOperator_of_mem (spelled : IsSpelling token spelling)
    (valid : ∀ error, token ≠ .invalid error) (member : char ∈ spelling)
    (operator : isOperatorChar char = true) : token = .not ∨ HoldsOperator token := by
  have shape := spelled
  obtain ⟨position, first, rest, _, rfl, rfl⟩ := shape
  rcases List.mem_cons.mp member with rfl | inInner
  · rcases lexeme_operatorChar operator valid with negation | found
    · exact .inl (congrArg Prod.fst negation)
    · exact .inr (.inl found)
  · exact .inr (holdsOperator_of_mem_inner spelled valid inInner operator)

/-- A spelling that ends with an operator character is that of a negation or an operator. -/
theorem operator_of_last (spelled : IsSpelling token spelling)
    (valid : ∀ error, token ≠ .invalid error) (isLast : spelling.getLast? = some char)
    (operator : isOperatorChar char = true) :
    token = .not ∨ ∃ op : BinaryOp, token = op.token := by
  obtain ⟨position, first, rest, _, rfl, rfl⟩ := spelled
  cases inner : (rest.take (lexeme position first rest).2).getLast? with
  | none =>
      rw [List.getLast?_eq_none_iff.mp inner] at isLast
      obtain rfl := Option.some.inj isLast
      rcases lexeme_operatorChar operator valid with negation | ⟨op, _, isOp⟩
      · exact .inl (congrArg Prod.fst negation)
      · exact .inr ⟨op, isOp⟩
  | some last =>
      rw [List.getLast?_cons, inner] at isLast
      obtain rfl := Option.some.inj isLast
      exact .inr (lexeme_inner_last valid inner operator)

/-- An operator character in a text belongs to one of its tokens. -/
theorem exists_token_of_mem (spells : Spells all chars) (valid : Valid all) (member : char ∈ chars)
    (operator : isOperatorChar char = true) :
    ∃ token ∈ all, token = .not ∨ HoldsOperator token := by
  induction spells with
  | nil => cases member
  | @blank all chars space isBlank rest inductionHypothesis =>
      rcases List.mem_cons.mp member with rfl | inRest
      · rw [(isAlpha_of_isOperatorChar operator).2] at isBlank
        cases isBlank
      · exact inductionHypothesis valid inRest
  | @token token all spelling chars spelled rest inductionHypothesis =>
      obtain ⟨tokenValid, restValid⟩ := valid.of_cons
      rcases List.mem_append.mp member with inSpelling | inRest
      · have holdsOperator := holdsOperator_of_mem spelled tokenValid inSpelling operator
        exact ⟨token, List.mem_cons_self, holdsOperator⟩
      · obtain ⟨found, inAll, kind⟩ := inductionHypothesis restValid inRest
        exact ⟨found, List.mem_cons_of_mem token inAll, kind⟩

/-- An operator character behind the first one is that of a negation only if this is not the first
token. -/
theorem exists_token_of_mem_tail {first : Char} (spells : Spells all (first :: chars))
    (shown : Text.isBlank first = false) (valid : Valid all) (member : char ∈ chars)
    (operator : isOperatorChar char = true) :
    .not ∈ all.tail ∨ ∃ token ∈ all, HoldsOperator token := by
  generalize written : first :: chars = text at spells
  cases spells with
  | nil => cases written
  | blank isBlank rest =>
      obtain ⟨rfl, rfl⟩ := List.cons.inj written
      rw [shown] at isBlank
      cases isBlank
  | @token token all spelling others spelled rest =>
      obtain ⟨tokenValid, restValid⟩ := valid.of_cons
      have shape := spelled
      obtain ⟨position, start, inner, _, _, rfl⟩ := shape
      obtain ⟨rfl, rfl⟩ := List.cons.inj written
      rcases List.mem_append.mp member with inInner | inOthers
      · exact .inr ⟨token, List.mem_cons_self,
          holdsOperator_of_mem_inner spelled tokenValid inInner operator⟩
      · obtain ⟨found, inAll, negation | holds⟩ :=
          exists_token_of_mem rest restValid inOthers operator
        · exact .inl (negation ▸ inAll)
        · exact .inr ⟨found, List.mem_cons_of_mem token inAll, holds⟩

/-- The last token of a text that ends with an operator character is a negation or an operator. -/
theorem exists_last_token (spells : Spells all chars) (valid : Valid all)
    (isLast : chars.getLast? = some char) (operator : isOperatorChar char = true) :
    ∃ token, all.getLast? = some token ∧ (token = .not ∨ ∃ op : BinaryOp, token = op.token) := by
  induction spells with
  | nil => cases isLast
  | @blank all chars space isBlank rest inductionHypothesis =>
      cases behind : chars.getLast? with
      | none =>
          rw [List.getLast?_eq_none_iff.mp behind] at isLast
          obtain rfl : space = char := Option.some.inj isLast
          rw [(isAlpha_of_isOperatorChar operator).2] at isBlank
          cases isBlank
      | some last =>
          rw [List.getLast?_cons, behind] at isLast
          exact inductionHypothesis valid (behind.trans isLast)
  | @token token all spelling chars spelled rest inductionHypothesis =>
      obtain ⟨tokenValid, restValid⟩ := valid.of_cons
      rw [List.getLast?_append] at isLast
      cases behind : chars.getLast? with
      | none =>
          rw [behind, Option.none_or] at isLast
          have noTokens : all = [] := rest.eq_nil (List.getLast?_eq_none_iff.mp behind)
          exact ⟨token, by rw [noTokens]; rfl, operator_of_last spelled tokenValid isLast operator⟩
      | some last =>
          rw [behind, Option.some_or] at isLast
          obtain ⟨found, foundLast, kind⟩ := inductionHypothesis restValid (behind.trans isLast)
          exact ⟨found, by rw [List.getLast?_cons, foundLast]; rfl, kind⟩

end Spellings

/-! ## Unlisted texts -/

/-- An expression that is none of the listed shapes: it has no token of a comparison or of logic,
no word that compares stands in it, and it is neither a name nor a query for a property. -/
structure IsUnlisted (text : String) (expr : Expr) : Prop where
  parsed : Expr.parse (Text.trim text) = .ok expr
  uncompared : ∀ op : BinaryOp, 3 ≤ op.level → op.token ∉ Expr.tokens (Text.trim text)
  wordless : ∀ word ∈ wordOperators, ¬ word <:+: Text.trimChars text.toList
  unnamed : ¬ ∀ char ∈ Text.trimChars text.toList, isWordChar char = true
  noQuery : ∀ call : QuotedCall, call.WellFormed → call.chars = Text.trimChars text.toList →
    ¬ (call.path = "file".toList ∧ call.name = "hasProperty".toList)

namespace IsUnlisted

variable {text : String} {expr : Expr}

theorem valid (unlisted : IsUnlisted text expr) : Valid (Expr.tokens (Text.trim text)) := by
  obtain ⟨all, _, ⟨rfl, valid⟩, _⟩ := Expr.derives_of_parse unlisted.parsed
  exact valid

theorem spells (unlisted : IsUnlisted text expr) :
    Spells (Expr.tokens (Text.trim text)) (Text.trimChars text.toList) := by
  have spells := Spells.of_valid unlisted.valid
  rwa [Text.trim, String.toList_ofList] at spells

theorem callShape?_eq_none (unlisted : IsUnlisted text expr) :
    callShape? (Text.trimChars text.toList) = none := by
  cases found : callShape? (Text.trimChars text.toList) with
  | none => rfl
  | some shape =>
      obtain ⟨call, valid, written, shapeEq⟩ := QuotedCall.exists_of_callShape? found
      rw [QuotedCall.shape?, if_neg (unlisted.noQuery call valid written)] at shapeEq
      obtain ⟨test, known, _⟩ := Option.map_eq_some_iff.mp shapeEq
      have inside : call.name <:+: Text.trimChars text.toList := by
        rw [← written]
        exact call.name_isInfix
      exact absurd inside (unlisted.wordless _ (mem_wordOperators_of_ofName? known))

theorem exists_cons (unlisted : IsUnlisted text expr) :
    ∃ first rest, Text.trimChars text.toList = first :: rest ∧ Text.isBlank first = false := by
  obtain ⟨_, _, _, _, _, trimmed⟩ := Text.exists_trimChars text.toList
  cases chars : Text.trimChars text.toList with
  | nil => exact absurd (by simp [chars]) unlisted.unnamed
  | cons first rest => exact ⟨first, rest, rfl, trimmed.head first (by simp [chars])⟩

/-- An expression does not end with an operator. -/
theorem last (unlisted : IsUnlisted text expr) :
    ∀ char ∈ (Text.trimChars text.toList).getLast?, isOperatorChar char = false := by
  intro char isLast
  apply Bool.eq_false_iff.mpr
  intro operator
  obtain ⟨token, lastToken, kind⟩ :=
    exists_last_token unlisted.spells unlisted.valid isLast operator
  obtain ⟨all, _, ⟨lexed, _⟩, phrase, _⟩ := Expr.derives_of_parse unlisted.parsed
  obtain ⟨initial, found, allEq, ends⟩ := phrase.ends
  rw [lexed, allEq, List.getLast?_concat] at lastToken
  obtain rfl := Option.some.inj lastToken
  rcases kind with rfl | ⟨op, rfl⟩
  · cases ends
  · cases op <;> cases ends

/-- Something stands behind every run of operator characters. -/
theorem isRightSide_back (unlisted : IsUnlisted text expr) {front run back : List Char}
    (parts : Text.trimChars text.toList = front ++ (run ++ back)) (someRun : run ≠ [])
    (operators : ∀ char ∈ run, isOperatorChar char = true)
    (line : '\n' ∉ Text.trimChars text.toList) : isRightSide (Text.trimStart back) = true := by
  obtain ⟨_, _, _, _, _, trimmed⟩ := Text.exists_trimChars text.toList
  have someBack : back ≠ [] := by
    rintro rfl
    have isLast := List.getLast?_eq_some_getLast someRun
    have noOperator := unlisted.last (run.getLast someRun) (by simp [parts, isLast])
    rw [operators _ (List.getLast_mem someRun)] at noOperator
    cases noOperator
  have shown : Text.trimStart back ≠ [] := by
    intro gone
    have isLast := List.getLast?_eq_some_getLast someBack
    have blank := List.dropWhile_eq_nil_iff.mp gone _ (List.getLast_mem someBack)
    rw [trimmed.last (back.getLast someBack) (by simp [parts, isLast])] at blank
    cases blank
  have backLine : '\n' ∉ back := by
    intro member
    apply line
    rw [parts]
    exact List.mem_append_right front (List.mem_append_right run member)
  exact @isRightSide_append [] back backLine shown

/-- An operator character behind the first character is that of a negation, or stands in quotes. -/
theorem noMark (unlisted : IsUnlisted text expr)
    (noNegation : .not ∉ (Expr.tokens (Text.trim text)).tail)
    (noText : ∀ body, .text body ∈ Expr.tokens (Text.trim text) →
      ∀ char ∈ body.toList, isOperatorChar char = false) :
    ∀ char ∈ (Text.trimChars text.toList).tail, isOperatorChar char = false := by
  intro char member
  apply Bool.eq_false_iff.mpr
  intro operator
  obtain ⟨first, rest, charsEq, shown⟩ := unlisted.exists_cons
  have spells := unlisted.spells
  rw [charsEq] at spells member
  rcases exists_token_of_mem_tail spells shown unlisted.valid member operator with
    negation | ⟨token, inAll, ⟨op, upper, rfl⟩ | ⟨body, rfl, mark, inBody, isMark⟩⟩
  · exact noNegation negation
  · exact unlisted.uncompared op upper inAll
  · rw [noText body inAll mark inBody] at isMark
    cases isMark

/-- A text that is not split is evaluated as an expression. -/
theorem evaluate_of_unsplit (unlisted : IsUnlisted text expr) (now : Moment) (record : Record)
    (unsplit : hasLogicalOperator (Text.trimChars text.toList) = true ∨
      splitComparison? (Text.trimChars text.toList) = none) :
    evaluate now record text = holdsAsExpression now record (Text.trim text) := by
  have noName : (Text.trimChars text.toList).all isWordChar = false := by
    apply Bool.eq_false_iff.mpr
    intro words
    exact unlisted.unnamed (List.all_eq_true.mp words)
  have shape : Shape.of (Text.trimChars text.toList) = .expression := by
    by_cases logical : hasLogicalOperator (Text.trimChars text.toList) = true
    · simp only [Shape.of, unlisted.callShape?_eq_none, if_pos logical]
    · simp only [Shape.of, unlisted.callShape?_eq_none, if_neg logical,
        unsplit.resolve_left logical, noName, Bool.and_false, Bool.false_eq_true, if_false]
  rw [evaluate, shape]
  rfl

end IsUnlisted

/-- An unlisted expression is evaluated as an expression if no operator character stands behind its
first one, which is to say that only its first token may be a negation and no text in quotes holds
such a character. If one does, on a single line, the predicate compares what stands on both sides of
the first run of them, and does not hold if this run is no operator; only a logical operator, which
can be seen in it where quotes are escaped, makes it an expression nevertheless. -/
theorem evaluate_unlisted (now : Moment) (record : Record) {text : String} {expr : Expr}
    (unlisted : IsUnlisted text expr) :
    ((∀ char ∈ (Text.trimChars text.toList).tail, isOperatorChar char = false) →
      evaluate now record text = holdsAsExpression now record (Text.trim text)) ∧
    (.not ∉ (Expr.tokens (Text.trim text)).tail →
      (∀ body, .text body ∈ Expr.tokens (Text.trim text) →
        ∀ char ∈ body.toList, isOperatorChar char = false) →
      evaluate now record text = holdsAsExpression now record (Text.trim text)) ∧
    (hasLogicalOperator (Text.trimChars text.toList) = true →
      evaluate now record text = holdsAsExpression now record (Text.trim text)) ∧
    (hasLogicalOperator (Text.trimChars text.toList) = false →
      '\n' ∉ Text.trimChars text.toList →
      ∀ mark ∈ (Text.trimChars text.toList).tail, isOperatorChar mark = true →
        ∃ left gap run back, Text.trimChars text.toList = left ++ (gap ++ (run ++ back)) ∧
          left ≠ [] ∧ (∀ char ∈ left.tail, isOperatorChar char = false) ∧
          (∀ char ∈ gap, Text.isBlank char = true) ∧
          run ≠ [] ∧ (∀ char ∈ run, isOperatorChar char = true) ∧
          (∀ char ∈ back.head?, isOperatorChar char = false) ∧
          evaluate now record text =
            (ComparisonOp.ofText? (String.ofList run)).any fun op =>
              compareValues (operand now record (String.ofList left)) op
                (operand now record (String.ofList (Text.trimStart back)))) := by
  have unmarked : (∀ char ∈ (Text.trimChars text.toList).tail, isOperatorChar char = false) →
      evaluate now record text = holdsAsExpression now record (Text.trim text) := fun noMark =>
    unlisted.evaluate_of_unsplit now record
      (.inr (splitComparison?_eq_none unlisted.wordless noMark))
  refine ⟨unmarked, fun noNegation noText => unmarked (unlisted.noMark noNegation noText),
    fun logical => unlisted.evaluate_of_unsplit now record (.inl logical), ?_⟩
  intro noLogical line mark member operator
  obtain ⟨first, rest, charsEq, shown⟩ := unlisted.exists_cons
  rw [charsEq, List.tail_cons] at member
  obtain ⟨left, gap, run, back, restEq, someLeft, leftFree, leftShown, gapBlank, someRun, operators,
    ends⟩ := exists_firstRun shown member operator
  have parts : Text.trimChars text.toList = left ++ (gap ++ (run ++ back)) := charsEq.trans restEq
  have isPrefix : left <+: Text.trimChars text.toList := ⟨_, parts.symm⟩
  have noOperator : hasOperatorInside left = false :=
    hasOperatorInside_of_wordless
      (fun word isWord inLeft => unlisted.wordless word isWord (inLeft.trans isPrefix.isInfix))
      leftFree
  have leftLine : '\n' ∉ left := fun inLeft => line (isPrefix.subset inLeft)
  have right : isRightSide (Text.trimStart back) = true := by
    apply unlisted.isRightSide_back _ someRun operators line
    · exact left ++ gap
    · rw [parts, List.append_assoc]
  have split := splitComparison?_eq someLeft leftLine leftShown noOperator gapBlank someRun
    operators ends right
  rw [← parts] at split
  refine ⟨left, gap, run, back, parts, someLeft, leftFree, gapBlank, someRun, operators, ends, ?_⟩
  rw [evaluate, shape_of_split unlisted.callShape?_eq_none noLogical split]
  cases ComparisonOp.ofText? (String.ofList run) with
  | none => rfl
  | some op => rfl

theorem noQuery_of_callShape? {chars : List Char} (unread : callShape? chars = none)
    (call : QuotedCall) (valid : call.WellFormed) (written : call.chars = chars) :
    ¬ (call.path = "file".toList ∧ call.name = "hasProperty".toList) := by
  intro query
  rw [← written, QuotedCall.callShape?_chars valid, QuotedCall.shape?, if_pos query] at unread
  cases unread

theorem uncompared_of_all {all : List Token}
    (lower : (all.all fun token => (Expr.Parser.binaryOp? token).all fun op => op.level < 3) = true)
    (op : BinaryOp) (upper : 3 ≤ op.level) : op.token ∉ all := by
  intro member
  have level := List.all_eq_true.mp lower op.token member
  rw [Expr.Grammar.binaryOp?_eq_some_iff.mpr rfl, Option.all_some, decide_eq_true_eq] at level
  omega

/-- The tree of `!image.isEmpty()`, in parentheses or not. -/
def hasImage : Expr :=
  .unary .not (.method (.property ["image"]) "isEmpty" [])

theorem isUnlisted_hasImage : IsUnlisted "!image.isEmpty()" hasImage where
  parsed := rfl
  uncompared := uncompared_of_all (by decide +kernel)
  wordless := by decide
  unnamed := mt List.all_eq_true.mpr (by decide)
  noQuery := noQuery_of_callShape? (by decide)

theorem isUnlisted_hasImage_group : IsUnlisted "(!image.isEmpty())" hasImage where
  parsed := rfl
  uncompared := uncompared_of_all (by decide +kernel)
  wordless := by decide
  unnamed := mt List.all_eq_true.mpr (by decide)
  noQuery := noQuery_of_callShape? (by decide)

def pictureNote : Record :=
  OrderedMap.ofList [("image", .text "x"), ("title", .text "a>b")]

/-- The negation is an expression as the first token of its text, and an operator in parentheses. -/
theorem evaluate_unlisted_hasImage :
    evaluate Moment.epoch pictureNote "!image.isEmpty()" =
        holdsAsExpression Moment.epoch pictureNote "!image.isEmpty()" ∧
      ∃ left gap run back, "(!image.isEmpty())".toList = left ++ (gap ++ (run ++ back)) ∧
        run ≠ [] ∧ evaluate Moment.epoch pictureNote "(!image.isEmpty())" =
          (ComparisonOp.ofText? (String.ofList run)).any fun op =>
            compareValues (operand Moment.epoch pictureNote (String.ofList left)) op
              (operand Moment.epoch pictureNote (String.ofList (Text.trimStart back))) := by
  have noMark : ∀ char ∈ (Text.trimChars "!image.isEmpty()".toList).tail,
      isOperatorChar char = false := fun char member =>
    Bool.eq_false_iff.mpr (List.any_eq_false.mp (by decide) char member)
  have alone := (evaluate_unlisted Moment.epoch pictureNote isUnlisted_hasImage).1 noMark
  obtain ⟨left, gap, run, back, parts, _, _, _, someRun, _, _, result⟩ :=
    (evaluate_unlisted Moment.epoch pictureNote isUnlisted_hasImage_group).2.2.2 (by decide)
      (by decide) '!' (by decide) rfl
  exact ⟨alone, left, gap, run, back, parts, someRun, result⟩

/-- The tree of `title.split('>').length`. -/
def titleParts : Expr :=
  .member (.method (.property ["title"]) "split" [.literal (.text ">")]) "length"

/-- The note has an image, and its title has parts, but neither predicate holds: one is split at the
negation, the other one inside the quotes. -/
theorem pictureNote_splitUnlisted :
    (IsUnlisted "(!image.isEmpty())" hasImage ∧
      evaluate Moment.epoch pictureNote "(!image.isEmpty())" = false ∧
      holdsAsExpression Moment.epoch pictureNote "(!image.isEmpty())" = true) ∧
    (IsUnlisted "title.split('>').length" titleParts ∧
      evaluate Moment.epoch pictureNote "title.split('>').length" = false ∧
      holdsAsExpression Moment.epoch pictureNote "title.split('>').length" = true) := by
  have titleUnlisted : IsUnlisted "title.split('>').length" titleParts :=
    { parsed := rfl
      uncompared := uncompared_of_all (by decide +kernel)
      wordless := by decide
      unnamed := mt List.all_eq_true.mpr (by decide)
      noQuery := noQuery_of_callShape? (by decide) }
  exact ⟨⟨isUnlisted_hasImage_group, by decide +kernel⟩, ⟨titleUnlisted, by decide +kernel⟩⟩

end NoteBase.Predicate
