import NoteBase.Predicate.Evaluate
import NoteBase.Proofs.Expr.Comparing
import NoteBase.Proofs.Expr.Spelling
import NoteBase.Proofs.Predicate.Operands

/-!
# Logical operators as tokens

Whether a predicate is joined by logical operators is told from its characters and not from its
tokens. Both agree on every text with valid tokens, whatever it quotes, as long as no text in quotes
ends with a backslash: this one is written as two, and the quote behind them is then taken for an
escaped one. Everything behind the first such text is looked at as if it stood in these quotes.
-/

namespace NoteBase.Predicate

open Calendar (Moment)
open NoteBase.Expr (Token Spells IsSpelling Lexes lexeme plainLexeme stringBody? equalsCount)
open NoteBase.Expr.Grammar (Valid)

/-! ## Tokens and characters that are passed -/

def isLogical : Token → Bool
  | .andAnd => true
  | .orOr => true
  | _ => false

/-- Whether a token is neither a text in quotes nor a logical operator. -/
def isPassedToken : Token → Bool
  | .text _ => false
  | token => !isLogical token

/-- A character that neither opens a text in quotes nor belongs to a logical operator. -/
def IsPassed (char : Char) : Prop :=
  isQuote char = false ∧ char ≠ '&' ∧ char ≠ '|'

instance : DecidablePred IsPassed :=
  fun char => inferInstanceAs (Decidable (isQuote char = false ∧ char ≠ '&' ∧ char ≠ '|'))

theorem IsPlain.isPassed {char : Char} (plain : IsPlain char) : IsPassed char := by
  obtain ⟨_, noQuote, different⟩ := plain
  simp only [List.mem_cons, List.not_mem_nil, or_false, not_or] at different
  exact ⟨noQuote, different.1, different.2.1⟩

theorem isPassed_of_isBlank {char : Char} (blank : Text.isBlank char = true) : IsPassed char := by
  by_contra notPassed
  have marked : char ∈ ['\'', '"', '&', '|'] := by
    simp only [IsPassed, isQuote, Bool.or_eq_false_iff, beq_eq_false_iff_ne] at notPassed
    simp only [List.mem_cons, List.not_mem_nil, or_false]
    tauto
  simp only [List.mem_cons, List.not_mem_nil, or_false] at marked
  rcases marked with rfl | rfl | rfl | rfl <;> (revert blank; decide)

theorem isLogical_of_isPassedToken {token : Token} (passed : isPassedToken token = true) :
    isLogical token = false := by
  cases token <;> first | rfl | cases passed

theorem isPassedToken_nameToken (name : List Char) :
    isPassedToken (Expr.nameToken name) = true := by
  unfold Expr.nameToken
  dsimp only
  split
  · rfl
  · split
    · rfl
    · split <;> rfl

/-! ## Spellings that are passed -/

section Lexemes

variable {char : Char} {rest : List Char} {position : Nat}

theorem mem_take_equalsCount {count : Nat} (within : count ≤ equalsCount rest) :
    ∀ next ∈ rest.take count, next = '=' := by
  intro next member
  have taken : next ∈ rest.takeWhile (· = '=') := by
    have isPrefix := List.takeWhile_prefix (l := rest) (· = '=')
    rw [List.prefix_iff_eq_take.mp isPrefix]
    exact (List.take_prefix_take_left within).subset member
  simpa using List.mem_takeWhile_imp taken

/-- A token that starts with an operator character goes on with equals signs. -/
theorem operatorLexeme_passed (operator : isOperatorChar char = true)
    (valid : ∀ error, (lexeme position char rest).1 ≠ .invalid error) :
    isPassedToken (lexeme position char rest).1 = true ∧
      ∀ next ∈ rest.take (lexeme position char rest).2, next = '=' := by
  simp only [isOperatorChar, Bool.or_eq_true, beq_iff_eq] at operator
  rcases operator with ((rfl | rfl) | rfl) | rfl
  · rw [Expr.lexeme_greater]
    split
    · next one => exact ⟨rfl, mem_take_equalsCount one⟩
    · exact ⟨rfl, mem_take_equalsCount (Nat.zero_le _)⟩
  · rw [Expr.lexeme_less]
    split
    · next one => exact ⟨rfl, mem_take_equalsCount one⟩
    · exact ⟨rfl, mem_take_equalsCount (Nat.zero_le _)⟩
  · rw [Expr.lexeme_equals] at valid ⊢
    split
    · next two => exact ⟨rfl, mem_take_equalsCount two⟩
    · split
      · next one => exact ⟨rfl, mem_take_equalsCount one⟩
      · next none one =>
        rw [if_neg none, if_neg one] at valid
        exact absurd rfl (valid _)
  · rw [Expr.lexeme_bang]
    split
    · next two => exact ⟨rfl, mem_take_equalsCount two⟩
    · split
      · next one => exact ⟨rfl, mem_take_equalsCount one⟩
      · exact ⟨rfl, mem_take_equalsCount (Nat.zero_le _)⟩

theorem plainLexeme_passed (noQuote : isQuote char = false)
    (valid : ∀ error, (plainLexeme position char rest).1 ≠ .invalid error) :
    isPassedToken (plainLexeme position char rest).1 = true ∧
      ∀ next ∈ rest.take (plainLexeme position char rest).2, IsPassed next := by
  have unquoted : ¬ (char = '\'' ∨ char = '"') := by
    simpa [isQuote] using noQuote
  unfold plainLexeme at valid ⊢
  simp only [if_neg unquoted] at valid ⊢
  by_cases digit : char.isDigit = true
  · simp only [if_pos digit] at valid ⊢
    by_cases leading : Expr.hasLeadingZero (char :: rest) = true
    · simp only [if_pos leading] at valid
      exact absurd rfl (valid (.leadingZero position))
    · simp only [if_neg leading]
      refine ⟨rfl, fun next member => ?_⟩
      exact (isPlain_of_isNumberChar (isNumberChar_numberTail char rest next member)).isPassed
  · simp only [if_neg digit] at valid ⊢
    by_cases start : Expr.isNameStart char = true
    · simp only [if_pos start]
      refine ⟨isPassedToken_nameToken _, fun next member => ?_⟩
      rw [← List.prefix_iff_eq_take.mp (List.takeWhile_prefix Expr.isNameChar)] at member
      exact (isPlain_of_isNameChar (List.mem_takeWhile_imp member)).isPassed
    · simp only [if_neg start] at valid
      exact absurd rfl (valid (.unexpectedChar char position))

/-- A token that starts with neither a quote nor a logical operator is no such token, and nothing in
its spelling looks like one. -/
theorem lexeme_passed (passed : IsPassed char)
    (valid : ∀ error, (lexeme position char rest).1 ≠ .invalid error) :
    isPassedToken (lexeme position char rest).1 = true ∧
      ∀ next ∈ rest.take (lexeme position char rest).2, IsPassed next := by
  by_cases operator : isOperatorChar char = true
  · obtain ⟨kind, equals⟩ := operatorLexeme_passed operator valid
    refine ⟨kind, fun next member => ?_⟩
    rw [equals next member]
    decide
  · by_cases sign : char ∈ Expr.signs
    · have unmarked : char ∉ Expr.marks := by
        obtain ⟨noQuote, noAnd, noOr⟩ := passed
        simp only [isOperatorChar, isQuote, Bool.or_eq_true, Bool.or_eq_false_iff, beq_iff_eq,
          beq_eq_false_iff_ne] at operator noQuote
        simp only [Expr.marks, List.mem_cons, List.not_mem_nil, or_false]
        tauto
      obtain ⟨token, lower, lexed⟩ := Expr.exists_lowerToken unmarked sign
      have kinds : ∀ token ∈ Expr.lowerTokens, isPassedToken token = true := by decide
      rw [lexed]
      exact ⟨kinds token lower, fun next member => absurd member List.not_mem_nil⟩
    · rw [Expr.lexeme_eq_plainLexeme position sign] at valid ⊢
      exact plainLexeme_passed passed.1 valid

end Lexemes

/-! ## Spellings -/

/-- How a valid token is spelled, as far as quotes and logical operators go. -/
inductive Meets : Token → List Char → Prop
  | quoted {quote : Char} {chars body : List Char} {taken : Nat} (marked : isQuote quote = true)
      (found : stringBody? quote chars = some (body, taken)) :
      Meets (.text (String.ofList body)) (quote :: chars.take taken)
  | doubled {token : Token} {mark : Char} (double : mark = '&' ∨ mark = '|')
      (logical : isLogical token = true) : Meets token [mark, mark]
  | passed {token : Token} {spelling : List Char} (isPassed : isPassedToken token = true)
      (all : ∀ char ∈ spelling, IsPassed char) : Meets token spelling

theorem meets_of_isSpelling {token : Token} {spelling : List Char}
    (spelled : IsSpelling token spelling) (valid : ∀ error, token ≠ .invalid error) :
    Meets token spelling := by
  obtain ⟨position, first, rest, _, rfl, rfl⟩ := spelled
  by_cases quoted : isQuote first = true
  · have mark : first = '\'' ∨ first = '"' := by
      simpa [isQuote] using quoted
    have noSign : first ∉ Expr.signs := by
      rcases mark with rfl | rfl <;> decide
    rw [Expr.lexeme_eq_plainLexeme position noSign] at valid ⊢
    unfold plainLexeme at valid ⊢
    simp only [if_pos mark] at valid ⊢
    cases found : stringBody? first rest with
    | none =>
        rw [found] at valid
        exact absurd rfl (valid (.unterminatedString position))
    | some read => exact .quoted quoted found
  · by_cases double : first = '&' ∨ first = '|'
    · obtain ⟨tail, rfl⟩ := Expr.exists_of_lexeme_double double valid
      rcases double with rfl | rfl
      · exact .doubled (.inl rfl) rfl
      · exact .doubled (.inr rfl) rfl
    · have passed : IsPassed first := by
        simpa [IsPassed, quoted] using double
      obtain ⟨kind, others⟩ := lexeme_passed passed valid
      exact .passed kind (List.forall_mem_cons.mpr ⟨passed, others⟩)

/-! ## The search for operators -/

theorem unescape_eq_backslash_iff (char : Char) : Expr.unescape char = '\\' ↔ char = '\\' := by
  unfold Expr.unescape
  split
  · next isN => simp [isN]
  · split
    · next isT => simp [isT]
    · rfl

/-- Inside of quotes the search goes on behind an escaped character, which is then the one
before. -/
theorem hasLogicalFrom_escaped {quote : Char} (marked : isQuote quote = true)
    (previous escaped : Char)
    (rest : List Char) :
    hasLogicalFrom (some quote) (some previous) ('\\' :: escaped :: rest) =
      hasLogicalFrom (some quote) (some escaped) rest := by
  have noBackslash : '\\' ≠ quote := by
    rintro rfl
    cases marked
  simp [hasLogicalFrom, noBackslash]

/-- Behind a text in quotes the search is outside of quotes, unless the text ends with a backslash.
The character before the first one counts as well, since an escape may have ended with it. -/
theorem hasLogicalFrom_stringBody? {quote : Char} (marked : isQuote quote = true)
    {chars body : List Char} {taken : Nat} (found : stringBody? quote chars = some (body, taken))
    (previous : Char) (rest : List Char) :
    hasLogicalFrom (some quote) (some previous) (chars.take taken ++ rest) =
      hasLogicalFrom (if (previous :: body).getLast? = some '\\' then some quote else none)
        (some quote) rest := by
  fun_induction stringBody? quote chars generalizing body taken previous with
  | case1 => cases found
  | case2 => cases found
  | case3 escaped others inductionHypothesis =>
      obtain ⟨⟨inner, count⟩, innerFound, same⟩ := Option.map_eq_some_iff.mp found
      obtain ⟨rfl, rfl⟩ := Prod.mk.inj same
      have sameLast : (previous :: Expr.unescape escaped :: inner).getLast? = some '\\' ↔
          (escaped :: inner).getLast? = some '\\' := by
        cases inner with
        | nil => simp [unescape_eq_backslash_iff]
        | cons next inner => simp
      rw [List.take_succ_cons, List.take_succ_cons, List.cons_append, List.cons_append,
        hasLogicalFrom_escaped marked, inductionHypothesis innerFound escaped]
      simp only [sameLast]
  | case4 others plain =>
      obtain ⟨rfl, rfl⟩ := Prod.mk.inj (Option.some.inj found)
      by_cases backslash : previous = '\\' <;> simp [hasLogicalFrom, backslash]
  | case5 char others plain different inductionHypothesis =>
      obtain ⟨⟨inner, count⟩, innerFound, same⟩ := Option.map_eq_some_iff.mp found
      obtain ⟨rfl, rfl⟩ := Prod.mk.inj same
      have step : hasLogicalFrom (some quote) (some previous)
          (char :: (others.take count ++ rest)) =
          hasLogicalFrom (some quote) (some char) (others.take count ++ rest) := by
        simp [hasLogicalFrom, different]
      rw [List.take_succ_cons, List.cons_append, step, inductionHypothesis innerFound char,
        List.getLast?_cons_cons]

theorem hasLogicalFrom_doubled {mark : Char} (double : mark = '&' ∨ mark = '|')
    (previous : Option Char) (rest : List Char) :
    hasLogicalFrom none previous (mark :: mark :: rest) = true := by
  by_cases before : previous = some mark
  · rcases double with rfl | rfl <;> simp [hasLogicalFrom, isQuote, before]
  · rcases double with rfl | rfl <;> simp [hasLogicalFrom, isQuote, before]

/-- Whether a token is a text in quotes whose last character is a backslash. -/
def endsInBackslash : Token → Bool
  | .text body => body.toList.getLast? = some '\\'
  | _ => false

/-- Outside of quotes the search finds a logical operator, and passes every other token that does
not end in a backslash. -/
theorem Meets.found {token : Token} {spelling : List Char} (meets : Meets token spelling)
    (closed : endsInBackslash token = false) (previous : Option Char) (rest : List Char) :
    ∃ last, hasLogicalFrom none previous (spelling ++ rest) =
      (isLogical token || hasLogicalFrom none last rest) := by
  cases meets with
  | @quoted quote chars body taken marked read =>
      have ends : (quote :: body).getLast? ≠ some '\\' := by
        intro backslash
        cases body with
        | nil =>
            obtain rfl : quote = '\\' := Option.some.inj backslash
            cases marked
        | cons char inner =>
            rw [endsInBackslash, String.toList_ofList] at closed
            exact of_decide_eq_false closed backslash
      refine ⟨some quote, ?_⟩
      rw [List.cons_append, hasLogicalFrom, if_pos marked, hasLogicalFrom_stringBody? marked read,
        if_neg ends]
      rfl
  | doubled double logical =>
      refine ⟨none, ?_⟩
      rw [logical, Bool.true_or]
      exact hasLogicalFrom_doubled double previous rest
  | passed isPassed all =>
      simp only [isLogical_of_isPassedToken isPassed, Bool.false_or]
      exact hasLogicalFrom_unquoted all previous rest

/-- Behind a text that ends with a backslash the search goes on inside of its quotes. -/
theorem Meets.missed {body : String} {spelling : List Char} (meets : Meets (.text body) spelling)
    (backslash : endsInBackslash (.text body) = true) :
    ∃ quote inner, isQuote quote = true ∧ spelling = quote :: (inner ++ [quote]) ∧
      ∀ previous rest, hasLogicalFrom none previous (spelling ++ rest) =
        hasLogicalFrom (some quote) (some quote) rest := by
  generalize isText : Token.text body = token at meets
  cases meets with
  | @quoted quote chars contents taken marked read =>
      obtain rfl := Token.text.inj isText
      rw [endsInBackslash, String.toList_ofList, decide_eq_true_eq] at backslash
      obtain ⟨inner, written, _⟩ := Expr.stringBody?_spelling read
      have ends : (quote :: contents).getLast? = some '\\' := by
        rw [List.getLast?_cons, backslash]
        rfl
      refine ⟨quote, inner, marked, by rw [written], fun previous rest => ?_⟩
      rw [List.cons_append, hasLogicalFrom, if_pos marked, hasLogicalFrom_stringBody? marked read,
        if_pos ends]
  | doubled _ logical =>
      rw [← isText] at logical
      cases logical
  | passed isPassed _ =>
      rw [← isText] at isPassed
      cases isPassed

/-! ## All tokens of a text -/

/-- A part of a text, in whose tokens no text ends with a backslash, is searched token by token. -/
theorem hasLogicalFrom_spells {all : List Token} {chars : List Char} (spells : Spells all chars)
    (valid : Valid all) (closed : ∀ token ∈ all, endsInBackslash token = false)
    (previous : Option Char) (rest : List Char) :
    ∃ last, hasLogicalFrom none previous (chars ++ rest) =
      (all.any isLogical || hasLogicalFrom none last rest) := by
  induction spells generalizing previous with
  | nil =>
      exact ⟨previous, rfl⟩
  | @blank all chars char isBlank spells inductionHypothesis =>
      obtain ⟨behind, passes⟩ := hasLogicalFrom_unquoted
        (List.forall_mem_singleton.mpr (isPassed_of_isBlank isBlank)) previous (chars ++ rest)
      obtain ⟨last, found⟩ := inductionHypothesis valid closed behind
      exact ⟨last, passes.trans found⟩
  | @token token all spelling chars spelled spells inductionHypothesis =>
      obtain ⟨tokenValid, restValid⟩ := valid.of_cons
      obtain ⟨tokenClosed, restClosed⟩ := List.forall_mem_cons.mp closed
      obtain ⟨behind, step⟩ := (meets_of_isSpelling spelled tokenValid).found tokenClosed previous
        (chars ++ rest)
      obtain ⟨last, found⟩ := inductionHypothesis restValid restClosed behind
      exact ⟨last, by rw [List.append_assoc, step, found, List.any_cons, Bool.or_assoc]⟩

theorem any_isLogical_iff (all : List Token) :
    all.any isLogical = true ↔ .andAnd ∈ all ∨ .orOr ∈ all := by
  rw [List.any_eq_true]
  constructor
  · rintro ⟨token, member, logical⟩
    cases token <;> first | exact .inl member | exact .inr member | cases logical
  · rintro (member | member)
    · exact ⟨.andAnd, member, rfl⟩
    · exact ⟨.orOr, member, rfl⟩

/-- The search for logical operators agrees with the tokens of a text, if no text in quotes ends
with a backslash. Otherwise it agrees with them up to the first such text, and looks at what stands
behind as if it were in the quotes of this text. -/
theorem hasLogicalOperator_tokens {text : String} {all : List Token} (lexes : Lexes text all) :
    ((∀ token ∈ all, endsInBackslash token = false) →
      (hasLogicalOperator text.toList = true ↔ .andAnd ∈ all ∨ .orOr ∈ all)) ∧
    ∀ before body after, all = before ++ .text body :: after →
      (∀ token ∈ before, endsInBackslash token = false) → endsInBackslash (.text body) = true →
        ∃ front quote inner back, text.toList = front ++ (quote :: (inner ++ [quote]) ++ back) ∧
          isQuote quote = true ∧ Spells before front ∧
          IsSpelling (.text body) (quote :: (inner ++ [quote])) ∧ Spells after back ∧
          (hasLogicalOperator text.toList = true ↔
            .andAnd ∈ before ∨ .orOr ∈ before ∨
              hasLogicalFrom (some quote) (some quote) back = true) := by
  obtain ⟨rfl, valid⟩ := lexes
  have spells := Spells.of_valid valid
  refine ⟨fun closed => ?_, fun before body after split closed backslash => ?_⟩
  · obtain ⟨last, found⟩ := hasLogicalFrom_spells spells valid closed none []
    rw [List.append_nil] at found
    rw [hasLogicalOperator, found, hasLogicalFrom, Bool.or_false, any_isLogical_iff]
  · rw [split] at spells valid
    obtain ⟨start, rest, startEq, startSpells, restSpells⟩ := spells.of_append
    obtain ⟨blanks, spelling, back, rfl, blank, spelled, backSpells⟩ := restSpells.of_cons
    have frontSpells := startSpells.append_blanks blank
    have beforeValid : Valid before :=
      fun error member => valid error (List.mem_append_left _ member)
    have bodyValid : ∀ error, Token.text body ≠ .invalid error := by
      intro error same
      cases same
    obtain ⟨quote, inner, marked, rfl, opens⟩ :=
      (meets_of_isSpelling spelled bodyValid).missed backslash
    have written : text.toList = start ++ blanks ++ (quote :: (inner ++ [quote]) ++ back) := by
      rw [startEq, List.append_assoc]
    obtain ⟨last, found⟩ := hasLogicalFrom_spells frontSpells beforeValid closed none
      (quote :: (inner ++ [quote]) ++ back)
    refine ⟨start ++ blanks, quote, inner, back, written, marked, frontSpells, spelled,
      backSpells, ?_⟩
    rw [hasLogicalOperator, written, found, opens, Bool.or_eq_true, any_isLogical_iff, or_assoc]

theorem valid_of_all {all : List Token}
    (none : (all.all fun token => match token with | .invalid _ => false | _ => true) = true) :
    Valid all := by
  intro error member
  cases List.all_eq_true.mp none _ member

/-- `name == 'it\'s' || name`, in which the text in quotes holds the quote itself. -/
def escapedQuote : String := "name == 'it\\'s' || name"

/-- `title == 'a\\' && rating == 3`, in which the text in quotes is `a\`. -/
def escapedBackslash : String := "title == 'a\\\\' && rating == 3"

theorem lexes_escapedQuote :
    Lexes escapedQuote [.ident "name", .eq, .text "it's", .orOr, .ident "name"] :=
  ⟨by decide +kernel, valid_of_all rfl⟩

theorem lexes_escapedBackslash :
    Lexes escapedBackslash
      [.ident "title", .eq, .text "a\\", .andAnd, .ident "rating", .eq, .number 3] :=
  ⟨by decide +kernel, valid_of_all rfl⟩

/-- The operator behind the first text is seen, and what stands behind the second text is taken for
a part of it. -/
theorem hasLogicalOperator_tokens_escaped :
    (Lexes escapedQuote [.ident "name", .eq, .text "it's", .orOr, .ident "name"] ∧
      hasLogicalOperator escapedQuote.toList = true) ∧
    (Lexes escapedBackslash
        [.ident "title", .eq, .text "a\\", .andAnd, .ident "rating", .eq, .number 3] ∧
      ∃ front quote inner back,
        escapedBackslash.toList = front ++ (quote :: (inner ++ [quote]) ++ back) ∧
          isQuote quote = true ∧
          (hasLogicalOperator escapedBackslash.toList = true ↔
            hasLogicalFrom (some quote) (some quote) back = true)) := by
  have seen := ((hasLogicalOperator_tokens lexes_escapedQuote).1 (by decide)).mpr (.inr (by decide))
  obtain ⟨front, quote, inner, back, written, marked, _, _, _, found⟩ :=
    (hasLogicalOperator_tokens lexes_escapedBackslash).2 [.ident "title", .eq] "a\\" _ rfl
      (by decide) (by decide)
  refine ⟨⟨lexes_escapedQuote, seen⟩, lexes_escapedBackslash, front, quote, inner, back, written,
    marked, ?_⟩
  have none : .andAnd ∉ [Token.ident "title", .eq] ∧ .orOr ∉ [Token.ident "title", .eq] := by
    decide
  simpa [none] using found

def backslashNote : Record :=
  OrderedMap.ofList [("title", .text "a\\"), ("rating", .number 3)]

/-- The operator behind a text that ends with a backslash is not seen, so that the predicate does
not hold of a note of which the expression holds; and behind such a text an operator is seen that
stands in quotes. -/
theorem escapedBackslash_hidesOperator :
    (Lexes escapedBackslash
        [.ident "title", .eq, .text "a\\", .andAnd, .ident "rating", .eq, .number 3] ∧
      hasLogicalOperator escapedBackslash.toList = false ∧
      evaluate Moment.epoch backslashNote escapedBackslash = false ∧
      holdsAsExpression Moment.epoch backslashNote escapedBackslash = true) ∧
    (Lexes "'a\\\\' + '&&'" [.text "a\\", .plus, .text "&&"] ∧
      hasLogicalOperator "'a\\\\' + '&&'".toList = true) := by
  refine ⟨⟨lexes_escapedBackslash, ?_⟩, ⟨by decide +kernel, valid_of_all rfl⟩, ?_⟩
  · decide +kernel
  · decide +kernel

end NoteBase.Predicate
