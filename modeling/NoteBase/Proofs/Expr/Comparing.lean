import NoteBase.Proofs.Expr.Printing

/-!
# Comparisons of two expressions

A text without quotes and without the characters of comparisons and logical operators has none of
these operators among its tokens. Two such texts with a comparison operator between them are the
comparison of the two expressions, and blanks around a text do not change its tokens.
-/

namespace NoteBase.Expr

open NoteBase.Expr.Grammar (Valid Chain)
open NoteBase.Expr.Parser (topLevel)

/-! ## Texts of the lower levels -/

/-- The characters of comparisons, logical operators and quotes. -/
def marks : List Char :=
  ['=', '!', '<', '>', '&', '|', '\'', '"']

/-- A text without these characters. -/
def Unmarked (chars : List Char) : Prop :=
  ∀ char ∈ chars, char ∉ marks

theorem Unmarked.of_cons {char : Char} {rest : List Char} (unmarked : Unmarked (char :: rest)) :
    char ∉ marks ∧ Unmarked rest :=
  ⟨unmarked char List.mem_cons_self, fun next member =>
    unmarked next (List.mem_cons_of_mem _ member)⟩

theorem Unmarked.of_subset {front chars : List Char} (unmarked : Unmarked chars)
    (subset : front ⊆ chars) : Unmarked front :=
  fun char member => unmarked char (subset member)

theorem Unmarked.noEquals {chars : List Char} (unmarked : Unmarked chars) :
    chars.head? ≠ some '=' :=
  fun head => unmarked '=' (List.mem_of_head? head) (by decide)

section Lexemes

variable {char : Char} {rest back : List Char}

/-- The tokens of signs that are no marks. -/
def lowerTokens : List Token :=
  [.leftParen, .rightParen, .comma, .dot, .plus, .minus, .star, .slash, .percent]

theorem exists_lowerToken (unmarked : char ∉ marks) (sign : char ∈ signs) :
    ∃ token ∈ lowerTokens, ∀ position rest, lexeme position char rest = (token, 0) := by
  simp only [signs, marks, List.mem_cons, List.not_mem_nil, or_false, not_or] at sign unmarked
  rcases sign with rfl | rfl | rfl | rfl | rfl | rfl | rfl | rfl | rfl | rfl | rfl | rfl | rfl |
    rfl | rfl
  iterate 9 exact ⟨_, by decide, fun _ _ => rfl⟩
  all_goals exact absurd unmarked (by decide)

theorem startsPrimary_nameToken (name : List Char) :
    Grammar.startsPrimary (nameToken name) = true := by
  unfold nameToken
  dsimp only
  split
  · rfl
  · split
    · rfl
    · split <;> rfl

/-- A token without a sign is the start of an operand, or no token at all. -/
theorem plainLexeme_kind (position : Nat) (char : Char) (rest : List Char) :
    Grammar.startsPrimary (plainLexeme position char rest).1 = true ∨
      ∃ error, (plainLexeme position char rest).1 = .invalid error := by
  unfold plainLexeme
  split
  · split
    · exact .inl rfl
    · exact .inr ⟨_, rfl⟩
  · split
    · split
      · exact .inr ⟨_, rfl⟩
      · exact .inl rfl
    · split
      · exact .inl (startsPrimary_nameToken _)
      · exact .inr ⟨_, rfl⟩

/-- What a token without a sign and without quotes has to be valid. -/
theorem plainLexeme_valid_iff (noQuote : ¬ (char = '\'' ∨ char = '"')) (position : Nat)
    (rest : List Char) :
    (∀ error, (plainLexeme position char rest).1 ≠ .invalid error) ↔
      if char.isDigit then hasLeadingZero (char :: rest) = false
      else isNameStart char = true := by
  unfold plainLexeme
  simp only [if_neg noQuote]
  split
  · cases hasLeadingZero (char :: rest) with
    | true => simp
    | false => simpa using nofun
  · by_cases start : isNameStart char = true
    · have valid : ∀ error, nameToken (char :: rest.takeWhile isNameChar) ≠ .invalid error := by
        intro error same
        have primary := startsPrimary_nameToken (char :: rest.takeWhile isNameChar)
        rw [same] at primary
        cases primary
      simpa [start] using valid
    · simp [start]

/-- A token that starts without a mark is no operator of a comparison or of logic. -/
theorem lexeme_ne_token (unmarked : char ∉ marks) {op : BinaryOp} (upper : 3 ≤ op.level)
    (position : Nat) (rest : List Char) : (lexeme position char rest).1 ≠ op.token := by
  intro same
  by_cases sign : char ∈ signs
  · obtain ⟨token, lower, lexed⟩ := exists_lowerToken unmarked sign
    rw [lexed] at same
    subst same
    revert upper lower
    cases op <;> decide
  · rw [lexeme_eq_plainLexeme position sign] at same
    rcases plainLexeme_kind position char rest with primary | ⟨error, invalid⟩
    · rw [same] at primary
      cases op <;> cases primary
    · exact op.token_ne_invalid error (same.symm.trans invalid)

/-- A token is valid if it is in front of blanks, because none of them belongs to it. -/
theorem lexeme_valid_of_append (unmarked : char ∉ marks) (separates : Separates (char :: rest) back)
    {start : Nat} (valid : ∀ error, (lexeme start char (rest ++ back)).1 ≠ .invalid error)
    (position : Nat) : ∀ error, (lexeme position char rest).1 ≠ .invalid error := by
  by_cases sign : char ∈ signs
  · obtain ⟨token, _, lexed⟩ := exists_lowerToken unmarked sign
    rw [lexed] at valid ⊢
    exact valid
  · have noQuote : ¬ (char = '\'' ∨ char = '"') := by
      rintro (rfl | rfl) <;> exact unmarked (by decide)
    rw [lexeme_eq_plainLexeme start sign, plainLexeme_valid_iff noQuote, ← List.cons_append,
      hasLeadingZero_append separates] at valid
    rw [lexeme_eq_plainLexeme position sign, plainLexeme_valid_iff noQuote]
    exact valid

end Lexemes

/-! ## Tokens -/

section Tokens

variable {front back : List Char} {all : List Token}

theorem token_not_mem_tokensFrom (unmarked : Unmarked front) {op : BinaryOp}
    (upper : 3 ≤ op.level) (position skip : Nat) : op.token ∉ tokensFrom position skip front := by
  induction front generalizing position skip with
  | nil =>
      cases skip <;> exact List.not_mem_nil
  | cons char rest inductionHypothesis =>
      obtain ⟨charUnmarked, restUnmarked⟩ := unmarked.of_cons
      cases skip with
      | succ skip => exact inductionHypothesis restUnmarked _ _
      | zero =>
          cases blank : Text.isBlank char with
          | true =>
              rw [tokensFrom_cons_of_isBlank blank]
              exact inductionHypothesis restUnmarked _ _
          | false =>
              rw [tokensFrom_cons blank, List.mem_cons, not_or]
              exact ⟨(lexeme_ne_token charUnmarked upper position rest).symm,
                inductionHypothesis restUnmarked _ _⟩

/-- No token of an unmarked text goes on in the blanks behind it, be it valid or not. -/
theorem valid_of_append (unmarked : Unmarked front)
    (blank : ∀ char ∈ back, Text.isBlank char = true) {start skip : Nat}
    (fits : skip ≤ front.length) (valid : Valid (tokensFrom start skip (front ++ back)))
    (position : Nat) : Valid (tokensFrom position skip front) := by
  induction front generalizing start skip position with
  | nil =>
      cases skip <;> exact Grammar.valid_nil
  | cons char rest inductionHypothesis =>
      obtain ⟨charUnmarked, restUnmarked⟩ := unmarked.of_cons
      cases skip with
      | succ skip =>
          exact inductionHypothesis restUnmarked (Nat.le_of_succ_le_succ fits) valid _
      | zero =>
          cases shown : Text.isBlank char with
          | true =>
              rw [List.cons_append, tokensFrom_cons_of_isBlank shown] at valid
              rw [tokensFrom_cons_of_isBlank shown]
              exact inductionHypothesis restUnmarked (Nat.zero_le _) valid _
          | false =>
              have separates := separates_blanks blank (char :: rest)
              rw [List.cons_append, tokensFrom_cons shown] at valid
              obtain ⟨tokenValid, restValid⟩ := valid.of_cons
              have alone := lexeme_valid_of_append charUnmarked separates tokenValid position
              obtain ⟨same, taken⟩ := lexeme_append separates alone start
              rw [same] at restValid
              rw [tokensFrom_cons shown]
              exact Grammar.valid_cons alone (inductionHypothesis restUnmarked taken restValid _)

theorem Lexes.of_blanks_append (blank : ∀ char ∈ front, Text.isBlank char = true)
    (lexes : Lexes (String.ofList (front ++ back)) all) : Lexes (String.ofList back) all := by
  obtain ⟨rfl, valid⟩ := lexes
  simp only [Lexes, tokens, String.toList_ofList, tokensFrom_blanks blank] at valid ⊢
  exact ⟨tokensFrom_start valid 0, valid⟩

theorem Lexes.of_append_blanks (unmarked : Unmarked front)
    (blank : ∀ char ∈ back, Text.isBlank char = true)
    (lexes : Lexes (String.ofList (front ++ back)) all) : Lexes (String.ofList front) all := by
  obtain ⟨rfl, valid⟩ := lexes
  simp only [Lexes, tokens, String.toList_ofList] at valid ⊢
  have frontValid := valid_of_append unmarked blank (Nat.zero_le _) valid 0
  have noTokens : tokensFrom (0 + front.length) 0 back = [] := by
    have blanks := tokensFrom_blanks blank (0 + front.length) []
    rwa [List.append_nil] at blanks
  have joined := tokensFrom_append (Nat.zero_le _) (separates_blanks blank front) frontValid 0
  rw [noTokens, List.append_nil] at joined
  exact ⟨joined.symm, joined ▸ frontValid⟩

/-- The operators of comparisons. -/
def IsComparison (op : BinaryOp) : Prop :=
  op.level = 3 ∨ op.level = 4

theorem tokensFrom_comparison {op : BinaryOp} (comparison : IsComparison op)
    (noEquals : back.head? ≠ some '=') (start : Nat) :
    tokensFrom start 0 (op.chars ++ back) =
      op.token :: tokensFrom (start + op.chars.length) 0 back := by
  have count : equalsCount back = 0 := by
    cases back with
    | nil => rfl
    | cons char rest => exact equalsCount_cons_of_ne (fun same => noEquals (by simp [same])) rest
  have blanks : Text.isBlank '=' = false ∧ Text.isBlank '!' = false ∧
      Text.isBlank '<' = false ∧ Text.isBlank '>' = false := by decide
  cases op
  case lt | le | gt | ge | eq | ne | strictEq | strictNe =>
    simp [BinaryOp.chars, BinaryOp.token, tokensFrom, tokensFrom_cons, blanks, lexeme_less,
      lexeme_greater, lexeme_equals, lexeme_bang, equalsCount_cons, count]
  all_goals
    rcases comparison with level | level <;> cases level

theorem separates_comparison {op : BinaryOp} (comparison : IsComparison op)
    (unmarked : Unmarked front) (back : List Char) : Separates front (op.chars ++ back) := by
  obtain ⟨first, rest, chars, mark⟩ : ∃ first rest, op.chars = first :: rest ∧
      first ∈ ['=', '!', '<', '>'] := by
    cases op
    case lt | le | gt | ge | eq | ne | strictEq | strictNe => exact ⟨_, _, rfl, by decide⟩
    all_goals
      rcases comparison with level | level <;> cases level
  rw [chars]
  simp only [List.mem_cons, List.not_mem_nil, or_false] at mark
  refine ⟨?_, ?_, ?_⟩
  · intro char head
    obtain rfl := Option.some.inj head
    rcases mark with rfl | rfl | rfl | rfl <;> exact ⟨by decide, by decide, by decide⟩
  · intro char others same
    obtain rfl := (List.cons.inj same).1
    rcases mark with point | point | point | point <;> cases point
  · intro _ char last member
    refine unmarked char (List.mem_of_getLast? last) ?_
    simp only [marks, List.mem_cons, List.not_mem_nil, or_false] at member ⊢
    rcases member with rfl | rfl | rfl | rfl <;> simp

/-- The tokens of a comparison are those of its sides with the operator between them. -/
theorem Lexes.comparison {op : BinaryOp} (comparison : IsComparison op)
    {others : List Token} (unmarked : Unmarked front) (noEquals : back.head? ≠ some '=')
    (lexes : Lexes (String.ofList front) all) (backLexes : Lexes (String.ofList back) others) :
    Lexes (String.ofList (front ++ (op.chars ++ back))) (all ++ op.token :: others) := by
  obtain ⟨rfl, valid⟩ := lexes
  obtain ⟨rfl, backValid⟩ := backLexes
  refine ⟨?_, valid.append (Grammar.valid_cons op.token_ne_invalid backValid)⟩
  simp only [tokens, String.toList_ofList] at valid backValid ⊢
  rw [tokensFrom_append (Nat.zero_le _) (separates_comparison comparison unmarked back) valid 0,
    tokensFrom_comparison comparison noEquals, tokensFrom_start backValid]

end Tokens

/-! ## Trees -/

/-- A phrase without operators of comparisons and of logic is a sum. -/
theorem chain_sum :
    ∀ {level : Nat} {all : List Token} {expr : Expr} {depth : Nat}, Chain level all expr depth →
      (∀ op : BinaryOp, 3 ≤ op.level → op.token ∉ all) → 2 ≤ level → Chain 2 all expr depth
  | _, _, _, _, .unary _, _, high => absurd high (by decide)
  | level + 1, _, _, _, .lift inner, lower, high => by
      by_cases sum : level = 1
      · subst sum
        exact .lift inner
      · exact chain_sum inner lower (by omega)
  | level + 1, _, _, _, .operator op levelEq left right, lower, high => by
      by_cases sum : level = 1
      · subst sum
        exact .operator op levelEq left right
      · refine absurd ?_ (lower op (by omega))
        exact List.mem_append_right _ List.mem_cons_self

theorem sum_of_lexes {chars : List Char} {all : List Token} {expr : Expr} {depth : Nat}
    (unmarked : Unmarked chars) (lexes : Lexes (String.ofList chars) all)
    (phrase : Grammar.Expression all expr depth) : Phrase 3 all expr depth := by
  refine chain_sum phrase (fun op upper => ?_) (by decide)
  obtain ⟨rfl, _⟩ := lexes
  rw [tokens, String.toList_ofList]
  exact token_not_mem_tokensFrom unmarked upper 0 0

/-- Two sums with a comparison operator between them are parsed to the comparison of their trees,
unless that is too complex. -/
theorem parse_comparison {op : BinaryOp} (comparison : IsComparison op)
    {left right : List Char} {leftExpr rightExpr : Expr}
    (leftUnmarked : Unmarked left) (rightUnmarked : Unmarked right)
    (leftParsed : parse (String.ofList left) = .ok leftExpr)
    (rightParsed : parse (String.ofList right) = .ok rightExpr) :
    parse (String.ofList (left ++ (op.chars ++ right))) = .ok (.binary op leftExpr rightExpr) ∨
      parse (String.ofList (left ++ (op.chars ++ right))) = .error .tooComplex := by
  obtain ⟨leftTokens, leftDepth, leftLexes, leftPhrase, _⟩ := derives_of_parse leftParsed
  obtain ⟨rightTokens, rightDepth, rightLexes, rightPhrase, _⟩ := derives_of_parse rightParsed
  have lexes := Lexes.comparison comparison leftUnmarked rightUnmarked.noEquals leftLexes rightLexes
  have leftSum := sum_of_lexes leftUnmarked leftLexes leftPhrase
  have rightSum := sum_of_lexes rightUnmarked rightLexes rightPhrase
  obtain ⟨level, levelEq, above, below⟩ :
      ∃ level, op.level = level + 1 ∧ 2 ≤ level ∧ level < 4 := by
    rcases comparison with relation | equality
    · exact ⟨2, relation, by decide, by decide⟩
    · exact ⟨3, equality, by decide, by decide⟩
  have leftChain : Phrase (level + 2) leftTokens leftExpr leftDepth := leftSum.lift (by omega)
  have rightChain : Phrase (level + 1) rightTokens rightExpr rightDepth := rightSum.lift (by omega)
  have chain : Phrase (level + 2) (leftTokens ++ op.token :: rightTokens)
      (.binary op leftExpr rightExpr) (max leftDepth rightDepth) :=
    Chain.operator op levelEq leftChain rightChain
  have phrase : Grammar.Expression (leftTokens ++ op.token :: rightTokens)
      (.binary op leftExpr rightExpr) (max leftDepth rightDepth) :=
    chain.lift (show level + 2 ≤ topLevel + 1 by unfold topLevel; omega)
  by_cases within : WithinLimits (.binary op leftExpr rightExpr) (max leftDepth rightDepth)
  · exact .inl (lexes.parse_of_withinLimits phrase within)
  · exact .inr (lexes.parse_of_not_withinLimits phrase within)

theorem Lexes.parse_eq {text other : String} {all : List Token} (lexes : Lexes text all)
    (otherLexes : Lexes other all) : parse text = parse other := by
  rw [parse, parse, lexes.1, otherLexes.1]

/-- Blanks around the sides do not change how a comparison is parsed. -/
theorem parse_comparison_blanks {op : BinaryOp} (comparison : IsComparison op)
    {before left gap space right behind : List Char} {leftExpr rightExpr : Expr}
    (beforeBlank : ∀ char ∈ before, Text.isBlank char = true)
    (behindBlank : ∀ char ∈ behind, Text.isBlank char = true)
    (leftUnmarked : Unmarked (before ++ (left ++ gap)))
    (rightUnmarked : Unmarked (space ++ right ++ behind))
    (leftParsed : parse (String.ofList (before ++ (left ++ gap))) = .ok leftExpr)
    (rightParsed : parse (String.ofList (space ++ right ++ behind)) = .ok rightExpr) :
    parse (String.ofList (before ++ (left ++ gap) ++ (op.chars ++ (space ++ right ++ behind)))) =
      parse (String.ofList (left ++ gap ++ (op.chars ++ (space ++ right)))) := by
  obtain ⟨leftTokens, _, leftLexes, _⟩ := derives_of_parse leftParsed
  obtain ⟨rightTokens, _, rightLexes, _⟩ := derives_of_parse rightParsed
  have leftInner : Unmarked (left ++ gap) := leftUnmarked.of_subset (by simp)
  have rightInner : Unmarked (space ++ right) := rightUnmarked.of_subset (by simp)
  have whole := Lexes.comparison comparison leftUnmarked rightUnmarked.noEquals leftLexes rightLexes
  have inner := Lexes.comparison comparison leftInner rightInner.noEquals
    (leftLexes.of_blanks_append beforeBlank) (rightLexes.of_append_blanks rightInner behindBlank)
  exact whole.parse_eq inner

/-- Blanks around an unmarked text do not change how it is parsed. -/
theorem parse_blanks {before inner behind : List Char} {expr : Expr}
    (beforeBlank : ∀ char ∈ before, Text.isBlank char = true)
    (behindBlank : ∀ char ∈ behind, Text.isBlank char = true)
    (unmarked : Unmarked (before ++ (inner ++ behind)))
    (parsed : parse (String.ofList (before ++ (inner ++ behind))) = .ok expr) :
    parse (String.ofList inner) = .ok expr := by
  obtain ⟨all, _, lexes, _⟩ := derives_of_parse parsed
  have innerUnmarked : Unmarked inner := unmarked.of_subset (by simp)
  have innerLexes := (lexes.of_blanks_append beforeBlank).of_append_blanks innerUnmarked behindBlank
  rw [← parsed]
  exact innerLexes.parse_eq lexes

end NoteBase.Expr
