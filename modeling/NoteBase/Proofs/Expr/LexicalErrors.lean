import NoteBase.Proofs.Expr.Parse
import NoteBase.Proofs.Expr.ParserErrors
import NoteBase.Proofs.Expr.Truncation

/-!
# Where a lexical error points

A lexical error points at the character at fault, which stands behind whole tokens: the text in
front of it has tokens of its own, and they are the ones that have been read. Reading goes on from
one token to the next with every step, so that it comes to the end of the text or to an error.
-/

namespace NoteBase.Expr

open NoteBase.Expr.Grammar (Valid)

/-! ## What is at fault -/

namespace LexicalError

def position : LexicalError → Nat
  | unexpectedChar _ position => position
  | unterminatedString start => start
  | leadingZero start => start

end LexicalError

/-- Whether a character behind these is escaped: it is if the one in front of it is a backslash that
is not escaped itself. -/
def escapesNext (chars : List Char) : Bool :=
  chars.foldl (fun escaped char => !escaped && char == '\\') false

/-- What is wrong with a text from the position of an error on. -/
def LexicalError.IsFaultOf : LexicalError → List Char → Prop
  | .unexpectedChar char _, chars => chars.head? = some char
  | .unterminatedString _, chars =>
    ∃ quote body, chars = quote :: body ∧ (quote = '\'' ∨ quote = '"') ∧
      ∀ front back, body = front ++ quote :: back → escapesNext front = true
  | .leadingZero _, chars => ∃ digit rest, chars = '0' :: digit :: rest ∧ digit.isDigit = true

/-- In a text that is not closed, each quote of its kind is escaped. -/
theorem escapesNext_of_stringBody? {quote : Char} (noBackslash : quote ≠ '\\') {body : List Char}
    (unclosed : stringBody? quote body = none) {front back : List Char}
    (split : body = front ++ quote :: back) : escapesNext front = true := by
  fun_induction stringBody? quote body generalizing front with
  | case1 =>
      simp at split
  | case2 =>
      obtain ⟨same, _⟩ | ⟨before, _, ended⟩ := List.cons_eq_append_iff.mp split
      · simp_all
      · simp at ended
  | case3 escaped rest inductionHypothesis =>
      have unclosedRest := Option.map_eq_none_iff.mp unclosed
      rcases front with _ | ⟨first, _ | ⟨second, front⟩⟩
      · exact absurd (List.cons.inj split).1.symm noBackslash
      · obtain ⟨rfl, _⟩ := List.cons.inj split
        rfl
      · obtain ⟨rfl, inner⟩ := List.cons.inj split
        obtain ⟨rfl, innerSplit⟩ := List.cons.inj inner
        have inner : escapesNext front = true := inductionHypothesis unclosedRest innerSplit
        exact inner
  | case4 rest plain =>
      cases unclosed
  | case5 char rest plain different inductionHypothesis =>
      have unclosedRest := Option.map_eq_none_iff.mp unclosed
      rcases front with _ | ⟨first, front⟩
      · exact absurd (List.cons.inj split).1 different
      · obtain ⟨rfl, innerSplit⟩ := List.cons.inj split
        have inner := inductionHypothesis unclosedRest innerSplit
        have noEscape : (char == '\\') = false := beq_false_of_ne plain
        simpa [escapesNext, noEscape] using inner

/-! ## One token -/

section Tokens

variable {position : Nat} {char : Char} {rest : List Char} {error : LexicalError}

theorem nameToken_ne_invalid (name : List Char) : nameToken name ≠ .invalid error := by
  unfold nameToken
  dsimp only
  split
  · exact nofun
  · split
    · exact nofun
    · split
      · exact nofun
      · exact nofun

theorem exists_of_hasLeadingZero (digit : char.isDigit = true)
    (leading : hasLeadingZero (char :: rest) = true) :
    ∃ second others, char :: rest = '0' :: second :: others ∧ second.isDigit = true := by
  unfold hasLeadingZero at leading
  rw [List.takeWhile_cons_of_pos digit] at leading
  cases rest with
  | nil => simp at leading
  | cons second others =>
      by_cases secondDigit : second.isDigit = true
      · rw [List.takeWhile_cons_of_pos secondDigit] at leading
        by_cases zero : char = '0'
        · exact ⟨second, others, by rw [zero], secondDigit⟩
        · simp [zero] at leading
      · rw [List.takeWhile_cons_of_neg secondDigit] at leading
        simp at leading

/-- An invalid token keeps its position and what is wrong there, and takes the rest of the text. -/
def IsFaulty (position : Nat) (chars : List Char) (error : LexicalError) (taken : Nat) : Prop :=
  error.position = position ∧ error.IsFaultOf chars ∧ taken = chars.length - 1

theorem plainLexeme_isFaulty (fault : (plainLexeme position char rest).1 = .invalid error) :
    IsFaulty position (char :: rest) error (plainLexeme position char rest).2 := by
  unfold plainLexeme at fault ⊢
  by_cases quote : char = '\'' ∨ char = '"'
  · simp only [if_pos quote] at fault ⊢
    have noBackslash : char ≠ '\\' := by
      rcases quote with rfl | rfl <;> decide
    cases found : stringBody? char rest with
    | some read =>
        rw [found] at fault
        cases fault
    | none =>
        rw [found] at fault
        cases fault
        exact ⟨rfl,
          ⟨char, rest, rfl, quote, fun _ _ => escapesNext_of_stringBody? noBackslash found⟩,
          rfl⟩
  · simp only [if_neg quote] at fault ⊢
    by_cases digit : char.isDigit = true
    · simp only [if_pos digit] at fault ⊢
      by_cases leading : hasLeadingZero (char :: rest) = true
      · rw [if_pos leading] at fault ⊢
        cases fault
        exact ⟨rfl, exists_of_hasLeadingZero digit leading, rfl⟩
      · rw [if_neg leading] at fault
        cases fault
    · simp only [if_neg digit] at fault ⊢
      by_cases start : isNameStart char = true
      · rw [if_pos start] at fault
        exact absurd fault (nameToken_ne_invalid _)
      · rw [if_neg start] at fault ⊢
        cases fault
        exact ⟨rfl, rfl, rfl⟩

/-- `&` and `|` are at fault if they are not doubled. -/
theorem doubleLexeme_isFaulty (double : char = '&' ∨ char = '|')
    (fault : (lexeme position char rest).1 = .invalid error) :
    IsFaulty position (char :: rest) error (lexeme position char rest).2 := by
  have single : rest.head? ≠ some char := by
    intro doubled
    obtain ⟨tail, rfl⟩ := List.head?_eq_some_iff.mp doubled
    rcases double with rfl | rfl <;> cases fault
  have noName : isNameStart '&' = false ∧ isNameStart '|' = false := by decide
  have unexpected : lexeme position char rest =
      (.invalid (.unexpectedChar char position), rest.length) := by
    cases rest with
    | nil => rcases double with rfl | rfl <;> rfl
    | cons first others =>
        have different : first ≠ char := fun same => single (congrArg some same)
        rcases double with rfl | rfl <;> simp [lexeme, different, noName]
  rw [unexpected] at fault ⊢
  cases fault
  exact ⟨rfl, rfl, rfl⟩

theorem signLexeme_isFaulty (sign : char ∈ signs)
    (fault : (lexeme position char rest).1 = .invalid error) :
    IsFaulty position (char :: rest) error (lexeme position char rest).2 := by
  simp only [signs, List.mem_cons, List.not_mem_nil, or_false] at sign
  rcases sign with rfl | rfl | rfl | rfl | rfl | rfl | rfl | rfl | rfl | rfl | rfl | rfl | rfl |
    rfl | rfl
  iterate 9 cases fault
  · rw [lexeme_equals] at fault ⊢
    split at fault
    · cases fault
    · next notTwo =>
      split at fault
      · cases fault
      · next notOne =>
        rw [if_neg notTwo, if_neg notOne]
        cases fault
        exact ⟨rfl, rfl, rfl⟩
  · rw [lexeme_bang] at fault
    split at fault
    · cases fault
    · split at fault <;> cases fault
  · rw [lexeme_less] at fault
    split at fault <;> cases fault
  · rw [lexeme_greater] at fault
    split at fault <;> cases fault
  · exact doubleLexeme_isFaulty (.inl rfl) fault
  · exact doubleLexeme_isFaulty (.inr rfl) fault

theorem lexeme_isFaulty (fault : (lexeme position char rest).1 = .invalid error) :
    IsFaulty position (char :: rest) error (lexeme position char rest).2 := by
  by_cases sign : char ∈ signs
  · exact signLexeme_isFaulty sign fault
  · rw [lexeme_eq_plainLexeme position sign] at fault ⊢
    exact plainLexeme_isFaulty fault

end Tokens

/-! ## All tokens -/

/-- An error stands behind this many characters of a text. If the text is cut off there, it has the
tokens in front of the error. -/
structure IsFoundAt (position skip : Nat) (chars : List Char) (error : LexicalError)
    (count : Nat) : Prop where
  inside : count < chars.length
  skipped : skip ≤ count
  position_eq : error.position = position + count
  fault : error.IsFaultOf (chars.drop count)
  valid : Valid (tokensFrom position skip (chars.take count))
  tokens_eq : tokensFrom position skip chars =
    tokensFrom position skip (chars.take count) ++ [.invalid error]

section Found

variable {position skip count : Nat} {char : Char} {rest : List Char} {error : LexicalError}

theorem isFoundAt_of_lexeme (noBlank : Text.isBlank char = false)
    (fault : (lexeme position char rest).1 = .invalid error) :
    IsFoundAt position 0 (char :: rest) error 0 := by
  obtain ⟨positionEq, isFault, taken⟩ := lexeme_isFaulty fault
  refine ⟨Nat.zero_lt_succ _, le_refl 0, positionEq, isFault, Grammar.valid_nil, ?_⟩
  have none : tokensFrom (position + 1) rest.length rest = [] := by
    rw [tokensFrom_skip, List.drop_length, tokensFrom]
  rw [tokensFrom_cons noBlank, fault, taken]
  exact congrArg _ none

theorem IsFoundAt.of_skipped (found : IsFoundAt (position + 1) skip rest error count) :
    IsFoundAt position (skip + 1) (char :: rest) error (count + 1) :=
  ⟨Nat.succ_lt_succ found.inside, Nat.succ_le_succ found.skipped,
    found.position_eq.trans (Nat.add_right_comm _ _ _), found.fault, found.valid, found.tokens_eq⟩

theorem IsFoundAt.of_blank (blank : Text.isBlank char = true)
    (found : IsFoundAt (position + 1) 0 rest error count) :
    IsFoundAt position 0 (char :: rest) error (count + 1) := by
  refine ⟨Nat.succ_lt_succ found.inside, Nat.zero_le _,
    found.position_eq.trans (Nat.add_right_comm _ _ _), found.fault, ?_, ?_⟩
  · rw [List.take_succ_cons, tokensFrom_cons_of_isBlank blank]
    exact found.valid
  · rw [List.take_succ_cons, tokensFrom_cons_of_isBlank blank, tokensFrom_cons_of_isBlank blank]
    exact found.tokens_eq

/-- The token in front of an error is the same one if the text is cut off at the error, since it has
been read without what stands behind it. -/
theorem IsFoundAt.of_token (noBlank : Text.isBlank char = false)
    (valid : ∀ error, (lexeme position char rest).1 ≠ .invalid error)
    (found : IsFoundAt (position + 1) (lexeme position char rest).2 rest error count) :
    IsFoundAt position 0 (char :: rest) error (count + 1) := by
  have cut := lexeme_take valid found.skipped
  refine ⟨Nat.succ_lt_succ found.inside, Nat.zero_le _,
    found.position_eq.trans (Nat.add_right_comm _ _ _), found.fault, ?_, ?_⟩
  · rw [List.take_succ_cons, tokensFrom_cons noBlank, cut]
    exact Grammar.valid_cons valid found.valid
  · rw [List.take_succ_cons, tokensFrom_cons noBlank, tokensFrom_cons noBlank, cut,
      found.tokens_eq]
    rfl

/-- Wherever a text has an invalid token, the token is its last one. The induction goes through the
characters; those of a token that has been read are passed one by one. -/
theorem exists_isFoundAt {chars : List Char}
    (member : .invalid error ∈ tokensFrom position skip chars) :
    ∃ count, IsFoundAt position skip chars error count := by
  induction chars generalizing position skip with
  | nil =>
      cases skip <;> cases member
  | cons char rest inductionHypothesis =>
      cases skip with
      | succ skip =>
          obtain ⟨count, found⟩ := inductionHypothesis member
          exact ⟨count + 1, found.of_skipped⟩
      | zero =>
          cases blank : Text.isBlank char with
          | true =>
              rw [tokensFrom_cons_of_isBlank blank] at member
              obtain ⟨count, found⟩ := inductionHypothesis member
              exact ⟨count + 1, found.of_blank blank⟩
          | false =>
              by_cases fault : ∃ other, (lexeme position char rest).1 = .invalid other
              · obtain ⟨other, fault⟩ := fault
                have first := isFoundAt_of_lexeme blank fault
                rw [first.tokens_eq] at member
                obtain rfl : error = other := by simpa [tokensFrom] using member
                exact ⟨0, first⟩
              · have valid : ∀ other, (lexeme position char rest).1 ≠ .invalid other :=
                  fun other same => fault ⟨other, same⟩
                rw [tokensFrom_cons blank, List.mem_cons] at member
                obtain ⟨count, found⟩ :=
                  inductionHypothesis (member.resolve_left (valid error).symm)
                exact ⟨count + 1, found.of_token blank valid⟩

end Found

/-! ## Token by token -/

/-- What is read behind a position: the end of the text, an error, or a token and the position
behind it. -/
inductive Reading
  | finish
  | fault (error : LexicalError)
  | token (token : Token) (behind : Nat)

/-- Reads the token at the front of a text that starts with no blank. -/
def readToken (position : Nat) : List Char → Reading
  | [] => .finish
  | char :: rest =>
    match lexeme position char rest with
    | (.invalid error, _) => .fault error
    | (token, taken) => .token token (position + taken + 1)

/-- Reads the token that comes next behind a position, and the blanks in front of it. -/
def nextToken (chars : List Char) (position : Nat) : Reading :=
  let ahead := chars.drop position
  readToken (position + (ahead.takeWhile Text.isBlank).length) (ahead.dropWhile Text.isBlank)

/-- Reading from one token to the next comes to the end of the text or to an error, with these
tokens on its way. -/
inductive ReadsAll (chars : List Char) : Nat → List Token → Prop
  | finish {position : Nat} (ended : nextToken chars position = .finish) :
      ReadsAll chars position []
  | fault {position : Nat} {error : LexicalError}
      (failed : nextToken chars position = .fault error) :
      ReadsAll chars position [.invalid error]
  | token {position behind : Nat} {token : Token} {others : List Token}
      (read : nextToken chars position = .token token behind)
      (rest : ReadsAll chars behind others) : ReadsAll chars position (token :: others)

theorem readToken_eq_token {position : Nat} {char : Char} {rest : List Char}
    (valid : ∀ error, (lexeme position char rest).1 ≠ .invalid error) :
    readToken position (char :: rest) =
      .token (lexeme position char rest).1 (position + (lexeme position char rest).2 + 1) := by
  rw [readToken]
  split
  next error taken read => exact absurd (congrArg Prod.fst read) (valid error)
  next token taken _ read => rw [read]

/-- What is read at a position, and the tokens of the text from there on. -/
inductive Proceeds (chars : List Char) (position : Nat) : Reading → Prop
  | finish (none : tokensFrom position 0 (chars.drop position) = []) :
      Proceeds chars position .finish
  | fault {error : LexicalError}
      (last : tokensFrom position 0 (chars.drop position) = [.invalid error]) :
      Proceeds chars position (.fault error)
  | token {token : Token} {behind : Nat} (forward : position < behind)
      (inside : behind ≤ chars.length)
      (first : tokensFrom position 0 (chars.drop position) =
        token :: tokensFrom behind 0 (chars.drop behind)) :
      Proceeds chars position (.token token behind)

section Proceeding

variable {chars : List Char} {position : Nat}

theorem proceeds_readToken
    (shown : ∀ char ∈ (chars.drop position).head?, Text.isBlank char = false) :
    Proceeds chars position (readToken position (chars.drop position)) := by
  cases ahead : chars.drop position with
  | nil =>
      exact .finish (by rw [ahead, tokensFrom])
  | cons char rest =>
      have noBlank : Text.isBlank char = false := shown char (by rw [ahead]; rfl)
      by_cases fault : ∃ error, (lexeme position char rest).1 = .invalid error
      · obtain ⟨error, fault⟩ := fault
        have found := isFoundAt_of_lexeme noBlank fault
        have read : readToken position (char :: rest) = .fault error := by
          rw [readToken, show lexeme position char rest =
            (.invalid error, (lexeme position char rest).2) from Prod.ext fault rfl]
        rw [read]
        exact .fault (by rw [ahead, found.tokens_eq]; rfl)
      · have valid : ∀ error, (lexeme position char rest).1 ≠ .invalid error :=
          fun error same => fault ⟨error, same⟩
        have taken := (lexeme_append (separates_nil _) valid position).2
        have left : (chars.drop position).length = rest.length + 1 := by
          rw [ahead, List.length_cons]
        rw [List.length_drop] at left
        have behind : chars.drop (position + (lexeme position char rest).2 + 1) =
            rest.drop (lexeme position char rest).2 := by
          rw [Nat.add_assoc, ← List.drop_drop, ahead, List.drop_succ_cons]
        rw [readToken_eq_token valid]
        refine .token (by omega) (by omega) ?_
        rw [ahead, tokensFrom_cons noBlank, tokensFrom_skip, behind, Nat.add_right_comm]

/-- Blanks in front of a token are passed. -/
theorem Proceeds.of_blanks {blanks : List Char} {reading : Reading}
    (blank : ∀ char ∈ blanks, Text.isBlank char = true)
    (ahead : chars.drop position = blanks ++ chars.drop (position + blanks.length))
    (proceeds : Proceeds chars (position + blanks.length) reading) :
    Proceeds chars position reading := by
  have passed := tokensFrom_blanks blank position (chars.drop (position + blanks.length))
  rw [← ahead] at passed
  cases proceeds with
  | finish none => exact .finish (passed.trans none)
  | fault last => exact .fault (passed.trans last)
  | token forward inside first => exact .token (by omega) inside (passed.trans first)

theorem proceeds_nextToken (chars : List Char) (position : Nat) :
    Proceeds chars position (nextToken chars position) := by
  have parts := List.takeWhile_append_dropWhile (p := Text.isBlank) (l := chars.drop position)
  have behind : chars.drop (position + ((chars.drop position).takeWhile Text.isBlank).length) =
      (chars.drop position).dropWhile Text.isBlank := by
    have dropped := @List.drop_left Char ((chars.drop position).takeWhile Text.isBlank)
      ((chars.drop position).dropWhile Text.isBlank)
    rwa [parts, List.drop_drop] at dropped
  have shown : ∀ char ∈ ((chars.drop position).dropWhile Text.isBlank).head?,
      Text.isBlank char = false := by
    intro char head
    have noBlank := List.head?_dropWhile_not Text.isBlank (chars.drop position)
    rw [Option.mem_def.mp head] at noBlank
    exact noBlank
  have blank : ∀ char ∈ (chars.drop position).takeWhile Text.isBlank,
      Text.isBlank char = true :=
    fun _ member => List.mem_takeWhile_imp member
  have read := @proceeds_readToken chars
    (position + ((chars.drop position).takeWhile Text.isBlank).length)
  rw [behind] at read
  exact (read shown).of_blanks blank (by rw [behind, parts])

/-- Reading ends, since every token is nearer to the end of the text than the one before. -/
theorem readsAll_tokensFrom (chars : List Char) (position : Nat) :
    ReadsAll chars position (tokensFrom position 0 (chars.drop position)) := by
  induction left : chars.length - position using Nat.strong_induction_on generalizing position with
  | _ left inductionHypothesis =>
      have proceeds := proceeds_nextToken chars position
      generalize read : nextToken chars position = reading at proceeds
      cases proceeds with
      | finish none =>
          rw [none]
          exact .finish read
      | fault last =>
          rw [last]
          exact .fault read
      | @token token behind forward inside first =>
          rw [first]
          exact .token read (inductionHypothesis _ (by omega) behind rfl)

end Proceeding

/-! ## Errors of texts -/

/-- An error is inside of its text and at a character at fault. The text in front of it has whole
tokens, which are those that have been read. -/
structure PointsAtFault (text : String) (error : LexicalError) : Prop where
  inside : error.position < text.length
  fault : error.IsFaultOf (text.toList.drop error.position)
  boundary : ∃ before, tokens text = before ++ [.invalid error] ∧
    Lexes (String.ofList (text.toList.take error.position)) before

theorem pointsAtFault_of_mem {text : String} {error : LexicalError}
    (member : .invalid error ∈ tokens text) : PointsAtFault text error := by
  obtain ⟨count, found⟩ := exists_isFoundAt member
  obtain rfl : error.position = count := by simpa using found.position_eq
  refine ⟨String.length_toList ▸ found.inside, found.fault, _, found.tokens_eq, ?_, found.valid⟩
  rw [tokens, String.toList_ofList]

/-- A lexical error points at the character at fault behind whole tokens. Each token is read from a
place behind the one before, and reading comes to the end of the text or to an error. -/
theorem parse_lexicalError (text : String) :
    (∀ error, parse text = .error (.lexical error) → PointsAtFault text error) ∧
    (∀ position token behind, nextToken text.toList position = .token token behind →
      position < behind ∧ behind ≤ text.length) ∧
    ReadsAll text.toList 0 (tokens text) := by
  refine ⟨fun error failed => pointsAtFault_of_mem (invalid_mem_of_ofTokens failed), ?_, ?_⟩
  · intro position token behind read
    have proceeds := proceeds_nextToken text.toList position
    rw [read] at proceeds
    cases proceeds with
    | token forward inside _ => exact ⟨forward, String.length_toList ▸ inside⟩
  · exact readsAll_tokensFrom text.toList 0

/-- An operator that cannot go on, a text that is not closed, and a number with a leading zero. -/
theorem parse_lexicalError_three :
    (parse "a ==== 1" = .error (.lexical (.unexpectedChar '=' 5)) ∧
      PointsAtFault "a ==== 1" (.unexpectedChar '=' 5)) ∧
    (parse "a + 'it\\'s" = .error (.lexical (.unterminatedString 4)) ∧
      PointsAtFault "a + 'it\\'s" (.unterminatedString 4)) ∧
    (parse "1 - 007" = .error (.lexical (.leadingZero 4)) ∧
      PointsAtFault "1 - 007" (.leadingZero 4)) := by
  have operator : parse "a ==== 1" = .error (.lexical (.unexpectedChar '=' 5)) := by
    rfl
  have unclosed : parse "a + 'it\\'s" = .error (.lexical (.unterminatedString 4)) := by
    rfl
  have zeros : parse "1 - 007" = .error (.lexical (.leadingZero 4)) := by
    rfl
  exact ⟨⟨operator, (parse_lexicalError _).1 _ operator⟩,
    ⟨unclosed, (parse_lexicalError _).1 _ unclosed⟩, zeros, (parse_lexicalError _).1 _ zeros⟩

end NoteBase.Expr
