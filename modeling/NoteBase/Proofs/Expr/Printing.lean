import NoteBase.Proofs.Expr.Lexing
import NoteBase.Proofs.Expr.Parse
import NoteBase.Proofs.Expr.Printer
import NoteBase.Proofs.Number.Numeral

/-!
# Printed expressions are parsed

Each part of a printed expression is read as its tokens in front of whatever comes next, because
nothing that stands behind a part goes on with its last token. The tokens of the parts derive the
tree, at the level of the place that the tree stands in.
-/

namespace NoteBase.Expr

open NoteBase.Expr.Grammar (Selection Unary Chain Arguments Items Valid)
open NoteBase.Expr.Parser (topLevel)

/-! ## Texts that are read on their own -/

/-- No text goes on in this one. -/
def EndsAny (back : List Char) : Prop :=
  ∀ front, Separates front back

/-- The characters are read as these tokens in front of any text that does not go on with them. -/
def LexedAs (chars : List Char) (all : List Token) : Prop :=
  ∀ back start, EndsAny back →
    tokensFrom start 0 (chars ++ back) = all ++ tokensFrom (start + chars.length) 0 back

theorem endsAny_nil : EndsAny [] :=
  separates_nil

theorem endsAny_mark {mark : Char} {rest : List Char} (ends : isNameChar mark = false)
    (different : mark ∉ ['+', '-', '.', '=']) : EndsAny (mark :: rest) :=
  fun front => separates_cons front ends different

theorem endsAny_blank {mark : Char} {rest : List Char} (blank : Text.isBlank mark = true) :
    EndsAny (mark :: rest) :=
  fun front => separates_blank front blank

/-- A point in front of a name is not the point of a number. -/
theorem endsAny_point {first : Char} {rest : List Char} (start : isNameStart first = true) :
    EndsAny ('.' :: first :: rest) := by
  intro front
  refine ⟨?_, ?_, nofun⟩
  · intro char head
    obtain rfl := Option.some.inj head
    exact ⟨by decide, by decide, by decide⟩
  · intro char others same
    obtain ⟨rfl, rfl⟩ := List.cons.inj (List.cons.inj same).2
    cases digit : first.isDigit with
    | false => rfl
    | true =>
        rw [isNameStart_of_isDigit digit] at start
        cases start

theorem lexedAs_nil : LexedAs [] [] :=
  fun _ _ _ => rfl

/-- A text with valid tokens is read on its own. -/
theorem lexedAs_of_tokens {chars : List Char} {all : List Token}
    (lexed : tokensFrom 0 0 chars = all) (valid : Valid all) : LexedAs chars all := by
  intro back start ends
  subst lexed
  exact tokensFrom_append (Nat.zero_le _) (ends chars) valid start

theorem LexedAs.append {front back : List Char} {frontTokens backTokens : List Token}
    (reads : LexedAs front frontTokens) (others : LexedAs back backTokens)
    (ends : ∀ rest, EndsAny rest → EndsAny (back ++ rest)) :
    LexedAs (front ++ back) (frontTokens ++ backTokens) := by
  intro rest start restEnds
  rw [List.append_assoc, reads _ _ (ends rest restEnds), others _ _ restEnds, List.append_assoc,
    List.length_append, Nat.add_assoc]

/-- A mark that is a token whatever comes next. -/
theorem LexedAs.mark {mark : Char} {token : Token} {chars : List Char} {all : List Token}
    (reads : LexedAs chars all)
    (lexed : ∀ start rest, tokensFrom start 0 (mark :: rest) =
      token :: tokensFrom (start + 1) 0 rest) : LexedAs (mark :: chars) (token :: all) := by
  intro rest start restEnds
  rw [List.cons_append, lexed, reads _ _ restEnds, List.length_cons, Nat.add_assoc,
    Nat.add_comm 1]
  rfl

theorem LexedAs.blanks {blanks chars : List Char} {all : List Token} (reads : LexedAs chars all)
    (blank : ∀ char ∈ blanks, Text.isBlank char = true) : LexedAs (blanks ++ chars) all := by
  intro rest start restEnds
  rw [List.append_assoc, tokensFrom_blanks blank, reads _ _ restEnds, List.length_append,
    Nat.add_assoc]

/-! ## Names, numbers and texts -/

/-- One token that takes the whole text. -/
theorem tokensFrom_eq_singleton {first : Char} {rest : List Char} {token : Token}
    (noBlank : Text.isBlank first = false) (lexed : lexeme 0 first rest = (token, rest.length)) :
    tokensFrom 0 0 (first :: rest) = [token] := by
  have skipped := tokensFrom_skip 1 rest.length rest
  rw [List.drop_length] at skipped
  rw [tokensFrom_cons noBlank, lexed]
  simp only [Nat.zero_add, skipped]
  rfl

theorem not_mem_signs_of_isNameChar {char : Char} (name : isNameChar char = true) :
    char ∉ signs := by
  intro member
  simp only [signs, List.mem_cons, List.not_mem_nil, or_false] at member
  rcases member with rfl | rfl | rfl | rfl | rfl | rfl | rfl | rfl | rfl | rfl | rfl | rfl | rfl |
    rfl | rfl
  all_goals
    revert name
    decide

theorem nameToken_eq_ident {name : String}
    (noLiteral : ["true", "false", "null", "undefined"].contains name = false) :
    nameToken name.toList = .ident name := by
  simp only [List.contains_eq_mem, decide_eq_false_iff_not, List.mem_cons, List.not_mem_nil,
    or_false, not_or] at noLiteral
  obtain ⟨noTrue, noFalse, noNull, noUndefined⟩ := noLiteral
  simp [nameToken, noTrue, noFalse, noNull, noUndefined]

theorem exists_toList_of_isName {name : String} (named : isName name = true) :
    ∃ first rest, name.toList = first :: rest ∧ isNameStart first = true ∧
      (∀ char ∈ rest, isNameChar char = true) ∧ nameToken name.toList = .ident name := by
  unfold isName at named
  cases chars : name.toList with
  | nil => simp [chars] at named
  | cons first rest =>
      simp only [chars, Bool.and_eq_true, List.all_eq_true, Bool.not_eq_true'] at named
      obtain ⟨⟨start, others⟩, noLiteral⟩ := named
      exact ⟨first, rest, rfl, start, others, chars ▸ nameToken_eq_ident noLiteral⟩

theorem lexedAs_name {name : String} (named : isName name = true) :
    LexedAs name.toList [.ident name] := by
  obtain ⟨first, rest, chars, start, others, token⟩ := exists_toList_of_isName named
  have inName := isNameChar_of_isNameStart start
  have noDigit : ¬ first.isDigit = true := fun digit => by
    rw [isNameStart_of_isDigit digit] at start
    cases start
  have noQuote : ¬ (first = '\'' ∨ first = '"') := by
    rintro (rfl | rfl) <;> (revert start; decide)
  refine lexedAs_of_tokens ?_ (Grammar.valid_singleton (by simp))
  rw [chars] at token ⊢
  refine tokensFrom_eq_singleton (isBlank_of_isNameChar inName) ?_
  rw [lexeme_eq_plainLexeme 0 (not_mem_signs_of_isNameChar inName), plainLexeme, if_neg noQuote,
    if_neg noDigit, if_pos start, Text.takeWhile_eq_self others]
  simp only [token]

theorem lexedAs_numeral {chars : List Char} {number : Float} (numeral : IsNumeral chars number) :
    LexedAs chars [.number number] := by
  obtain ⟨first, rest, rfl, digit⟩ := numeral.starts
  have inName := isNameChar_of_isDigit digit
  have noQuote : ¬ (first = '\'' ∨ first = '"') := by
    rintro (rfl | rfl) <;> (revert digit; decide)
  refine lexedAs_of_tokens ?_ (Grammar.valid_singleton (by simp))
  refine tokensFrom_eq_singleton (isBlank_of_isNameChar inName) ?_
  rw [lexeme_eq_plainLexeme 0 (not_mem_signs_of_isNameChar inName), plainLexeme, if_neg noQuote,
    if_pos digit, if_neg (by rw [numeral.noLeadingZero]; exact Bool.false_ne_true)]
  simp only [numeral.whole, List.take_length, numberToken, numeral.reads, Option.getD_some]
  rfl

theorem stringBody?_escaped {quote : Char} (isQuote : quote = '\'' ∨ quote = '"')
    (body : List Char) :
    stringBody? quote (body.flatMap (escape quote) ++ [quote]) =
      some (body, (body.flatMap (escape quote)).length + 1) := by
  have plain : quote ≠ '\\' := by
    rintro rfl
    revert isQuote
    decide
  induction body with
  | nil =>
      rw [List.flatMap_nil, List.nil_append, stringBody?_cons plain, if_pos rfl]
      rfl
  | cons char body inductionHypothesis =>
      rw [List.flatMap_cons, List.append_assoc]
      by_cases escaped : char = '\\' ∨ char = quote
      · have same : unescape char = char := by
          rcases escaped with rfl | rfl
          · rfl
          · rcases isQuote with rfl | rfl <;> rfl
        simp [escape, escaped, stringBody?, inductionHypothesis, same]
      · obtain ⟨noBackslash, noQuote⟩ := not_or.mp escaped
        rw [escape, if_neg escaped, List.cons_append, List.nil_append,
          stringBody?_cons noBackslash, if_neg noQuote, inductionHypothesis]
        simp

theorem lexedAs_quoted {quote : Char} (isQuote : quote = '\'' ∨ quote = '"') (text : String) :
    LexedAs (quotedChars quote text) [.text text] := by
  have noBlank : Text.isBlank quote = false := by
    rcases isQuote with rfl | rfl <;> decide
  have noSign : quote ∉ signs := by
    rcases isQuote with rfl | rfl <;> decide
  refine lexedAs_of_tokens ?_ (Grammar.valid_singleton (by simp))
  refine tokensFrom_eq_singleton noBlank ?_
  rw [lexeme_eq_plainLexeme 0 noSign, plainLexeme, if_pos isQuote, stringBody?_escaped isQuote]
  simp

theorem lexedAs_literal (style : Style) {value : Value} (literal : isLiteral value = true) :
    ∃ all, LexedAs (style.literalChars value) all ∧ Grammar.Primary all (.literal value) 0 := by
  cases value with
  | null =>
      have word : tokensFrom 0 0 "null".toList = [.null] := by decide +kernel
      exact ⟨[.null], lexedAs_of_tokens word (Grammar.valid_singleton (by simp)), .null⟩
  | bool value =>
      have word : tokensFrom 0 0 (if value then "true".toList else "false".toList) =
          [.bool value] := by
        cases value <;> decide +kernel
      exact ⟨[.bool value], lexedAs_of_tokens word (Grammar.valid_singleton (by simp)),
        .bool value⟩
  | number number =>
      simp only [isLiteral, Bool.and_eq_true, Bool.not_eq_true'] at literal
      obtain ⟨positive, isNumber⟩ := literal
      exact ⟨_, lexedAs_numeral (style.isNumeral number positive isNumber), .number number⟩
  | text text =>
      exact ⟨_, lexedAs_quoted (style.quote_eq text) text, .text text⟩
  | date _ => cases literal
  | list _ => cases literal

/-! ## Places -/

/-- The phrases of a place: a primary with its members, or operators up to a level. -/
def Phrase : Nat → List Token → Expr → Nat → Prop
  | 0 => Selection
  | level + 1 => Chain level

/-- The characters are read as tokens that derive the tree in a place. -/
def Prints (limit : Nat) (chars : List Char) (expr : Expr) (depth : Nat) : Prop :=
  ∃ all, LexedAs chars all ∧ Phrase limit all expr depth

section Places

variable {limit : Nat} {all : List Token} {expr : Expr} {depth : Nat}

theorem Phrase.lift {other : Nat} (phrase : Phrase limit all expr depth) (le : limit ≤ other) :
    Phrase other all expr depth := by
  induction le with
  | refl => exact phrase
  | @step other _ inductionHypothesis =>
      cases other with
      | zero => exact .unary (.selection inductionHypothesis)
      | succ level => exact Chain.lift inductionHypothesis

theorem Phrase.starts (phrase : Phrase limit all expr depth) :
    ∃ first rest, all = first :: rest ∧ Grammar.startsOperand first = true := by
  have chain : Phrase (limit + 1) all expr depth := phrase.lift (Nat.le_succ limit)
  exact Chain.starts chain

theorem Phrase.group (phrase : Phrase (topLevel + 1) all expr depth) :
    Phrase limit (.leftParen :: all ++ [.rightParen]) expr (depth + 1) := by
  have selection : Phrase 0 (.leftParen :: all ++ [.rightParen]) expr (depth + 1) :=
    .primary (.group phrase)
  exact selection.lift (Nat.zero_le limit)

theorem looseness_le (expr : Expr) : expr.looseness ≤ topLevel + 1 := by
  cases expr with
  | binary op left right => cases op <;> simp [looseness, BinaryOp.level, topLevel]
  | _ => simp [looseness, topLevel]

/-- The tokens are those of a tree in parentheses. -/
def IsGroup (all : List Token) (expr : Expr) : Prop :=
  ∃ inner depth, all = .leftParen :: inner ++ [.rightParen] ∧
    Phrase (topLevel + 1) inner expr depth

theorem isGroup_of_selection (selection : Selection all expr depth) (loose : 0 < expr.looseness) :
    IsGroup all expr := by
  cases selection with
  | primary primary =>
      cases primary with
      | group inner => exact ⟨_, _, rfl, inner⟩
      | _ => exact absurd loose (Nat.lt_irrefl 0)
  | _ => exact absurd loose (Nat.lt_irrefl 0)

theorem isGroup_of_chain :
    ∀ {level : Nat} {all : List Token} {expr : Expr} {depth : Nat}, Chain level all expr depth →
      level + 1 < expr.looseness → IsGroup all expr
  | _, _, _, _, .unary (.selection selection), loose =>
      isGroup_of_selection selection (Nat.zero_lt_of_lt loose)
  | _, _, _, _, .unary (.operator _ _), loose => absurd loose (Nat.lt_irrefl 1)
  | _, _, _, _, .lift inner, loose => isGroup_of_chain inner (Nat.lt_of_succ_lt loose)
  | _, _, _, _, .operator op level _ _, loose => by
      rw [looseness, level] at loose
      exact absurd loose (Nat.lt_irrefl _)

/-- Parentheses are written only where they are needed: a tree that binds more loosely than its
place asks for is derived there in no other way. -/
theorem isGroup_of_looseness (phrase : Phrase limit all expr depth)
    (loose : limit < expr.looseness) : IsGroup all expr := by
  cases limit with
  | zero => exact isGroup_of_selection phrase loose
  | succ level => exact isGroup_of_chain phrase loose

theorem Prints.placed {chars : List Char} (prints : Prints expr.looseness chars expr depth)
    (limit : Nat) :
    Prints limit (placed limit expr chars) expr (placedDepth limit expr depth) := by
  obtain ⟨all, lexed, phrase⟩ := prints
  unfold Expr.placed placedDepth
  by_cases fits : expr.looseness ≤ limit
  · rw [if_pos fits, if_pos fits]
    exact ⟨all, lexed, phrase.lift fits⟩
  · rw [if_neg fits, if_neg fits]
    have closing : LexedAs [')'] [.rightParen] := lexedAs_nil.mark fun _ _ => rfl
    have closed := lexed.append closing fun _ _ => endsAny_mark (by decide) (by decide)
    have opened : LexedAs ('(' :: (chars ++ [')'])) (.leftParen :: (all ++ [.rightParen])) :=
      closed.mark fun _ _ => rfl
    exact ⟨_, opened, (phrase.lift (looseness_le expr)).group⟩

theorem Prints.lexes {chars : List Char} (prints : Prints limit chars expr depth) :
    ∃ all, Lexes (String.ofList chars) all ∧ Phrase limit all expr depth := by
  obtain ⟨all, lexed, phrase⟩ := prints
  have valid : Valid all :=
    Chain.valid (show Phrase (limit + 1) all expr depth from phrase.lift (Nat.le_succ limit))
  have run := lexed [] 0 endsAny_nil
  rw [List.append_nil, tokensFrom, List.append_nil] at run
  exact ⟨all, ⟨by rw [tokens, String.toList_ofList, run], valid⟩, phrase⟩

end Places

/-! ## Operators -/

/-- The text of an operand does not turn a `!` in front of it into another operator. -/
theorem LexedAs.exists_cons {chars : List Char} {first : Token} {rest : List Token}
    (lexed : LexedAs chars (first :: rest)) (starts : Grammar.startsOperand first = true) :
    ∃ char others, chars = char :: others ∧ char ≠ '=' := by
  have run := lexed [] 0 endsAny_nil
  rw [List.append_nil] at run
  cases chars with
  | nil => cases run
  | cons char others =>
      refine ⟨char, others, rfl, ?_⟩
      rintro rfl
      rw [tokensFrom_cons (by decide), lexeme_equals] at run
      have same := (List.cons.inj run).1
      revert starts
      rw [← same]
      split
      · decide
      · split
        · decide
        · nofun

theorem LexedAs.unary (op : UnaryOp) {chars : List Char} {first : Token} {rest : List Token}
    (lexed : LexedAs chars (first :: rest)) (starts : Grammar.startsOperand first = true) :
    LexedAs (op.chars ++ chars) (op.token :: first :: rest) := by
  cases op with
  | negate => exact lexed.mark fun _ _ => rfl
  | plus => exact lexed.mark fun _ _ => rfl
  | not =>
      obtain ⟨char, others, rfl, noEquals⟩ := lexed.exists_cons starts
      intro back start ends
      have run := lexed back (start + 1) ends
      have count := equalsCount_cons_of_ne noEquals (others ++ back)
      show tokensFrom start 0 ('!' :: (char :: others ++ back)) = _
      rw [tokensFrom_cons (by decide), lexeme_bang, List.cons_append, count]
      simp only [show ¬ 2 ≤ 0 by decide, show ¬ 1 ≤ 0 by decide, if_false]
      rw [← List.cons_append, run]
      simp [UnaryOp.chars, UnaryOp.token, Nat.add_comm, Nat.add_left_comm]

theorem lexedAs_binary (op : BinaryOp) : LexedAs op.chars [op.token] := by
  refine lexedAs_of_tokens ?_ (Grammar.valid_cons op.token_ne_invalid Grammar.valid_nil)
  cases op <;> decide +kernel

theorem endsAny_blanks {blanks : List Char} (nonempty : blanks ≠ [])
    (blank : ∀ char ∈ blanks, Text.isBlank char = true) (rest : List Char) :
    EndsAny (blanks ++ rest) := by
  obtain ⟨first, others, rfl⟩ := List.exists_cons_of_ne_nil nonempty
  exact endsAny_blank (blank first List.mem_cons_self)

/-! ## Trees -/

theorem LexedAs.select {chars : List Char} {all : List Token} (lexed : LexedAs chars all)
    {name : String} (named : isName name = true) :
    LexedAs (chars ++ '.' :: name.toList) (all ++ [.dot, .ident name]) := by
  have pointed : LexedAs ('.' :: name.toList) [.dot, .ident name] :=
    (lexedAs_name named).mark fun _ _ => rfl
  obtain ⟨first, rest, chars, start, _⟩ := exists_toList_of_isName named
  refine lexed.append pointed fun _ _ => ?_
  rw [chars]
  exact endsAny_point start

/-- Names behind a path, each behind a point, extend the path. -/
theorem prints_path {chars : List Char} {names : List String} (rest : List String)
    (prints : Prints 0 chars (.property names) 0) (named : ∀ name ∈ rest, isName name = true) :
    Prints 0 (chars ++ rest.flatMap fun name => '.' :: name.toList) (.property (names ++ rest))
      0 := by
  induction rest generalizing chars names with
  | nil =>
      simpa using prints
  | cons name rest inductionHypothesis =>
      obtain ⟨all, lexed, phrase⟩ := prints
      have selected : Prints 0 (chars ++ '.' :: name.toList) (.property (names ++ [name])) 0 :=
        ⟨_, lexed.select (named name List.mem_cons_self), Selection.path name phrase⟩
      have extended := inductionHypothesis selected fun next member =>
        named next (List.mem_cons_of_mem _ member)
      rw [List.flatMap_cons, ← List.append_assoc]
      simpa using extended

theorem prints_property {path : List String} (nonempty : path ≠ [])
    (named : ∀ name ∈ path, isName name = true) :
    Prints 0 (Style.pathChars path) (.property path) 0 := by
  obtain ⟨first, rest, rfl⟩ := List.exists_cons_of_ne_nil nonempty
  have start : Prints 0 first.toList (.property [first]) 0 :=
    ⟨_, lexedAs_name (named first List.mem_cons_self), .primary (.name first)⟩
  exact prints_path rest start fun name member => named name (List.mem_cons_of_mem _ member)

theorem prints_unary (style : Style) (op : UnaryOp) {operand : Expr} {chars : List Char}
    {depth : Nat} (prints : Prints 1 chars operand depth) :
    Prints 1 (op.chars ++ style.gap op operand ++ chars) (.unary op operand) (depth + 1) := by
  obtain ⟨all, lexed, phrase⟩ := prints
  obtain ⟨first, rest, rfl, starts⟩ := phrase.starts
  have spaced := lexed.blanks (style.gap_blank op operand)
  cases phrase with
  | unary inner =>
      rw [List.append_assoc]
      exact ⟨_, spaced.unary op starts, Chain.unary (.operator op inner)⟩

theorem prints_binary (style : Style) (op : BinaryOp) {left right : Expr}
    {leftChars rightChars : List Char} {leftDepth rightDepth : Nat}
    (leftPrints : Prints (op.level + 1) leftChars left leftDepth)
    (rightPrints : Prints op.level rightChars right rightDepth) :
    Prints (op.level + 1)
      (leftChars ++ style.before op left right ++ op.chars ++ style.behind op left right ++
        rightChars)
      (.binary op left right) (max leftDepth rightDepth) := by
  obtain ⟨leftTokens, leftLexed, leftPhrase⟩ := leftPrints
  obtain ⟨rightTokens, rightLexed, rightPhrase⟩ := rightPrints
  have behind := endsAny_blanks (style.behind_ne_nil op left right)
    (style.behind_blank op left right)
  have before := endsAny_blanks (style.before_ne_nil op left right)
    (style.before_blank op left right)
  have rightSpaced := rightLexed.blanks (style.behind_blank op left right)
  have operated := (lexedAs_binary op).append rightSpaced fun rest _ => by
    rw [List.append_assoc]
    exact behind _
  have spaced := operated.blanks (style.before_blank op left right)
  have joined := leftLexed.append spaced fun rest _ => by
    rw [List.append_assoc]
    exact before _
  obtain ⟨level, levelEq⟩ : ∃ level, op.level = level + 1 := by
    cases op <;> exact ⟨_, rfl⟩
  rw [levelEq] at leftPhrase rightPhrase ⊢
  refine ⟨_, ?_, Chain.operator op levelEq leftPhrase rightPhrase⟩
  simpa only [List.append_assoc, List.singleton_append] using joined

/-- The arguments of a call are printed in parentheses. -/
theorem lexedAs_arguments (style : Style) {args : List Expr} {depth : Nat}
    (empty : args = [] → depth = 0)
    (items : args ≠ [] → ∃ all, LexedAs (style.charsOfAll args) all ∧ Items all args depth) :
    ∃ all, LexedAs ('(' :: (style.charsOfAll args ++ [')'])) all ∧ Arguments all args depth := by
  have closing : LexedAs [')'] [.rightParen] := lexedAs_nil.mark fun _ _ => rfl
  by_cases none : args = []
  · subst none
    obtain rfl := empty rfl
    exact ⟨_, closing.mark fun _ _ => rfl, .empty⟩
  · obtain ⟨all, lexed, phrase⟩ := items none
    have closed := lexed.append closing fun _ _ => endsAny_mark (by decide) (by decide)
    exact ⟨_, closed.mark fun _ _ => rfl, .items phrase⟩

theorem isName_function (function : Function) : isName function.name = true := by
  cases function <;> decide +kernel

mutual

theorem prints_chars (style : Style) :
    ∀ (expr : Expr), expr.isPrintable = true →
      Prints expr.looseness (style.chars expr) expr expr.printedDepth
  | .literal value, printable => by
      obtain ⟨all, lexed, primary⟩ := lexedAs_literal style printable
      exact ⟨all, lexed, Selection.primary primary⟩
  | .property path, printable => by
      simp only [isPrintable, Bool.and_eq_true, Bool.not_eq_true', List.isEmpty_eq_false_iff,
        List.all_eq_true] at printable
      exact prints_property printable.1 printable.2
  | .unary op operand, printable =>
      prints_unary style op ((prints_chars style operand printable).placed 1)
  | .binary op left right, printable => by
      simp only [isPrintable, Bool.and_eq_true] at printable
      exact prints_binary style op ((prints_chars style left printable.1).placed (op.level + 1))
        ((prints_chars style right printable.2).placed op.level)
  | .call function args, printable => by
      obtain ⟨all, lexed, arguments⟩ := prints_arguments style args printable
      have called := (lexedAs_name (isName_function function)).append lexed
        fun _ _ => endsAny_mark (by decide) (by decide)
      exact ⟨_, called, Selection.primary (.call function arguments)⟩
  | .method target name args, printable => by
      simp only [isPrintable, Bool.and_eq_true] at printable
      obtain ⟨⟨targetPrintable, named⟩, argsPrintable⟩ := printable
      obtain ⟨all, lexed, phrase⟩ := (prints_chars style target targetPrintable).placed 0
      obtain ⟨argTokens, argsLexed, arguments⟩ := prints_arguments style args argsPrintable
      have called := (lexed.select named).append argsLexed
        fun _ _ => endsAny_mark (by decide) (by decide)
      refine ⟨_, called, ?_⟩
      rw [List.append_assoc]
      exact Selection.method name phrase arguments
  | .member target name, printable => by
      simp only [isPrintable, Bool.and_eq_true, Bool.not_eq_true'] at printable
      obtain ⟨⟨targetPrintable, named⟩, noProperty⟩ := printable
      obtain ⟨all, lexed, phrase⟩ := (prints_chars style target targetPrintable).placed 0
      refine ⟨_, lexed.select named, Selection.member name phrase ?_⟩
      rintro names rfl
      cases noProperty

theorem prints_items (style : Style) :
    ∀ (args : List Expr), args ≠ [] → areAllPrintable args = true →
      ∃ all, LexedAs (style.charsOfAll args) all ∧ Items all args (printedDepthOfAll args)
  | [], nonempty, _ => absurd rfl nonempty
  | [expr], _, printable => by
      simp only [areAllPrintable, Bool.and_true] at printable
      obtain ⟨all, lexed, phrase⟩ := prints_chars style expr printable
      exact ⟨all, lexed, .last (phrase.lift (looseness_le expr))⟩
  | expr :: next :: rest, _, printable => by
      rw [areAllPrintable, Bool.and_eq_true] at printable
      obtain ⟨all, lexed, phrase⟩ := prints_chars style expr printable.1
      obtain ⟨others, othersLexed, items⟩ :=
        prints_items style (next :: rest) (List.cons_ne_nil _ _) printable.2
      have separated : LexedAs (',' :: style.charsOfAll (next :: rest)) (.comma :: others) :=
        othersLexed.mark fun _ _ => rfl
      have joined := lexed.append separated fun _ _ => endsAny_mark (by decide) (by decide)
      exact ⟨_, joined, .more (phrase.lift (looseness_le expr)) items⟩

theorem prints_arguments (style : Style) (args : List Expr)
    (printable : areAllPrintable args = true) :
    ∃ all, LexedAs ('(' :: (style.charsOfAll args ++ [')'])) all ∧
      Arguments all args (printedDepthOfAll args) :=
  lexedAs_arguments style (fun empty => by rw [empty]; rfl) fun nonempty =>
    prints_items style args nonempty printable

end

/-! ## A style -/

open NoteBase.Number (Decimal exponentChars numeralChars exactNumeral digitChars)

theorem hasLeadingZero_numeralChars (decimal : Decimal) :
    hasLeadingZero (numeralChars decimal) = false := by
  rw [hasLeadingZero, Number.takeWhile_numeralChars]
  rcases Nat.eq_zero_or_pos decimal.digits with zero | positive
  · rw [zero]
    rfl
  · have leading := Json.head?_digitChars positive
    split
    · next rest chars =>
      rw [chars] at leading
      exact absurd rfl leading
    · rfl

theorem fractionLength_exponentChars (power : Int) : fractionLength (exponentChars power) = 0 := by
  unfold exponentChars
  split <;> rfl

theorem exponentLength_exponentChars (power : Int) :
    exponentLength (exponentChars power) = (exponentChars power).length := by
  unfold exponentChars
  by_cases zero : power = 0
  · rw [if_pos zero]
    rfl
  · obtain ⟨first, rest, chars, digit⟩ := Number.exists_digitChars power.natAbs
    have all := Text.takeWhile_eq_self (Number.isDigit_digitChars power.natAbs)
    have noMinus : first ≠ '-' := by
      rintro rfl
      cases digit
    have noPlus : first ≠ '+' := by
      rintro rfl
      cases digit
    rw [chars] at all
    rw [if_neg zero, chars]
    by_cases negative : power < 0
    · simp [exponentLength, negative, all]
      omega
    · simp [exponentLength, negative, all, noMinus, noPlus, Nat.add_comm]

theorem numberLength_numeralChars (decimal : Decimal) :
    numberLength (numeralChars decimal) = (numeralChars decimal).length := by
  have behind : (numeralChars decimal).drop (digitChars decimal.digits).length =
      exponentChars decimal.exponent := List.drop_left
  unfold numberLength
  simp only [Number.takeWhile_numeralChars, behind, fractionLength_exponentChars, Nat.add_zero,
    exponentLength_exponentChars]
  rw [numeralChars, List.length_append]

theorem isNumeral_exactNumeral {number : Float} (positive : Number.isNegative number = false)
    (isNumber : Number.isNaN number = false) : IsNumeral (exactNumeral number) number where
  starts := Number.exists_numeralChars _
  noLeadingZero := hasLeadingZero_numeralChars _
  whole := numberLength_numeralChars _
  reads := Number.ofDecimalLiteral?_exactNumeral positive isNumber

/-- One blank on both sides of a binary operator, double quotes, and all digits of a number. -/
def plainStyle : Style where
  before := fun _ _ _ => [' ']
  behind := fun _ _ _ => [' ']
  gap := fun _ _ => []
  quote := fun _ => '"'
  numeral := exactNumeral
  before_ne_nil := by simp
  before_blank := fun _ _ _ _ member => by rw [List.mem_singleton.mp member]; rfl
  behind_ne_nil := by simp
  behind_blank := fun _ _ _ _ member => by rw [List.mem_singleton.mp member]; rfl
  gap_blank := by simp
  quote_eq := fun _ => .inr rfl
  isNumeral := fun _ => isNumeral_exactNumeral

/-! ## Whole expressions -/

/-- A tree of the shape that a parser builds is printed as a text that is parsed to it, whatever the
style is, if the limits of the parser hold. -/
theorem parse_print (style : Style) (expr : Expr) (printable : expr.isPrintable = true)
    (within : WithinLimits expr expr.printedDepth) : parse (style.print expr) = .ok expr := by
  obtain ⟨all, lexed, phrase⟩ := prints_chars style expr printable
  have same : tokens (style.print expr) = all := by
    have run := lexed [] 0 endsAny_nil
    rw [List.append_nil, tokensFrom, List.append_nil] at run
    rw [tokens, Style.print, String.toList_ofList, run]
  have expression : Grammar.Expression all expr expr.printedDepth :=
    phrase.lift (looseness_le expr)
  rw [parse, same]
  exact ofTokens_of_withinLimits expression within

/-- `(a - 2) * !b.c`, whose parentheses are needed. -/
def product : Expr :=
  .binary .mul
    (.binary .sub (.property ["a"]) (.literal (.number (Number.ofNat 2))))
    (.unary .not (.property ["b", "c"]))

theorem parse_print_product : parse (plainStyle.print product) = .ok product :=
  parse_print plainStyle product (by decide +kernel) ⟨by decide, by decide, by decide⟩

example : plainStyle.print product = "(a - 2) * !b.c" := by decide +kernel

end NoteBase.Expr
