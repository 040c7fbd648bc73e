import NoteBase.Proofs.Expr.Footprint
import NoteBase.Proofs.Expr.Printing
import NoteBase.Proofs.Predicate.Compound
import NoteBase.Proofs.Predicate.Operands

/-!
# Calls with a plain argument

A call whose argument has neither quotes nor backslashes in it is an expression as well. Where the
names of its path are words of ASCII characters, the predicate is answered at once, and as the
expression would be. Where they are not, it is no call for the predicate, but a comparison that is
split in front of the parenthesis, since the test has the name of an operator.
-/

namespace NoteBase.Predicate

open Calendar (Moment)
open NoteBase.Expr (isName isNameChar isNameStart)

namespace QuotedCall

/-! ## The text of a call -/

/-- The argument stands between two equal quotes, and is not empty. Neither quotes nor escapes nor
line breaks stand in it. -/
structure HasPlainArgument (call : QuotedCall) : Prop where
  opening_quote : isQuote call.opening = true
  closing_eq : call.closing = call.opening
  needle_ne_nil : call.needle ≠ []
  needle_plain : ∀ char ∈ call.needle, isQuote char = false ∧ char ≠ '\\' ∧ char ≠ '\n'

/-- The path of a call consists of names of expressions. -/
structure IsNamed (call : QuotedCall) : Prop where
  target_ne_nil : call.target ≠ []
  target_names : ∀ name ∈ call.target, isName (String.ofList name) = true
  name_named : isName (String.ofList call.name) = true

/-- What stands in front of the argument. -/
def callee (call : QuotedCall) : List Char :=
  (if call.negated then ['!'] else []) ++ (call.path ++ '.' :: call.name)

def argument (call : QuotedCall) : List Char :=
  '(' :: call.opening :: call.needle ++ [call.closing, ')']

theorem chars_eq (call : QuotedCall) : call.chars = call.callee ++ call.argument := by
  simp [chars, callee, argument]

/-! ## The expression of a call -/

/-- The path of a call as an expression has it. -/
def names (call : QuotedCall) : List String :=
  call.target.map String.ofList

/-- The expression of a call without a negation. -/
def question (call : QuotedCall) : Expr :=
  .method (.property call.names) (String.ofList call.name)
    [.literal (.text (String.ofList call.needle))]

def tree (call : QuotedCall) : Expr :=
  if call.negated then .unary .not call.question else call.question

theorem dotted_names (call : QuotedCall) : Expr.dotted call.names = String.ofList call.path := by
  apply String.toList_injective
  rw [Expr.dotted, String.toList_intercalate, names, List.map_map, String.toList_ofList, path]
  simp [Function.comp_def]

theorem pathChars_names (words : List (List Char)) :
    Expr.Style.pathChars (words.map String.ofList) = ['.'].intercalate words := by
  cases words with
  | nil => rfl
  | cons first rest =>
      induction rest generalizing first with
      | nil => simp [Expr.Style.pathChars]
      | cons next rest inductionHypothesis =>
          have others := inductionHypothesis next
          simp only [Expr.Style.pathChars, List.map_cons, List.flatMap_cons, String.toList_ofList,
            List.intercalate_cons_cons] at others ⊢
          rw [← others]
          simp

/-- A plain text needs no escapes. -/
theorem quotedChars_plain {quote : Char} {body : List Char} (marked : isQuote quote = true)
    (plain : ∀ char ∈ body, isQuote char = false ∧ char ≠ '\\' ∧ char ≠ '\n') :
    Expr.quotedChars quote (String.ofList body) = quote :: (body ++ [quote]) := by
  have kept : body.flatMap (Expr.escape quote) = body := by
    induction body with
    | nil => rfl
    | cons char body inductionHypothesis =>
        obtain ⟨noQuote, noBackslash, _⟩ := plain char List.mem_cons_self
        have different : char ≠ quote := by
          rintro rfl
          rw [marked] at noQuote
          cases noQuote
        have others := inductionHypothesis fun next member =>
          plain next (List.mem_cons_of_mem char member)
        rw [List.flatMap_cons, others, Expr.escape, if_neg (by simp [noBackslash, different])]
        rfl
  rw [Expr.quotedChars, String.toList_ofList, kept]

/-- The style in which calls are written. -/
def style {quote : Char} (marked : isQuote quote = true) : Expr.Style :=
  { Expr.plainStyle with
    quote := fun _ => quote
    quote_eq := fun _ => by simpa [isQuote] using marked }

section Parsing

variable {call : QuotedCall}

theorem isPrintable_tree (named : call.IsNamed) : call.tree.isPrintable = true := by
  have names : call.names.all isName = true := by
    rw [QuotedCall.names, List.all_map, List.all_eq_true]
    exact named.target_names
  have someNames : call.names.isEmpty = false := by
    rw [QuotedCall.names, List.isEmpty_map, List.isEmpty_eq_false_iff]
    exact named.target_ne_nil
  unfold tree question
  split <;> simp [Expr.isPrintable, Expr.areAllPrintable, Expr.isLiteral, names, someNames,
    named.name_named]

theorem chars_tree (plain : call.HasPlainArgument) :
    (style plain.opening_quote).chars call.tree = call.chars := by
  have argumentEq := quotedChars_plain plain.opening_quote plain.needle_plain
  unfold tree question
  split
  · next negated =>
    simp [Expr.Style.chars, Expr.Style.charsOfAll, Expr.Style.literalChars, Expr.placed,
      Expr.looseness, UnaryOp.chars, style, Expr.plainStyle, names, pathChars_names, argumentEq,
      chars, negated, path, plain.closing_eq]
  · next affirmed =>
    simp [Expr.Style.chars, Expr.Style.charsOfAll, Expr.Style.literalChars, Expr.placed,
      Expr.looseness, style, Expr.plainStyle, names, pathChars_names, argumentEq,
      chars, affirmed, path, plain.closing_eq]

/-- A call with a plain argument is an expression. -/
theorem parse_chars (plain : call.HasPlainArgument) (named : call.IsNamed) :
    Expr.parse (String.ofList call.chars) = .ok call.tree := by
  have prints := Expr.prints_chars (style plain.opening_quote) call.tree (isPrintable_tree named)
  rw [chars_tree plain] at prints
  obtain ⟨all, lexes, phrase⟩ := prints.lexes
  have within : Expr.WithinLimits call.tree call.tree.printedDepth := by
    unfold tree question
    split <;> constructor <;>
      simp [Expr.printedDepth, Expr.printedDepthOfAll, Expr.placedDepth, Expr.looseness,
        Expr.nodeCount, Expr.nodeCountOfAll, Expr.height, Expr.heightOfAll, Expr.maxDepth,
        Expr.maxNodes, Expr.maxHeight]
  exact lexes.parse_of_withinLimits (phrase.lift (Expr.looseness_le call.tree)) within

end Parsing

/-! ## The answer of the expression -/

section Answers

variable (now : Moment) (record : Record) {call : QuotedCall}

/-- A call is as true as its answer, which a negation turns around. -/
theorem holdsAsExpression_chars (plain : call.HasPlainArgument) (named : call.IsNamed)
    {answer : Bool} (answered : Expr.eval now record call.question = .ok (.bool answer)) :
    holdsAsExpression now record (String.ofList call.chars) = negateIf call.negated answer := by
  unfold holdsAsExpression
  rw [parse_chars plain named]
  unfold tree
  rw [Expr.eval] at answered
  cases call.negated with
  | true =>
      simp only [if_true, Expr.eval, Expr.evalIn, answered]
      cases answer <;> rfl
  | false =>
      simp only [Bool.false_eq_true, if_false, Expr.eval, answered]
      cases answer <;> rfl

/-- The query of the file asks the record. -/
theorem eval_question_query (target : call.target = ["file".toList])
    (name : call.name = "hasProperty".toList) :
    Expr.eval now record call.question =
      .ok (.bool (record.hasProperty (String.ofList call.needle))) := by
  have query : Expr.isHasProperty (.property call.names) (String.ofList call.name) = true := by
    rw [names, target, name]
    decide
  rw [question, Expr.eval, Expr.evalIn]
  simp only [query, if_true]
  simp [Expr.evalAllIn, Expr.evalIn, Value.display, Value.displayChars, bind, Except.bind]

theorem callOnText_of_ofName? {name : String} {test : TextTest}
    (known : TextTest.ofName? name = some test) (text needle : String) :
    Expr.callOnText name text [.text needle] =
      .ok (.bool (test.holds needle.toList text.toList)) := by
  unfold TextTest.ofName? at known
  split at known
  · next same =>
    obtain rfl := Option.some.inj known
    subst same
    rfl
  · split at known
    · next same =>
      obtain rfl := Option.some.inj known
      subst same
      rfl
    · split at known
      · next same =>
        obtain rfl := Option.some.inj known
        rcases same with rfl | rfl <;> rfl
      · cases known

/-- A test of a text asks for the value of the whole path. -/
theorem eval_question_text {test : TextTest} {text : String} (target : call.target ≠ [])
    (known : TextTest.ofName? (String.ofList call.name) = some test)
    (found : record.lookup (String.ofList call.path) = some (.text text)) :
    Expr.eval now record call.question = .ok (.bool (test.holds call.needle text.toList)) := by
  have noQuery : Expr.isHasProperty (.property call.names) (String.ofList call.name) = false := by
    have different : String.ofList call.name ≠ Expr.hasPropertyName := by
      intro same
      rw [same] at known
      cases known
    unfold Expr.isHasProperty
    split
    · simp [different]
    · rfl
  have notEmpty : String.ofList call.name ≠ "isEmpty" := by
    intro same
    rw [same] at known
    cases known
  have someNames : call.names ≠ [] := by
    rw [names, ne_eq, List.map_eq_nil_iff]
    exact target
  have whole := Expr.resolve_of_lookup someNames (call.dotted_names ▸ found)
  have asked := callOnText_of_ofName? known text (String.ofList call.needle)
  rw [String.toList_ofList] at asked
  rw [question, Expr.eval, Expr.evalIn]
  simp only [noQuery, Expr.evalAllIn, Expr.evalIn, Expr.readPath, whole, Expr.readMembers, bind,
    Except.bind, Bool.false_eq_true, if_false, Expr.callMethod, if_neg notEmpty]
  exact asked

end Answers

/-! ## The characters of a call -/

section Characters

variable {call : QuotedCall}

theorem isNameChar_of_isName {name : List Char} (named : isName (String.ofList name) = true) :
    ∃ first rest, name = first :: rest ∧ isNameStart first = true ∧
      ∀ char ∈ name, isNameChar char = true := by
  obtain ⟨first, rest, nameEq, start, others, _⟩ := Expr.exists_toList_of_isName named
  rw [String.toList_ofList] at nameEq
  refine ⟨first, rest, nameEq, start, fun char member => ?_⟩
  rw [nameEq] at member
  rcases List.mem_cons.mp member with rfl | inRest
  · exact Expr.isNameChar_of_isNameStart start
  · exact others char inRest

/-- A name of ASCII characters is a word. -/
theorem isWord_of_isName {name : List Char} (named : isName (String.ofList name) = true)
    (words : ∀ char ∈ name, isWordChar char = true) : isWord name = true := by
  obtain ⟨first, rest, rfl, start, _⟩ := isNameChar_of_isName named
  have noDigit : first.isDigit = false := by
    apply Bool.eq_false_iff.mpr
    intro digit
    rw [Expr.isNameStart_of_isDigit digit] at start
    cases start
  have firstWord : isWordStart first = true := by
    have isChar := words first List.mem_cons_self
    simpa [isWordChar, isWordStart, Char.isAlphanum, noDigit] using isChar
  rw [isWord, firstWord, Bool.true_and, List.all_eq_true]
  exact fun char member => words char (List.mem_cons_of_mem first member)

theorem exists_path_cons (named : call.IsNamed) :
    ∃ first rest, call.path = first :: rest ∧ isNameStart first = true := by
  obtain ⟨name, others, targetEq⟩ := List.exists_cons_of_ne_nil named.target_ne_nil
  have isTarget : name ∈ call.target := targetEq ▸ List.mem_cons_self
  obtain ⟨first, rest, rfl, start, _⟩ := isNameChar_of_isName (named.target_names name isTarget)
  cases others with
  | nil => exact ⟨first, rest, by simp [path, targetEq], start⟩
  | cons next others =>
      exact ⟨first, _, by rw [path, targetEq, List.intercalate_cons_cons]; rfl, start⟩

/-- A path and the name behind it hold characters of names and points. -/
theorem nameChars_path (named : call.IsNamed) :
    ∀ char ∈ call.path ++ '.' :: call.name, isNameChar char = true ∨ char = '.' := by
  have inNames : ∀ {name : List Char}, isName (String.ofList name) = true →
      ∀ char ∈ name, isNameChar char = true ∨ char = '.' := by
    intro name isNamed char member
    obtain ⟨_, _, _, _, chars⟩ := isNameChar_of_isName isNamed
    exact .inl (chars char member)
  intro char member
  rcases List.mem_append.mp member with inPath | behind
  · exact forall_mem_intercalate (.inr rfl)
      (fun name isTarget => inNames (named.target_names name isTarget)) char inPath
  · rcases List.mem_cons.mp behind with rfl | inName
    · exact .inr rfl
    · exact inNames named.name_named char inName

/-- None of these characters is a blank, a quote, a parenthesis or part of an operator. -/
theorem plain_path (named : call.IsNamed) :
    ∀ char ∈ call.path ++ '.' :: call.name,
      IsPlain char ∧ isOperatorChar char = false ∧ char ≠ '(' := by
  intro char member
  rcases nameChars_path named char member with isName | rfl
  · refine ⟨isPlain_of_isNameChar isName, isOperatorChar_of_isNameChar isName, ?_⟩
    rintro rfl
    revert isName
    decide
  · exact ⟨⟨by decide, by decide, by decide⟩, by decide, by decide⟩

theorem splitBang_named (named : call.IsNamed) :
    splitBang call.chars =
      (call.negated, call.path ++ '.' :: call.name ++ call.argument) := by
  obtain ⟨first, rest, pathEq, _⟩ := exists_path_cons named
  obtain ⟨_, noOperator, _⟩ := plain_path named first (by simp [pathEq])
  have noBang : first ≠ '!' := by
    rintro rfl
    cases noOperator
  cases negated : call.negated with
  | true => simp [chars, argument, negated, splitBang]
  | false => simp [chars, argument, negated, splitBang, pathEq, noBang]

/-- No blank stands at the ends of a call. -/
theorem trimChars_chars (named : call.IsNamed) : Text.trimChars call.chars = call.chars := by
  obtain ⟨first, rest, pathEq, _⟩ := exists_path_cons named
  obtain ⟨inner, ends⟩ := call.exists_chars_eq_append
  cases negated : call.negated with
  | true =>
      have starts : call.chars.head? = some '!' := by
        simp [chars, negated]
      exact Text.trimChars_of_ends (by decide) (by decide) starts ends
  | false =>
      have starts : call.chars.head? = some first := by
        simp [chars, negated, pathEq]
      have shown := (plain_path named first (by simp [pathEq])).1.1
      exact Text.trimChars_of_ends shown (by decide) starts ends

end Characters

/-! ## Calls of ASCII words -/

section Words

variable (now : Moment) (record : Record) {call : QuotedCall}

theorem HasPlainArgument.wellFormed (plain : call.HasPlainArgument) (named : call.IsNamed)
    (words : ∀ name ∈ call.target, isWord name = true) (nameWord : isWord call.name = true) :
    call.WellFormed where
  target_ne_nil := named.target_ne_nil
  target_words := words
  name_word := nameWord
  opening_quote := plain.opening_quote
  closing_quote := plain.closing_eq.symm ▸ plain.opening_quote
  needle_ne_nil := plain.needle_ne_nil
  needle_line := fun member => (plain.needle_plain _ member).2.2 rfl

theorem evaluate_of_words (plain : call.HasPlainArgument) (named : call.IsNamed)
    (words : ∀ name ∈ call.target, isWord name = true) (nameWord : isWord call.name = true)
    {test : Record → Bool} (asked : call.test? = some test) :
    evaluate now record (String.ofList call.chars) = negateIf call.negated (test record) := by
  apply evaluate_of_quotedCall now record (plain.wellFormed named words nameWord) _ asked
  rw [String.toList_ofList, trimChars_chars named]

end Words

/-! ## Calls of other names -/

section Foreign

variable {call : QuotedCall}

theorem mem_intercalate {words : List (List Char)} {word : List Char} {char : Char}
    (member : word ∈ words) (inWord : char ∈ word) : char ∈ ['.'].intercalate words := by
  induction words with
  | nil => cases member
  | cons first rest inductionHypothesis =>
      cases rest with
      | nil =>
          obtain rfl := List.mem_singleton.mp member
          simpa using inWord
      | cons next others =>
          rw [List.intercalate_cons_cons, List.append_assoc]
          rcases List.mem_cons.mp member with rfl | inRest
          · exact List.mem_append_left _ inWord
          · exact List.mem_append_right _ (List.mem_append_right _ (inductionHypothesis inRest))

/-- What stands in front of the first parenthesis is the same in equal texts. -/
theorem eq_of_append_parenthesis {left right behind others : List Char}
    (same : left ++ '(' :: behind = right ++ '(' :: others) (leftFree : '(' ∉ left)
    (rightFree : '(' ∉ right) : left = right := by
  have free : ∀ {chars : List Char}, '(' ∉ chars → ∀ rest,
      (chars ++ '(' :: rest).takeWhile (· ≠ '(') = chars := by
    intro chars absent rest
    have all : ∀ char ∈ chars, decide (char ≠ '(') = true := by
      intro char member
      exact decide_eq_true fun isMark => absent (isMark ▸ member)
    rw [List.takeWhile_append_of_pos all]
    simp
  rw [← free leftFree behind, same, free rightFree others]

/-- A call is not read as one if a name of its path is no word. -/
theorem callShape?_eq_none (named : call.IsNamed)
    (foreign : ∃ name ∈ call.target, isWord name = false) : callShape? call.chars = none := by
  cases found : callShape? call.chars with
  | none => rfl
  | some shape =>
      obtain ⟨other, valid, written, _⟩ := exists_of_callShape? found
      have otherChars : ∀ char ∈ other.path ++ '.' :: other.name, isPathChar char = true := by
        intro char member
        rcases List.mem_append.mp member with inPath | behind
        · exact intercalate_pathChars valid.target_words char inPath
        · rcases List.mem_cons.mp behind with rfl | inName
          · decide
          · simp [isPathChar, isWord_chars valid.name_word char inName]
      have parts := splitBang_chars valid
      rw [written, splitBang_named named] at parts
      have samePath : call.path ++ '.' :: call.name = other.path ++ '.' :: other.name := by
        apply eq_of_append_parenthesis (Prod.mk.inj parts).2
        · exact fun member => (plain_path named '(' member).2.2 rfl
        · exact fun member => absurd (otherChars '(' member) (by decide)
      obtain ⟨name, isTarget, noWord⟩ := foreign
      have isNamed := named.target_names name isTarget
      have words : ∀ char ∈ name, isWordChar char = true := by
        intro char member
        have inPath : char ∈ call.path ++ '.' :: call.name :=
          List.mem_append_left _ (mem_intercalate isTarget member)
        have isChar := otherChars char (samePath ▸ inPath)
        obtain ⟨_, _, _, _, nameChars⟩ := isNameChar_of_isName isNamed
        have noPoint : char ≠ '.' := by
          rintro rfl
          exact absurd (nameChars '.' member) (by decide)
        simpa [isPathChar, noPoint] using isChar
      rw [isWord_of_isName isNamed words] at noWord
      cases noWord

/-- No logical operator stands outside the quotes of a call. -/
theorem hasLogicalOperator_chars (plain : call.HasPlainArgument) (named : call.IsNamed) :
    hasLogicalOperator call.chars = false := by
  have unquoted : ∀ char ∈ call.callee ++ ['('],
      isQuote char = false ∧ char ≠ '&' ∧ char ≠ '|' := by
    intro char member
    rw [callee, List.append_assoc, List.mem_append, List.mem_append, List.mem_singleton] at member
    rcases member with bang | inPath | rfl
    · split at bang
      · rw [List.mem_singleton.mp bang]
        decide
      · cases bang
    · obtain ⟨_, noQuote, different⟩ := (plain_path named char inPath).1
      simp only [List.mem_cons, List.not_mem_nil, or_false, not_or] at different
      exact ⟨noQuote, different.1, different.2.1⟩
    · decide
  have written : call.chars =
      call.callee ++ ['('] ++ (call.opening :: (call.needle ++ [call.opening]) ++ [')']) := by
    simp [chars_eq, argument, plain.closing_eq]
  obtain ⟨_, passed⟩ := hasLogicalFrom_unquoted unquoted none
    (call.opening :: (call.needle ++ [call.opening]) ++ [')'])
  obtain ⟨_, closed⟩ := (isShown_quoted plain.opening_quote plain.needle_plain).passes _ [')']
  rw [hasLogicalOperator, written, passed, closed]
  simp [hasLogicalFrom, isQuote]

theorem mem_path_of_mem_tail {char : Char} (member : char ∈ call.callee.tail) :
    char ∈ call.path ++ '.' :: call.name := by
  unfold callee at member
  split at member
  · exact member
  · exact List.mem_of_mem_tail member

/-- The name of a test is an operator inside the text in front of the argument. -/
theorem hasOperatorInside_callee (named : call.IsNamed) (isTest : call.name ∈ wordOperators) :
    hasOperatorInside call.callee = true := by
  obtain ⟨first, rest, pathEq, _⟩ := exists_path_cons named
  have suffix : call.name <:+ call.callee.tail := by
    unfold callee
    split
    · exact ⟨call.path ++ ['.'], by simp⟩
    · exact ⟨rest ++ ['.'], by simp [pathEq]⟩
  have starts : startsOperator call.name = true := by
    simp only [startsOperator, Bool.or_eq_true, List.any_eq_true]
    exact .inr ⟨call.name, isTest, List.isPrefixOf_iff_prefix.mpr List.prefix_rfl⟩
  exact (hasOperatorInside_iff _).mpr ⟨call.name, suffix, starts⟩

/-- A call stands on one line. -/
theorem line_chars (plain : call.HasPlainArgument) (named : call.IsNamed) :
    '\n' ∉ call.callee ++ call.argument := by
  intro member
  rcases List.mem_append.mp member with inCallee | inArgument
  · rcases List.mem_append.mp inCallee with bang | inPath
    · split at bang
      · exact absurd (List.mem_singleton.mp bang) (by decide)
      · cases bang
    · have shown := (plain_path named '\n' inPath).1.1
      revert shown
      decide
  · have noBreak : ∀ quote, isQuote quote = true → quote ≠ '\n' := by
      rintro quote marked rfl
      cases marked
    have opening := noBreak _ plain.opening_quote
    simp only [argument, List.cons_append, List.mem_cons, List.mem_append, plain.closing_eq,
      List.not_mem_nil, or_false] at inArgument
    rcases inArgument with parenthesis | same | inNeedle | same | parenthesis
    · exact absurd parenthesis (by decide)
    · exact opening same.symm
    · exact (plain.needle_plain _ inNeedle).2.2 rfl
    · exact opening same.symm
    · exact absurd parenthesis (by decide)

/-- A call of a test is split in front of its argument, if it is read as a comparison. -/
theorem exists_split (plain : call.HasPlainArgument) (named : call.IsNamed)
    (isTest : call.name ∈ wordOperators) :
    ∃ front others word behind, call.callee = front ++ others ∧ front ≠ [] ∧ others ≠ [] ∧
      word ∈ wordOperators ∧ others ++ call.argument = word ++ behind ∧
      splitComparison? call.chars = some (front, word, Text.trimStart behind) := by
  have ends : ∀ char ∈ call.argument.head?, isOperatorChar char = false := by
    intro char head
    obtain rfl : '(' = char := Option.some.inj head
    decide
  have shown : Text.trimStart call.argument ≠ [] := by
    rw [Text.trimStart_eq_self]
    · exact List.cons_ne_nil _ _
    · intro char head
      obtain rfl : '(' = char := Option.some.inj head
      decide
  obtain ⟨front, others, op, right, calleeEq, someFront, someOthers, split, found⟩ :=
    splitComparison?_inside (hasOperatorInside_callee named isTest) (line_chars plain named) ends
      shown
  obtain ⟨first, rest, rfl⟩ := List.exists_cons_of_ne_nil someOthers
  have firstPlain := plain_path named first <| mem_path_of_mem_tail <| by
    rw [calleeEq, List.tail_append_of_ne_nil someFront]
    exact List.mem_append_right _ List.mem_cons_self
  have untrimmed : Text.trimStart (first :: rest ++ call.argument) =
      first :: rest ++ call.argument := by
    apply Text.trimStart_eq_self
    intro char head
    obtain rfl : first = char := Option.some.inj head
    exact firstPlain.1.1
  have noMark : ∀ char ∈ (first :: rest ++ call.argument).head?, isOperatorChar char = false := by
    intro char head
    obtain rfl : first = char := Option.some.inj head
    exact firstPlain.2.1
  rw [untrimmed] at found
  obtain ⟨isWord, behind, written, rfl, _⟩ := splitOperator?_word noMark found
  rw [← chars_eq] at split
  exact ⟨front, first :: rest, op, behind, calleeEq, someFront, someOthers, isWord, written, split⟩

theorem evaluate_of_foreign (now : Moment) (record : Record) (plain : call.HasPlainArgument)
    (named : call.IsNamed) (isTest : call.name ∈ wordOperators)
    (foreign : ∃ name ∈ call.target, isWord name = false) :
    ∃ front others word op behind, call.callee = front ++ others ∧ front ≠ [] ∧ others ≠ [] ∧
      word ∈ wordOperators ∧ ComparisonOp.ofText? (String.ofList word) = some op ∧
      others ++ call.argument = word ++ behind ∧
      evaluate now record (String.ofList call.chars) =
        compareValues (operand now record (String.ofList front)) op
          (operand now record (String.ofList (Text.trimStart behind))) := by
  obtain ⟨front, others, word, behind, calleeEq, someFront, someOthers, isWord, written, split⟩ :=
    exists_split plain named isTest
  obtain ⟨op, known⟩ := exists_comparisonOp_of_word isWord
  refine ⟨front, others, word, op, behind, calleeEq, someFront, someOthers, isWord, known, written,
    ?_⟩
  rw [evaluate, String.toList_ofList, trimChars_chars named,
    shape_of_split (callShape?_eq_none named foreign) (hasLogicalOperator_chars plain named) split]
  simp only [known, Shape.holds]

end Foreign

end QuotedCall

/-! ## Predicates and expressions -/

/-- A query for a property of the file is answered as the expression that it is. So is a test of a
text, if the names of its path are words; otherwise it is compared at a word in front of its
argument, although it is an expression as well. -/
theorem evaluate_plainCall (now : Moment) (record : Record) {call : QuotedCall}
    (plain : call.HasPlainArgument) :
    (call.target = ["file".toList] → call.name = "hasProperty".toList →
      evaluate now record (String.ofList call.chars) =
          holdsAsExpression now record (String.ofList call.chars) ∧
        holdsAsExpression now record (String.ofList call.chars) =
          negateIf call.negated (record.hasProperty (String.ofList call.needle))) ∧
    (∀ test text, call.target ≠ [] →
      (∀ name ∈ call.target, isName (String.ofList name) = true) →
      TextTest.ofName? (String.ofList call.name) = some test →
      record.lookup (String.ofList call.path) = some (.text text) → text ≠ "" →
        holdsAsExpression now record (String.ofList call.chars) =
            negateIf call.negated (test.holds call.needle text.toList) ∧
          ((∀ name ∈ call.target, isWord name = true) →
            evaluate now record (String.ofList call.chars) =
              holdsAsExpression now record (String.ofList call.chars)) ∧
          ((∃ name ∈ call.target, isWord name = false) →
            ∃ front others word op behind,
              call.callee = front ++ others ∧ front ≠ [] ∧ others ≠ [] ∧
              word ∈ wordOperators ∧ ComparisonOp.ofText? (String.ofList word) = some op ∧
              others ++ call.argument = word ++ behind ∧
              evaluate now record (String.ofList call.chars) =
                compareValues (operand now record (String.ofList front)) op
                  (operand now record (String.ofList (Text.trimStart behind))))) := by
  constructor
  · intro target name
    have named : call.IsNamed := by
      refine ⟨by simp [target], fun part member => ?_, name ▸ by decide +kernel⟩
      rw [target, List.mem_singleton] at member
      exact member ▸ by decide +kernel
    have words : ∀ part ∈ call.target, isWord part = true := by
      intro part member
      rw [target, List.mem_singleton] at member
      exact member ▸ by decide
    have isQuery : call.path = "file".toList ∧ call.name = "hasProperty".toList :=
      ⟨by rw [QuotedCall.path, target]; rfl, name⟩
    have asExpression := QuotedCall.holdsAsExpression_chars now record plain named
      (QuotedCall.eval_question_query now record target name)
    have asked : call.test? = some fun record =>
        record.hasProperty (String.ofList call.needle) := by
      rw [QuotedCall.test?, if_pos isQuery]
    have answered := QuotedCall.evaluate_of_words now record plain named words
      (name ▸ by decide) asked
    exact ⟨answered.trans asExpression.symm, asExpression⟩
  · intro test text someTarget targetNames known found someText
    have isTest : call.name ∈ wordOperators := mem_wordOperators_of_ofName? known
    have testWords : ∀ word ∈ wordOperators,
        isName (String.ofList word) = true ∧ isWord word = true := by
      decide +kernel
    obtain ⟨nameNamed, nameWord⟩ := testWords call.name isTest
    have named : call.IsNamed := ⟨someTarget, targetNames, nameNamed⟩
    have asExpression := QuotedCall.holdsAsExpression_chars now record plain named
      (QuotedCall.eval_question_text now record someTarget known found)
    refine ⟨asExpression, fun words => ?_,
      QuotedCall.evaluate_of_foreign now record plain named isTest⟩
    have noQuery : ¬ (call.path = "file".toList ∧ call.name = "hasProperty".toList) := by
      rintro ⟨_, same⟩
      rw [same] at known
      cases known
    have asked : call.test? = some fun record =>
        test.holds call.needle (testedText record (String.ofList call.path)) := by
      rw [QuotedCall.test?, if_neg noQuery, known, Option.map_some]
    have tested : testedText record (String.ofList call.path) = text.toList := by
      simp [testedText, found, Value.isTruthy, someText, Value.displayChars]
    have answered := QuotedCall.evaluate_of_words now record plain named words nameWord asked
    rw [answered, asExpression, tested]

/-- `!note.title.startsWith('a (b) && c')` -/
def titleTest : QuotedCall where
  negated := true
  target := ["note".toList, "title".toList]
  name := "startsWith".toList
  opening := '\''
  needle := "a (b) && c".toList
  closing := '\''

def titledNote : Record :=
  OrderedMap.ofList [("title", .text "a (b) && c, d"), ("café", .text "crème")]

theorem evaluate_plainCall_title :
    titleTest.HasPlainArgument ∧
      titledNote.lookup (String.ofList titleTest.path) = some (.text "a (b) && c, d") ∧
      evaluate Moment.epoch titledNote (String.ofList titleTest.chars) =
        holdsAsExpression Moment.epoch titledNote (String.ofList titleTest.chars) := by
  have plain : titleTest.HasPlainArgument :=
    { opening_quote := by decide
      closing_eq := rfl
      needle_ne_nil := by decide
      needle_plain := by simp [titleTest, isQuote] }
  have found : titledNote.lookup (String.ofList titleTest.path) =
      some (.text "a (b) && c, d") := by rfl
  obtain ⟨_, asExpression, _⟩ := (evaluate_plainCall Moment.epoch titledNote plain).2 .startsWith
    "a (b) && c, d" (by decide) (by decide +kernel) (by decide) found (by decide)
  exact ⟨plain, found, asExpression (by decide)⟩

example : String.ofList titleTest.chars = "!note.title.startsWith('a (b) && c')" := by decide

/-- `café.contains('cr')` -/
def foreignTest : QuotedCall where
  negated := false
  target := ["café".toList]
  name := "contains".toList
  opening := '\''
  needle := "cr".toList
  closing := '\''

/-- The expression finds the needle in the property, and the predicate does not. -/
theorem titledNote_splitForeign :
    foreignTest.HasPlainArgument ∧
      (∀ name ∈ foreignTest.target, isName (String.ofList name) = true) ∧
      titledNote.lookup (String.ofList foreignTest.path) = some (.text "crème") ∧
      String.ofList foreignTest.chars = "café.contains('cr')" ∧
      holdsAsExpression Moment.epoch titledNote "café.contains('cr')" = true ∧
      evaluate Moment.epoch titledNote "café.contains('cr')" = false := by
  have plain : foreignTest.HasPlainArgument :=
    { opening_quote := by decide
      closing_eq := rfl
      needle_ne_nil := by decide
      needle_plain := by simp [foreignTest, isQuote] }
  exact ⟨plain, by decide +kernel, rfl, by decide, by decide +kernel, by decide +kernel⟩

end NoteBase.Predicate
