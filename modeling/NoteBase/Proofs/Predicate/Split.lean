import Mathlib.Data.List.Infix
import Mathlib.Data.List.TakeWhile
import NoteBase.Predicate.Shape
import NoteBase.Proofs.Text.Edges

/-!
# Where a comparison is split

A comparison is split at the first place, behind its first character, where an operator can stand.
That is the place of the operator that is meant if no operator stands inside the left side, and a
place inside the left side otherwise: neither quotes nor the letters around a word keep an operator
from being one.
-/

namespace NoteBase.Predicate

/-! ## Operators at the front -/

/-- An operator character or a word that is an operator stands at the front. -/
def startsOperator (chars : List Char) : Bool :=
  chars.head?.any isOperatorChar || wordOperators.any fun word => word.isPrefixOf chars

/-- An operator stands somewhere behind the first character. -/
def hasOperatorInside (chars : List Char) : Bool :=
  chars.tail.tails.any startsOperator

/-- An operator can stand at the front, perhaps behind blanks. -/
def Opens (chars : List Char) : Prop :=
  (splitOperator? (Text.trimStart chars)).isSome = true

theorem hasOperatorInside_iff (chars : List Char) :
    hasOperatorInside chars = true ↔
      ∃ rest, rest <:+ chars.tail ∧ startsOperator rest = true := by
  simp only [hasOperatorInside, List.any_eq_true, List.mem_tails]

theorem wordOperators_letters :
    ∀ word ∈ wordOperators, word ≠ [] ∧ ∀ char ∈ word, char.isAlpha = true := by
  have all : (wordOperators.all fun word => !word.isEmpty && word.all Char.isAlpha) = true := by
    decide
  simpa only [List.all_eq_true, Bool.and_eq_true, Bool.not_eq_true', List.isEmpty_eq_false_iff]
    using all

/-- The words of tests are words of operators. -/
theorem mem_wordOperators_of_ofName? {name : List Char} {test : TextTest}
    (known : TextTest.ofName? (String.ofList name) = some test) : name ∈ wordOperators := by
  have spelled : ∀ word : String, String.ofList name = word → name = word.toList := by
    rintro word rfl
    exact String.toList_ofList.symm
  unfold TextTest.ofName? at known
  split at known
  · next same => exact spelled _ same ▸ by decide
  · split at known
    · next same => exact spelled _ same ▸ by decide
    · split at known
      · next same =>
        rcases same with same | same
        · exact spelled _ same ▸ by decide
        · exact spelled _ same ▸ by decide
      · cases known

theorem isOperatorChar_head {chars : List Char} (noOperator : startsOperator chars = false) :
    ∀ char ∈ chars.head?, isOperatorChar char = false := by
  intro char head
  simp only [startsOperator, Option.mem_def.mp head, Option.any_some, Bool.or_eq_false_iff]
    at noOperator
  exact noOperator.1

/-- Where no operator character stands, only a word could be an operator. -/
theorem startsOperator_of_wordless {rest chars : List Char}
    (wordless : ∀ word ∈ wordOperators, ¬ word <:+: chars) (isInfix : rest <:+: chars)
    (noMark : ∀ char ∈ rest.head?, isOperatorChar char = false) :
    startsOperator rest = false := by
  have noWord : ∀ word ∈ wordOperators, word.isPrefixOf rest = false := by
    intro word member
    apply Bool.eq_false_iff.mpr
    intro isPrefix
    have inRest := (List.isPrefixOf_iff_prefix.mp isPrefix).isInfix
    exact wordless word member (inRest.trans isInfix)
  simp only [startsOperator, Bool.or_eq_false_iff, List.any_eq_false, Bool.not_eq_true]
  refine ⟨?_, noWord⟩
  cases head : rest.head? with
  | none => rfl
  | some char => exact noMark char head

theorem hasOperatorInside_of_wordless {chars : List Char}
    (wordless : ∀ word ∈ wordOperators, ¬ word <:+: chars)
    (noMark : ∀ char ∈ chars.tail, isOperatorChar char = false) :
    hasOperatorInside chars = false := by
  apply Bool.eq_false_iff.mpr
  intro inside
  obtain ⟨rest, suffix, starts⟩ := (hasOperatorInside_iff chars).mp inside
  have noStart := startsOperator_of_wordless wordless
    (suffix.trans (List.tail_suffix chars)).isInfix
    fun char head => noMark char (suffix.subset (List.mem_of_head? head))
  rw [noStart] at starts
  cases starts

theorem takeWhile_isOperatorChar_eq_nil {chars : List Char}
    (noOperator : startsOperator chars = false) : chars.takeWhile isOperatorChar = [] := by
  have taken := Text.takeWhile_append_of_head (isOperatorChar_head noOperator) []
  rwa [List.nil_append, List.takeWhile_nil] at taken

theorem splitOperator?_eq_none {chars : List Char} (noOperator : startsOperator chars = false) :
    splitOperator? chars = none := by
  have noRun := takeWhile_isOperatorChar_eq_nil noOperator
  have noWord : ∀ word ∈ wordOperators, word.isPrefixOf chars = false := by
    simp only [startsOperator, Bool.or_eq_false_iff, List.any_eq_false, Bool.not_eq_true]
      at noOperator
    exact noOperator.2
  unfold splitOperator?
  simp only [noRun, List.isEmpty_nil, if_true, List.findSome?_eq_none_iff]
  intro word member
  rw [if_neg (by rw [noWord word member]; exact Bool.false_ne_true)]

/-- In front of a character that is none of an operator, only a word can be taken as one. -/
theorem splitOperator?_word {chars op right : List Char}
    (noMark : ∀ char ∈ chars.head?, isOperatorChar char = false)
    (found : splitOperator? chars = some (op, right)) :
    op ∈ wordOperators ∧
      ∃ behind, chars = op ++ behind ∧ right = Text.trimStart behind ∧
        isRightSide right = true := by
  have noRun : chars.takeWhile isOperatorChar = [] := by
    cases chars with
    | nil => rfl
    | cons char rest => simp [noMark char rfl]
  unfold splitOperator? at found
  simp only [noRun, List.isEmpty_nil, if_true] at found
  obtain ⟨word, member, taken⟩ := List.exists_of_findSome?_eq_some found
  split at taken
  · next isPrefix =>
    obtain ⟨behind, rfl⟩ := List.isPrefixOf_iff_prefix.mp isPrefix
    rw [List.drop_left] at taken
    split at taken
    · next isRight =>
      obtain ⟨rfl, rfl⟩ := Prod.mk.inj (Option.some.inj taken)
      exact ⟨member, behind, rfl, rfl, isRight⟩
    · cases taken
  · cases taken

section Symbols

variable {symbol back : List Char}

theorem isOperatorChar_run (operators : ∀ char ∈ symbol, isOperatorChar char = true)
    (ends : ∀ char ∈ back.head?, isOperatorChar char = false) :
    (symbol ++ back).takeWhile isOperatorChar = symbol ∧
      (symbol ++ back).dropWhile isOperatorChar = back := by
  rw [Text.takeWhile_append_of_head ends, Text.takeWhile_eq_self operators,
    Text.dropWhile_append_of_head ends, Text.dropWhile_eq_nil operators, List.nil_append]
  exact ⟨rfl, rfl⟩

/-- Operator characters are taken as one operator, if something stands behind them. -/
theorem splitOperator?_symbol (nonempty : symbol ≠ [])
    (operators : ∀ char ∈ symbol, isOperatorChar char = true)
    (ends : ∀ char ∈ back.head?, isOperatorChar char = false)
    (right : isRightSide (Text.trimStart back) = true) :
    splitOperator? (symbol ++ back) = some (symbol, Text.trimStart back) := by
  obtain ⟨run, tail⟩ := isOperatorChar_run operators ends
  unfold splitOperator?
  simp [run, tail, nonempty, right]

/-- No operator is taken in front of a text with a line break. -/
theorem splitOperator?_broken (nonempty : symbol ≠ [])
    (operators : ∀ char ∈ symbol, isOperatorChar char = true)
    (ends : ∀ char ∈ back.head?, isOperatorChar char = false)
    (broken : '\n' ∈ Text.trimStart back) : splitOperator? (symbol ++ back) = none := by
  obtain ⟨run, tail⟩ := isOperatorChar_run operators ends
  have someBack : back ≠ [] := by
    rintro rfl
    cases broken
  have noRight : isRightSide (Text.trimStart back) = false := by
    simp [isRightSide, broken]
  unfold splitOperator?
  simp [run, tail, nonempty, someBack, noRight]

end Symbols

/-! ## The first place -/

section FirstPlace

variable {front back : List Char}

theorem splitComparisonFrom_of_opens {left rest : List Char} (opens : Opens rest) :
    ∃ op right, splitComparisonFrom left rest = some (left.reverse, op, right) ∧
      splitOperator? (Text.trimStart rest) = some (op, right) := by
  obtain ⟨⟨op, right⟩, found⟩ := Option.isSome_iff_exists.mp opens
  refine ⟨op, right, ?_, found⟩
  unfold splitComparisonFrom
  rw [found]

theorem splitComparisonFrom_cons {left rest : List Char} {char : Char}
    (closed : ¬ Opens (char :: rest)) (noBreak : char ≠ '\n') :
    splitComparisonFrom left (char :: rest) = splitComparisonFrom (char :: left) rest := by
  have none_ : splitOperator? (Text.trimStart (char :: rest)) = none :=
    Option.not_isSome_iff_eq_none.mp closed
  conv_lhs => unfold splitComparisonFrom
  simp only [none_, if_neg noBreak]

/-- Characters are passed if no operator can stand at any of them. -/
theorem splitComparisonFrom_append (noBreak : '\n' ∉ front)
    (closed : ∀ rest, rest <:+ front → rest ≠ [] → ¬ Opens (rest ++ back)) (left : List Char) :
    splitComparisonFrom left (front ++ back) =
      splitComparisonFrom (front.reverse ++ left) back := by
  induction front generalizing left with
  | nil => rfl
  | cons char front inductionHypothesis =>
      have here : ¬ Opens (char :: (front ++ back)) :=
        closed (char :: front) (List.suffix_refl _) (List.cons_ne_nil _ _)
      have noBreakHere : char ≠ '\n' := fun same => noBreak (same ▸ List.mem_cons_self)
      have later := inductionHypothesis (fun member => noBreak (List.mem_cons_of_mem _ member))
        (fun rest suffix => closed rest (suffix.trans (List.suffix_cons char front)))
        (char :: left)
      rw [List.cons_append, splitComparisonFrom_cons here noBreakHere, later, List.reverse_cons,
        List.append_assoc]
      rfl

/-- If an operator can stand at one of the characters, the text is split at one of them. -/
theorem splitComparisonFrom_inside (noBreak : '\n' ∉ front) {rest : List Char}
    (suffix : rest <:+ front) (nonempty : rest ≠ []) (opens : Opens (rest ++ back))
    (left : List Char) :
    ∃ passed others op right, front = passed ++ others ∧ others ≠ [] ∧
      splitComparisonFrom left (front ++ back) = some (left.reverse ++ passed, op, right) ∧
      splitOperator? (Text.trimStart (others ++ back)) = some (op, right) := by
  induction front generalizing left with
  | nil => exact absurd (List.suffix_nil.mp suffix) nonempty
  | cons char front inductionHypothesis =>
      by_cases here : Opens (char :: (front ++ back))
      · obtain ⟨op, right, split, found⟩ := @splitComparisonFrom_of_opens left _ here
        exact ⟨[], char :: front, op, right, rfl, List.cons_ne_nil _ _, by simpa using split, found⟩
      · have later : rest <:+ front := by
          rcases List.suffix_cons_iff.mp suffix with rfl | inner
          · exact absurd opens here
          · exact inner
        have noBreakHere : char ≠ '\n' := fun same => noBreak (same ▸ List.mem_cons_self)
        obtain ⟨passed, others, op, right, frontEq, some_, split, found⟩ := inductionHypothesis
          (fun member => noBreak (List.mem_cons_of_mem _ member)) later (char :: left)
        refine ⟨char :: passed, others, op, right, ?_, some_, ?_, found⟩
        · rw [frontEq]
          rfl
        · rw [List.cons_append, splitComparisonFrom_cons here noBreakHere, split,
            List.reverse_cons, List.append_assoc]
          rfl

theorem splitComparisonFrom_break {rest : List Char} (closed : ¬ Opens ('\n' :: rest))
    (left : List Char) : splitComparisonFrom left ('\n' :: rest) = none := by
  have none_ : splitOperator? (Text.trimStart ('\n' :: rest)) = none :=
    Option.not_isSome_iff_eq_none.mp closed
  conv_lhs => unfold splitComparisonFrom
  simp only [none_, if_true]

/-- Nothing is split at characters at which no operator can stand, be there a line break among them
or not, if nothing is split behind them. -/
theorem splitComparisonFrom_append_eq_none
    (closed : ∀ rest, rest <:+ front → rest ≠ [] → ¬ Opens (rest ++ back))
    (ends : ∀ left, splitComparisonFrom left back = none) (left : List Char) :
    splitComparisonFrom left (front ++ back) = none := by
  induction front generalizing left with
  | nil => exact ends left
  | cons char front inductionHypothesis =>
      have here : ¬ Opens (char :: (front ++ back)) :=
        closed (char :: front) (List.suffix_refl _) (List.cons_ne_nil _ _)
      by_cases lineBreak : char = '\n'
      · subst lineBreak
        exact splitComparisonFrom_break here left
      · rw [List.cons_append, splitComparisonFrom_cons here lineBreak]
        exact inductionHypothesis
          (fun rest suffix => closed rest (suffix.trans (List.suffix_cons char front))) _

end FirstPlace

/-! ## Operators inside a side -/

section Inside

variable {front back : List Char}

theorem isPrefixOf_append {word : List Char} (letters : ∀ char ∈ word, char.isAlpha = true)
    (ends : ∀ char ∈ back.head?, char.isAlpha = false) :
    word.isPrefixOf (front ++ back) = word.isPrefixOf front := by
  induction word generalizing front with
  | nil => simp
  | cons letter word inductionHypothesis =>
      have isLetter := letters letter List.mem_cons_self
      cases front with
      | nil =>
          cases back with
          | nil => rfl
          | cons char rest =>
              have different : letter ≠ char := by
                rintro rfl
                rw [ends letter rfl] at isLetter
                cases isLetter
              simp [List.isPrefixOf_cons_cons, different]
      | cons char front =>
          have later := @inductionHypothesis front fun next member =>
            letters next (List.mem_cons_of_mem _ member)
          rw [List.cons_append, List.isPrefixOf_cons_cons, List.isPrefixOf_cons_cons, later]

/-- What stands behind a text makes no operator at its front if it does not start with a letter. -/
theorem startsOperator_append (nonempty : front ≠ [])
    (ends : ∀ char ∈ back.head?, char.isAlpha = false) :
    startsOperator (front ++ back) = startsOperator front := by
  have words : (wordOperators.any fun word => word.isPrefixOf (front ++ back)) =
      wordOperators.any fun word => word.isPrefixOf front := by
    rw [Bool.eq_iff_iff, List.any_eq_true, List.any_eq_true]
    refine exists_congr fun word => and_congr_right fun member => ?_
    rw [isPrefixOf_append (wordOperators_letters word member).2 ends]
  rw [startsOperator, startsOperator, words, List.head?_append_of_ne_nil _ nonempty]

/-- Neither an operator character nor the first letter of a word is a blank. -/
theorem isBlank_of_startsOperator {char : Char} {rest : List Char}
    (starts : startsOperator (char :: rest) = true) : Text.isBlank char = false := by
  simp only [startsOperator, List.head?_cons, Option.any_some, Bool.or_eq_true,
    List.any_eq_true] at starts
  rcases starts with operator | ⟨word, member, isPrefix⟩
  · simp only [isOperatorChar, Bool.or_eq_true, beq_iff_eq] at operator
    rcases operator with ((rfl | rfl) | rfl) | rfl <;> decide
  · obtain ⟨nonempty, letters⟩ := wordOperators_letters word member
    obtain ⟨letter, others, rfl⟩ := List.exists_cons_of_ne_nil nonempty
    rw [List.isPrefixOf_cons_cons, Bool.and_eq_true, beq_iff_eq] at isPrefix
    exact isPrefix.1 ▸ Text.isBlank_of_isAlpha (letters letter List.mem_cons_self)

/-- Something stands on the right if a text is not blank at its end. -/
theorem isRightSide_append (noBreak : '\n' ∉ front ++ back)
    (shown : Text.trimStart back ≠ []) :
    isRightSide (Text.trimStart (front ++ back)) = true := by
  have kept : Text.trimStart (front ++ back) ≠ [] := by
    intro gone
    refine shown (List.dropWhile_eq_nil_iff.mpr fun char member => ?_)
    exact List.dropWhile_eq_nil_iff.mp gone char (List.mem_append_right _ member)
  have line : '\n' ∉ Text.trimStart (front ++ back) :=
    fun member => noBreak ((Text.trimStart_suffix _).subset member)
  simp [isRightSide, kept, line]

theorem opens_of_startsOperator (starts : startsOperator front = true)
    (noBreak : '\n' ∉ front ++ back)
    (ends : ∀ char ∈ back.head?, isOperatorChar char = false)
    (shown : Text.trimStart back ≠ []) : Opens (front ++ back) := by
  obtain ⟨first, rest, rfl⟩ : ∃ first rest, front = first :: rest := by
    cases front with
    | nil => exact absurd starts (by decide)
    | cons first rest => exact ⟨first, rest, rfl⟩
  have untrimmed : Text.trimStart (first :: rest ++ back) = first :: rest ++ back :=
    Text.trimStart_eq_self fun char head => Option.some.inj head ▸ isBlank_of_startsOperator starts
  have suffixRight : ∀ others, others <:+ first :: rest →
      isRightSide (Text.trimStart (others ++ back)) = true := by
    intro others suffix
    refine isRightSide_append (fun member => noBreak ?_) shown
    rcases List.mem_append.mp member with inOthers | inBack
    · exact List.mem_append_left _ (suffix.subset inOthers)
    · exact List.mem_append_right _ inBack
  rw [Opens, untrimmed]
  unfold splitOperator?
  by_cases operator : isOperatorChar first = true
  · have run : ((first :: rest ++ back).takeWhile isOperatorChar).isEmpty = false := by
      simp [operator]
    have tail : (first :: rest ++ back).dropWhile isOperatorChar =
        (first :: rest).dropWhile isOperatorChar ++ back :=
      Text.dropWhile_append_of_head ends _
    have right := suffixRight _ (List.dropWhile_suffix isOperatorChar)
    simp only [run, tail, right, Bool.false_eq_true, if_false, if_true, Option.isSome_some]
  · have noRun : (first :: rest ++ back).takeWhile isOperatorChar = [] := by
      simp [operator]
    simp only [startsOperator, List.head?_cons, Option.any_some, operator, Bool.false_or,
      List.any_eq_true] at starts
    obtain ⟨word, member, isPrefix⟩ := starts
    simp only [noRun, List.isEmpty_nil, if_true, List.isSome_findSome?, List.any_eq_true]
    refine ⟨word, member, ?_⟩
    have fits := (List.isPrefixOf_iff_prefix.mp isPrefix).length_le
    have longer : word.isPrefixOf (first :: rest ++ back) = true :=
      List.isPrefixOf_iff_prefix.mpr
        ((List.isPrefixOf_iff_prefix.mp isPrefix).trans (List.prefix_append _ _))
    have right := suffixRight _ (List.drop_suffix word.length (first :: rest))
    rw [← List.drop_append_of_le_length fits] at right
    rw [if_pos longer, if_pos right]
    rfl

end Inside

/-! ## Whole comparisons -/

section Whole

variable {left : List Char}

theorem splitComparison?_cons {first : Char} {rest : List Char} (noBreak : first ≠ '\n') :
    splitComparison? (first :: rest) = splitComparisonFrom [first] rest := by
  unfold splitComparison?
  exact if_neg noBreak

theorem isAlpha_of_isOperatorChar {char : Char} (operator : isOperatorChar char = true) :
    char.isAlpha = false ∧ Text.isBlank char = false := by
  simp only [isOperatorChar, Bool.or_eq_true, beq_iff_eq] at operator
  rcases operator with ((rfl | rfl) | rfl) | rfl <;> decide

/-- No letter stands in front of an operator behind blanks. -/
theorem isAlpha_gap {gap symbol back : List Char} (blank : ∀ char ∈ gap, Text.isBlank char = true)
    (some_ : symbol ≠ []) (operators : ∀ char ∈ symbol, isOperatorChar char = true) :
    ∀ char ∈ (gap ++ (symbol ++ back)).head?, char.isAlpha = false := by
  intro char head
  cases gap with
  | nil =>
      obtain ⟨mark, marks, rfl⟩ := List.exists_cons_of_ne_nil some_
      obtain rfl := Option.some.inj head
      exact (isAlpha_of_isOperatorChar (operators mark List.mem_cons_self)).1
  | cons space spaces =>
      obtain rfl := Option.some.inj head
      have isSpace := blank space List.mem_cons_self
      cases letter : space.isAlpha with
      | false => rfl
      | true =>
          rw [Text.isBlank_of_isAlpha letter] at isSpace
          cases isSpace

theorem trimStart_gap {gap symbol back : List Char} (blank : ∀ char ∈ gap, Text.isBlank char = true)
    (some_ : symbol ≠ []) (operators : ∀ char ∈ symbol, isOperatorChar char = true) :
    Text.trimStart (gap ++ (symbol ++ back)) = symbol ++ back := by
  obtain ⟨mark, marks, rfl⟩ := List.exists_cons_of_ne_nil some_
  refine Text.trimStart_blanks blank fun char head => ?_
  obtain rfl := Option.some.inj head
  exact (isAlpha_of_isOperatorChar (operators mark List.mem_cons_self)).2

/-- No operator can stand at the characters of a left side that holds none. -/
theorem not_opens_append {rest back : List Char} (noOperator : hasOperatorInside left = false)
    (suffix : rest <:+ left.tail) (nonempty : rest ≠ [])
    (shown : ∀ char ∈ left.getLast?, Text.isBlank char = false)
    (ends : ∀ char ∈ back.head?, char.isAlpha = false) : ¬ Opens (rest ++ back) := by
  have whole : rest <:+ left := suffix.trans (List.tail_suffix left)
  have restShown : ∀ char ∈ rest.getLast?, Text.isBlank char = false := by
    intro char last
    refine shown char ?_
    obtain ⟨front, rfl⟩ := whole
    rw [Option.mem_def, List.getLast?_append, Option.mem_def.mp last]
    rfl
  obtain ⟨trimmed, kept⟩ := Text.trimStart_append nonempty restShown back
  have closed : startsOperator (Text.trimStart rest) = false := by
    cases starts : startsOperator (Text.trimStart rest) with
    | false => rfl
    | true =>
        have inside := (hasOperatorInside_iff left).mpr
          ⟨_, (Text.trimStart_suffix rest).trans suffix, starts⟩
        rw [noOperator] at inside
        cases inside
  rw [Opens, trimmed, splitOperator?_eq_none (by rw [startsOperator_append kept ends, closed])]
  exact Bool.false_ne_true

/-- A comparison is split at its own operator if none stands inside its left side. -/
theorem splitComparison?_eq {gap symbol back : List Char} (nonempty : left ≠ [])
    (noBreak : '\n' ∉ left) (shown : ∀ char ∈ left.getLast?, Text.isBlank char = false)
    (noOperator : hasOperatorInside left = false)
    (blank : ∀ char ∈ gap, Text.isBlank char = true)
    (some_ : symbol ≠ []) (operators : ∀ char ∈ symbol, isOperatorChar char = true)
    (ends : ∀ char ∈ back.head?, isOperatorChar char = false)
    (right : isRightSide (Text.trimStart back) = true) :
    splitComparison? (left ++ (gap ++ (symbol ++ back))) =
      some (left, symbol, Text.trimStart back) := by
  obtain ⟨first, rest, rfl⟩ := List.exists_cons_of_ne_nil nonempty
  have found : splitOperator? (Text.trimStart (gap ++ (symbol ++ back))) =
      some (symbol, Text.trimStart back) := by
    rw [trimStart_gap blank some_ operators, splitOperator?_symbol some_ operators ends right]
  have letters := @isAlpha_gap gap symbol back blank some_ operators
  have passed := splitComparisonFrom_append
    (fun member => noBreak (List.mem_cons_of_mem first member))
    (fun others suffix someOthers => not_opens_append noOperator suffix someOthers shown letters)
    [first]
  obtain ⟨op, others, split, same⟩ :=
    @splitComparisonFrom_of_opens (rest.reverse ++ [first]) _ (Option.isSome_of_eq_some found)
  rw [found] at same
  obtain ⟨rfl, rfl⟩ := Prod.mk.inj (Option.some.inj same)
  rw [List.cons_append,
    splitComparison?_cons fun same => noBreak (same ▸ List.mem_cons_self), passed, split]
  simp

/-- A comparison is split inside its left side if an operator stands there. -/
theorem splitComparison?_inside {back : List Char} (operator : hasOperatorInside left = true)
    (noBreak : '\n' ∉ left ++ back)
    (ends : ∀ char ∈ back.head?, isOperatorChar char = false)
    (shown : Text.trimStart back ≠ []) :
    ∃ front others op right, left = front ++ others ∧ front ≠ [] ∧ others ≠ [] ∧
      splitComparison? (left ++ back) = some (front, op, right) ∧
      splitOperator? (Text.trimStart (others ++ back)) = some (op, right) := by
  obtain ⟨rest, suffix, starts⟩ := (hasOperatorInside_iff left).mp operator
  have nonempty : rest ≠ [] := by
    rintro rfl
    exact absurd starts (by decide)
  cases left with
  | nil => exact absurd (List.suffix_nil.mp suffix) nonempty
  | cons first tail =>
      have suffixLine : '\n' ∉ rest ++ back := by
        intro member
        refine noBreak ?_
        rcases List.mem_append.mp member with inRest | inBack
        · exact List.mem_append_left _ (List.mem_cons_of_mem _ (suffix.subset inRest))
        · exact List.mem_append_right _ inBack
      have tailLine : '\n' ∉ tail :=
        fun member => noBreak (List.mem_append_left _ (List.mem_cons_of_mem _ member))
      have opens := opens_of_startsOperator starts suffixLine ends shown
      obtain ⟨passed, others, op, right, tailEq, some_, split, found⟩ :=
        splitComparisonFrom_inside tailLine suffix nonempty opens [first]
      refine ⟨first :: passed, others, op, right, by rw [tailEq]; rfl, List.cons_ne_nil _ _, some_,
        ?_, found⟩
      rw [List.cons_append, splitComparison?_cons, split]
      · rfl
      · exact fun same => noBreak (same ▸ List.mem_cons_self)

/-! ### Texts without operators, and their first operator character -/

theorem splitComparison?_cons_eq_none {first : Char} {rest : List Char}
    (unsplit : splitComparisonFrom [first] rest = none) :
    splitComparison? (first :: rest) = none := by
  by_cases lineBreak : first = '\n'
  · rw [lineBreak]
    rfl
  · rw [splitComparison?_cons lineBreak, unsplit]

theorem splitComparisonFrom_eq_none_of_closed {rest : List Char}
    (closed : ∀ others, others <:+ rest → startsOperator others = false) (passed : List Char) :
    splitComparisonFrom passed rest = none := by
  have unopened : ∀ others, others <:+ rest → others ≠ [] → ¬ Opens (others ++ []) := by
    intro others suffix _
    have noOperator := closed _ ((Text.trimStart_suffix others).trans suffix)
    rw [List.append_nil, Opens, splitOperator?_eq_none noOperator]
    exact Bool.false_ne_true
  have unsplit := splitComparisonFrom_append_eq_none unopened (fun _ => rfl) passed
  rwa [List.append_nil] at unsplit

/-- A text without words of operators is not split if no operator character stands inside it. -/
theorem splitComparison?_eq_none {chars : List Char}
    (wordless : ∀ word ∈ wordOperators, ¬ word <:+: chars)
    (noMark : ∀ char ∈ chars.tail, isOperatorChar char = false) :
    splitComparison? chars = none := by
  cases chars with
  | nil => rfl
  | cons first rest =>
      apply splitComparison?_cons_eq_none
      apply splitComparisonFrom_eq_none_of_closed
      intro others suffix
      apply startsOperator_of_wordless wordless
      · exact (suffix.trans (List.suffix_cons first rest)).isInfix
      · intro char head
        exact noMark char (suffix.subset (List.mem_of_head? head))

/-- The first run of operator characters behind the first character of a text, with the blanks in
front of it apart from what is on its left. -/
theorem exists_firstRun {first mark : Char} {rest : List Char}
    (shown : Text.isBlank first = false) (member : mark ∈ rest)
    (operator : isOperatorChar mark = true) :
    ∃ left gap run back, first :: rest = left ++ (gap ++ (run ++ back)) ∧ left ≠ [] ∧
      (∀ char ∈ left.tail, isOperatorChar char = false) ∧
      (∀ char ∈ left.getLast?, Text.isBlank char = false) ∧
      (∀ char ∈ gap, Text.isBlank char = true) ∧ run ≠ [] ∧
      (∀ char ∈ run, isOperatorChar char = true) ∧
      ∀ char ∈ back.head?, isOperatorChar char = false := by
  let isFree := fun char => !isOperatorChar char
  obtain ⟨gap, frontEq, gapBlank, leftShown⟩ :=
    Text.exists_trimEnd (first :: rest.takeWhile isFree)
  generalize Text.trimEnd (first :: rest.takeWhile isFree) = left at frontEq leftShown
  have someLeft : left ≠ [] := by
    rintro rfl
    rw [List.nil_append] at frontEq
    have blank := gapBlank first (frontEq ▸ List.mem_cons_self)
    rw [shown] at blank
    cases blank
  have leftFree : ∀ char ∈ left.tail, isOperatorChar char = false := by
    intro char inLeft
    have inFront := List.mem_append_left gap inLeft
    rw [← List.tail_append_of_ne_nil someLeft, ← frontEq, List.tail_cons] at inFront
    simpa [isFree] using List.mem_takeWhile_imp inFront
  obtain ⟨start, others, behindEq⟩ : ∃ start others, rest.dropWhile isFree = start :: others := by
    apply List.exists_cons_of_ne_nil
    intro gone
    have free := List.dropWhile_eq_nil_iff.mp gone mark member
    simp [isFree, operator] at free
  have starts : isOperatorChar start = true := by
    have ends := List.head?_dropWhile_not isFree rest
    rw [behindEq] at ends
    simpa [isFree] using ends
  refine ⟨left, gap, (start :: others).takeWhile isOperatorChar,
    (start :: others).dropWhile isOperatorChar, ?_, someLeft, leftFree, leftShown, gapBlank, ?_, ?_,
    ?_⟩
  · rw [List.takeWhile_append_dropWhile, ← List.append_assoc, ← frontEq, ← behindEq,
      List.cons_append, List.takeWhile_append_dropWhile]
  · simp [starts]
  · intro char inRun
    exact List.mem_takeWhile_imp inRun
  · intro char head
    have ends := List.head?_dropWhile_not isOperatorChar (start :: others)
    rw [Option.mem_def.mp head] at ends
    simpa using ends

/-! ### Sides with a line break -/

/-- A text is not split behind a line break in its left side. -/
theorem splitComparison?_left_broken {back : List Char} (broken : '\n' ∈ left.tail)
    (shown : ∀ char ∈ left.getLast?, Text.isBlank char = false)
    (noOperator : hasOperatorInside left = false)
    (ends : ∀ char ∈ back.head?, char.isAlpha = false) :
    splitComparison? (left ++ back) = none := by
  cases left with
  | nil => cases broken
  | cons first tail =>
      obtain ⟨front, others, rfl⟩ := List.append_of_mem broken
      have closed : ∀ rest, rest <:+ front → ¬ Opens (rest ++ '\n' :: (others ++ back)) := by
        rintro rest ⟨passed, rfl⟩
        have suffix : rest ++ '\n' :: others <:+ passed ++ rest ++ '\n' :: others :=
          ⟨passed, by simp⟩
        have closed := not_opens_append noOperator suffix (by simp) shown ends
        simpa using closed
      rw [List.cons_append, List.append_assoc]
      apply splitComparison?_cons_eq_none
      exact splitComparisonFrom_append_eq_none (fun rest suffix _ => closed rest suffix)
        (splitComparisonFrom_break (closed [] List.nil_suffix)) [first]

/-- A text is not split in front of a right side with a line break. -/
theorem splitComparison?_right_broken {gap symbol back : List Char} (nonempty : left ≠ [])
    (shown : ∀ char ∈ left.getLast?, Text.isBlank char = false)
    (noOperator : hasOperatorInside left = false)
    (blank : ∀ char ∈ gap, Text.isBlank char = true)
    (some_ : symbol ≠ []) (operators : ∀ char ∈ symbol, isOperatorChar char = true)
    (ends : ∀ char ∈ back.head?, isOperatorChar char = false)
    (broken : '\n' ∈ Text.trimStart back)
    (behind : ∀ rest, rest <:+ back → startsOperator rest = false) :
    splitComparison? (left ++ (gap ++ (symbol ++ back))) = none := by
  obtain ⟨first, rest, rfl⟩ := List.exists_cons_of_ne_nil nonempty
  have unsplitBack : ∀ passed, splitComparisonFrom passed back = none :=
    splitComparisonFrom_eq_none_of_closed behind
  have unsplitSymbol : ∀ passed, splitComparisonFrom passed (symbol ++ back) = none := by
    refine splitComparisonFrom_append_eq_none (fun others suffix someOthers => ?_) unsplitBack
    have marks : ∀ char ∈ others, isOperatorChar char = true :=
      fun char member => operators char (suffix.subset member)
    have trimmed := @trimStart_gap [] others back nofun someOthers marks
    rw [List.nil_append] at trimmed
    rw [Opens, trimmed, splitOperator?_broken someOthers marks ends broken]
    exact Bool.false_ne_true
  have unsplitGap : ∀ passed, splitComparisonFrom passed (gap ++ (symbol ++ back)) = none := by
    refine splitComparisonFrom_append_eq_none (fun others suffix _ => ?_) unsplitSymbol
    have spaces : ∀ char ∈ others, Text.isBlank char = true :=
      fun char member => blank char (suffix.subset member)
    rw [Opens, trimStart_gap spaces some_ operators,
      splitOperator?_broken some_ operators ends broken]
    exact Bool.false_ne_true
  have letters := @isAlpha_gap gap symbol back blank some_ operators
  rw [List.cons_append]
  apply splitComparison?_cons_eq_none
  exact splitComparisonFrom_append_eq_none
    (fun others suffix someOthers => not_opens_append noOperator suffix someOthers shown letters)
    unsplitGap [first]

end Whole

end NoteBase.Predicate
