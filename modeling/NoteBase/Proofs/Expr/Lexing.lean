import NoteBase.Proofs.Expr.Grammar
import NoteBase.Proofs.Text.Edges

/-!
# Tokens of joined texts

A token is as long as it can be, so that what stands behind it may make it longer. If it cannot, the
tokens of two texts one behind the other are the tokens of the first and those of the second. Valid
tokens do not tell where their text starts.
-/

namespace NoteBase.Expr

open NoteBase.Expr.Grammar (Valid)

/-! ## Characters of names -/

/-- The code points of decimal digits. -/
def digitCodes : List Nat :=
  List.range' 0x30 10

theorem toNat_mem_digitCodes {char : Char} (digit : char.isDigit = true) :
    char.toNat ∈ digitCodes := by
  simp only [Char.isDigit, Bool.and_eq_true, decide_eq_true_eq, UInt32.le_iff_toNat_le] at digit
  obtain ⟨low, high⟩ := digit
  have fromZero : 0x30 ≤ char.toNat := low
  have uptoNine : char.toNat ≤ 0x39 := high
  exact List.mem_range'_1.mpr ⟨fromZero, by omega⟩

theorem letters_digitCodes :
    ∀ code ∈ digitCodes,
      Text.alphabetic.contains code = false ∧ Text.numeric.contains code = true := by
  decide +kernel

theorem isNameChar_of_isDigit {char : Char} (digit : char.isDigit = true) :
    isNameChar char = true := by
  have numeral := (letters_digitCodes _ (toNat_mem_digitCodes digit)).2
  simp [isNameChar, Text.isAlphanumeric, Text.isNumeric, numeral]

theorem isNameStart_of_isDigit {char : Char} (digit : char.isDigit = true) :
    isNameStart char = false := by
  have noLetter := (letters_digitCodes _ (toNat_mem_digitCodes digit)).1
  have noUnderscore : char ≠ '_' := by
    rintro rfl
    revert digit
    decide
  have noDollar : char ≠ '$' := by
    rintro rfl
    revert digit
    decide
  simp [isNameStart, Text.isAlphabetic, noLetter, noUnderscore, noDollar]

theorem isNameChar_of_isNameStart {char : Char} (start : isNameStart char = true) :
    isNameChar char = true := by
  simp only [isNameStart, Bool.or_eq_true] at start
  rcases start with (alphabetic | underscore) | dollar
  · simp [isNameChar, Text.isAlphanumeric, alphabetic]
  · simp [isNameChar, underscore]
  · simp [isNameChar, dollar]

/-- The code points of blanks. -/
def blankCodes : List Nat :=
  [9, 10, 11, 12, 13, 0x20, 0x85, 0xA0, 0x1680, 0x2000, 0x2001, 0x2002, 0x2003, 0x2004, 0x2005,
    0x2006, 0x2007, 0x2008, 0x2009, 0x200A, 0x2028, 0x2029, 0x202F, 0x205F, 0x3000]

theorem toNat_mem_blankCodes {char : Char} (blank : Text.isBlank char = true) :
    char.toNat ∈ blankCodes := by
  simp only [Text.isBlank, Bool.or_eq_true, Bool.and_eq_true, decide_eq_true_eq, beq_iff_eq]
    at blank
  simp only [blankCodes, List.mem_cons, List.not_mem_nil, or_false]
  omega

theorem isNameChar_of_isBlank {char : Char} (blank : Text.isBlank char = true) :
    isNameChar char = false := by
  have letters : ∀ code ∈ blankCodes,
      Text.alphabetic.contains code = false ∧ Text.numeric.contains code = false := by
    decide +kernel
  obtain ⟨noLetter, noNumeral⟩ := letters _ (toNat_mem_blankCodes blank)
  have noUnderscore : char ≠ '_' := by
    rintro rfl
    revert blank
    decide
  have noDollar : char ≠ '$' := by
    rintro rfl
    revert blank
    decide
  simp [isNameChar, Text.isAlphanumeric, Text.isAlphabetic, Text.isNumeric, noLetter, noNumeral,
    noUnderscore, noDollar]

theorem isBlank_of_isNameChar {char : Char} (name : isNameChar char = true) :
    Text.isBlank char = false := by
  cases blank : Text.isBlank char with
  | false => rfl
  | true =>
      rw [isNameChar_of_isBlank blank] at name
      cases name

/-! ## Texts that end a token -/

/-- No token at the end of `front` goes on in `back`. -/
structure Separates (front back : List Char) : Prop where
  head : ∀ char ∈ back.head?, isNameChar char = false ∧ char ≠ '+' ∧ char ≠ '-'
  point : ∀ char rest, back = '.' :: char :: rest → char.isDigit = false
  equals : back.head? = some '=' → ∀ char ∈ front.getLast?, char ∉ ['=', '!', '<', '>']

theorem separates_nil (front : List Char) : Separates front [] :=
  ⟨nofun, nofun, nofun⟩

theorem separates_cons {mark : Char} {rest : List Char} (front : List Char)
    (ends : isNameChar mark = false)
    (different : mark ∉ ['+', '-', '.', '=']) : Separates front (mark :: rest) := by
  simp only [List.mem_cons, List.not_mem_nil, or_false, not_or] at different
  obtain ⟨noPlus, noMinus, noPoint, noEquals⟩ := different
  refine ⟨?_, ?_, ?_⟩
  · intro char head
    obtain rfl := Option.some.inj head
    exact ⟨ends, noPlus, noMinus⟩
  · intro char others same
    exact absurd (List.cons.inj same).1 noPoint
  · intro head
    exact absurd (Option.some.inj head) noEquals

theorem separates_blank {mark : Char} {rest : List Char} (front : List Char)
    (blank : Text.isBlank mark = true) : Separates front (mark :: rest) := by
  refine separates_cons front (isNameChar_of_isBlank blank) ?_
  simp only [List.mem_cons, List.not_mem_nil, or_false, not_or]
  refine ⟨?_, ?_, ?_, ?_⟩ <;> (rintro rfl; revert blank; decide)

theorem separates_blanks {blanks : List Char}
    (blank : ∀ char ∈ blanks, Text.isBlank char = true) (front : List Char) :
    Separates front blanks := by
  cases blanks with
  | nil => exact separates_nil front
  | cons char rest => exact separates_blank front (blank char List.mem_cons_self)

namespace Separates

variable {front back : List Char}

theorem of_cons {char : Char} (separates : Separates (char :: front) back) :
    Separates front back := by
  refine ⟨separates.head, separates.point, fun equals last member => ?_⟩
  refine separates.equals equals last ?_
  cases front with
  | nil => cases member
  | cons next rest => exact member

theorem drop (separates : Separates front back) (count : Nat) :
    Separates (front.drop count) back := by
  induction count generalizing front with
  | zero => exact separates
  | succ count inductionHypothesis =>
      cases front with
      | nil => exact separates
      | cons char rest => exact inductionHypothesis separates.of_cons

theorem head_isDigit (separates : Separates front back) :
    ∀ char ∈ back.head?, char.isDigit = false := by
  intro char head
  cases digit : char.isDigit with
  | false => rfl
  | true =>
      have name := isNameChar_of_isDigit digit
      rw [(separates.head char head).1] at name
      cases name

theorem head_ne {char : Char} (separates : Separates front back)
    (name : isNameChar char = true) : back.head? ≠ some char := by
  intro head
  have noName := (separates.head char head).1
  rw [name] at noName
  cases noName

/-- An operator that the text ends with is not made longer by an equals sign. -/
theorem head_ne_equals {char : Char} (separates : Separates [char] back)
    (operator : char ∈ ['=', '!', '<', '>']) : back.head? ≠ some '=' :=
  fun head => separates.equals head char rfl operator

end Separates

/-! ## One token in front of another text -/

/-! ### Numbers -/

section Numbers

variable {front back : List Char}

theorem fractionLength_append (separates : Separates front back) :
    fractionLength (front ++ back) = fractionLength front := by
  cases front with
  | nil =>
      cases back with
      | nil => rfl
      | cons mark rest =>
          by_cases point : mark = '.'
          · subst point
            have noDigits : rest.takeWhile Char.isDigit = [] := by
              cases rest with
              | nil => rfl
              | cons char rest => simp [separates.point char rest rfl]
            simp [fractionLength, noDigits]
          · simp [fractionLength, point]
  | cons mark rest =>
      by_cases point : mark = '.'
      · subst point
        simp only [List.cons_append, fractionLength,
          Text.takeWhile_append_of_head separates.head_isDigit]
      · simp [fractionLength, point]

theorem exponentLength_append (separates : Separates front back) :
    exponentLength (front ++ back) = exponentLength front := by
  cases front with
  | nil =>
      cases back with
      | nil => rfl
      | cons mark rest =>
          have small : mark ≠ 'e' := fun same => separates.head_ne (by decide) (congrArg some same)
          have capital : mark ≠ 'E' :=
            fun same => separates.head_ne (by decide) (congrArg some same)
          simp [exponentLength, small, capital]
  | cons mark rest =>
      cases rest with
      | nil =>
          have noDigits : back.takeWhile Char.isDigit = [] := by
            simpa using Text.takeWhile_append_of_head separates.head_isDigit []
          cases back with
          | nil => rfl
          | cons sign others =>
              obtain ⟨_, noPlus, noMinus⟩ := separates.head sign rfl
              simp [exponentLength, noPlus, noMinus, noDigits]
      | cons sign others =>
          by_cases plus : sign = '+'
          · subst plus
            simp [exponentLength, Text.takeWhile_append_of_head separates.head_isDigit]
          · by_cases minus : sign = '-'
            · subst minus
              simp [exponentLength, Text.takeWhile_append_of_head separates.head_isDigit]
            · have taken := Text.takeWhile_append_of_head separates.head_isDigit (sign :: others)
              simp only [List.cons_append] at taken
              simp [exponentLength, plus, minus, taken]

theorem fractionLength_le (chars : List Char) : fractionLength chars ≤ chars.length := by
  unfold fractionLength
  split
  · next rest =>
    have digits := (List.takeWhile_sublist (l := rest) Char.isDigit).length_le
    simp only [List.length_cons]
    split <;> omega
  · exact Nat.zero_le _

theorem exponentLength_le (chars : List Char) : exponentLength chars ≤ chars.length := by
  unfold exponentLength
  split
  · next mark rest =>
    split
    · have signed : ∀ signLength, signLength ≤ rest.length →
          (if ((rest.drop signLength).takeWhile Char.isDigit).isEmpty then 0
            else 1 + signLength + ((rest.drop signLength).takeWhile Char.isDigit).length) ≤
          rest.length + 1 := by
        intro signLength fits
        have digits :=
          (List.takeWhile_sublist (l := rest.drop signLength) Char.isDigit).length_le
        rw [List.length_drop] at digits
        split <;> omega
      split <;> exact signed _ (by simp)
    · exact Nat.zero_le _
  · exact Nat.zero_le _

theorem numberLength_le (chars : List Char) : numberLength chars ≤ chars.length := by
  have whole := (List.takeWhile_sublist (l := chars) Char.isDigit).length_le
  have fraction := fractionLength_le (chars.drop (chars.takeWhile Char.isDigit).length)
  rw [List.length_drop] at fraction
  have exponent := exponentLength_le (chars.drop ((chars.takeWhile Char.isDigit).length +
    fractionLength (chars.drop (chars.takeWhile Char.isDigit).length)))
  rw [List.length_drop] at exponent
  unfold numberLength
  dsimp only
  omega

theorem hasLeadingZero_append (separates : Separates front back) :
    hasLeadingZero (front ++ back) = hasLeadingZero front := by
  rw [hasLeadingZero, Text.takeWhile_append_of_head separates.head_isDigit, hasLeadingZero]

theorem numberLength_append (separates : Separates front back) :
    numberLength (front ++ back) = numberLength front := by
  have whole := Text.takeWhile_append_of_head separates.head_isDigit front
  have wholeFits := (List.takeWhile_sublist (l := front) Char.isDigit).length_le
  have fraction := fractionLength_append (separates.drop (front.takeWhile Char.isDigit).length)
  have fractionFits := fractionLength_le (front.drop (front.takeWhile Char.isDigit).length)
  rw [List.length_drop] at fractionFits
  unfold numberLength
  dsimp only
  rw [whole, List.drop_append_of_le_length wholeFits, fraction,
    List.drop_append_of_le_length (by omega), exponentLength_append (separates.drop _)]

end Numbers

/-! ### Texts in quotes -/

theorem stringBody?_cons {quote char : Char} (plain : char ≠ '\\') (rest : List Char) :
    stringBody? quote (char :: rest) =
      if char = quote then some ([], 1)
      else (stringBody? quote rest).map fun (body, taken) => (char :: body, taken + 1) :=
  stringBody?.eq_4 quote char rest plain

theorem stringBody?_append {quote : Char} {chars : List Char} {body : List Char} {taken : Nat}
    (found : stringBody? quote chars = some (body, taken)) (back : List Char) :
    stringBody? quote (chars ++ back) = some (body, taken) ∧ taken ≤ chars.length := by
  fun_induction stringBody? quote chars generalizing body taken with
  | case1 => cases found
  | case2 => cases found
  | case3 escaped rest inductionHypothesis =>
      obtain ⟨⟨inner, count⟩, innerFound, same⟩ := Option.map_eq_some_iff.mp found
      obtain ⟨rfl, rfl⟩ := Prod.mk.inj same
      obtain ⟨appended, fits⟩ := inductionHypothesis innerFound
      refine ⟨?_, ?_⟩
      · simp [stringBody?, appended]
      · simp only [List.length_cons]
        omega
  | case4 rest noBackslash =>
      obtain ⟨rfl, rfl⟩ := Prod.mk.inj (Option.some.inj found)
      refine ⟨?_, ?_⟩
      · rw [List.cons_append, stringBody?_cons noBackslash, if_pos rfl]
      · simp
  | case5 char rest noBackslash different inductionHypothesis =>
      obtain ⟨⟨inner, count⟩, innerFound, same⟩ := Option.map_eq_some_iff.mp found
      obtain ⟨rfl, rfl⟩ := Prod.mk.inj same
      obtain ⟨appended, fits⟩ := inductionHypothesis innerFound
      refine ⟨?_, ?_⟩
      · rw [List.cons_append, stringBody?_cons noBackslash, if_neg different, appended]
        rfl
      · simp only [List.length_cons]
        omega

/-! ### Tokens -/

section Tokens

variable {char : Char} {rest back : List Char}

/-- Characters with which a token starts that is neither a text nor a number nor a name. -/
def signs : List Char :=
  ['(', ')', ',', '.', '+', '-', '*', '/', '%', '=', '!', '<', '>', '&', '|']

/-- The token that starts with any character that is no sign. -/
def plainLexeme (position : Nat) (char : Char) (rest : List Char) : Token × Nat :=
  if char = '\'' ∨ char = '"' then
    match stringBody? char rest with
    | some (body, taken) => (.text (String.ofList body), taken)
    | none => (.invalid (.unterminatedString position), rest.length)
  else if char.isDigit then
    if hasLeadingZero (char :: rest) then (.invalid (.leadingZero position), rest.length)
    else
      let length := numberLength (char :: rest)
      (numberToken ((char :: rest).take length), length - 1)
  else if isNameStart char then
    let tail := rest.takeWhile isNameChar
    (nameToken (char :: tail), tail.length)
  else (.invalid (.unexpectedChar char position), rest.length)

theorem lexeme_eq_plainLexeme (position : Nat) (plain : char ∉ signs) (rest : List Char) :
    lexeme position char rest = plainLexeme position char rest := by
  simp only [signs, List.mem_cons, List.not_mem_nil, or_false, not_or] at plain
  unfold lexeme
  split
  all_goals first
    | rfl
    | simp_all

theorem plainLexeme_append {position : Nat} (separates : Separates (char :: rest) back)
    (valid : ∀ error, (plainLexeme position char rest).1 ≠ .invalid error) (start : Nat) :
    plainLexeme start char (rest ++ back) = plainLexeme position char rest ∧
      (plainLexeme position char rest).2 ≤ rest.length := by
  unfold plainLexeme at valid ⊢
  by_cases quote : char = '\'' ∨ char = '"'
  · simp only [if_pos quote] at valid ⊢
    cases found : stringBody? char rest with
    | none =>
        rw [found] at valid
        exact absurd rfl (valid (.unterminatedString position))
    | some read =>
        obtain ⟨appended, fits⟩ := stringBody?_append found back
        rw [appended]
        exact ⟨rfl, fits⟩
  · simp only [if_neg quote] at valid ⊢
    by_cases digit : char.isDigit = true
    · simp only [if_pos digit] at valid ⊢
      have zeros := hasLeadingZero_append separates
      have length := numberLength_append separates
      have fits := numberLength_le (char :: rest)
      rw [List.cons_append] at zeros length
      by_cases leading : hasLeadingZero (char :: rest) = true
      · simp only [if_pos leading] at valid
        exact absurd rfl (valid (.leadingZero position))
      · rw [zeros, if_neg leading, if_neg leading, length, ← List.cons_append,
          List.take_append_of_le_length fits]
        refine ⟨rfl, ?_⟩
        simp only [List.length_cons] at fits ⊢
        omega
    · simp only [if_neg digit] at valid ⊢
      by_cases start : isNameStart char = true
      · have name :=
          Text.takeWhile_append_of_head (fun next head => (separates.head next head).1) rest
        rw [if_pos start, if_pos start, name]
        exact ⟨rfl, (List.takeWhile_sublist isNameChar).length_le⟩
      · simp only [if_neg start] at valid
        exact absurd rfl (valid (.unexpectedChar char position))

/-- The number of equals signs at the front. -/
def equalsCount (chars : List Char) : Nat :=
  (chars.takeWhile (· = '=')).length

theorem equalsCount_le (chars : List Char) : equalsCount chars ≤ chars.length :=
  (List.takeWhile_sublist _).length_le

theorem equalsCount_cons (rest : List Char) : equalsCount ('=' :: rest) = equalsCount rest + 1 :=
  rfl

theorem equalsCount_cons_of_ne (different : char ≠ '=') (rest : List Char) :
    equalsCount (char :: rest) = 0 := by
  simp [equalsCount, different]

theorem equalsCount_append (operator : char ∈ ['=', '!', '<', '>'])
    (separates : Separates (char :: rest) back) :
    equalsCount (rest ++ back) = equalsCount rest := by
  induction rest generalizing char with
  | nil =>
      have noEquals := separates.head_ne_equals operator
      cases back with
      | nil => rfl
      | cons next others => exact equalsCount_cons_of_ne (fun same => noEquals (by simp [same])) _
  | cons next rest inductionHypothesis =>
      by_cases equals : next = '='
      · subst equals
        rw [List.cons_append, equalsCount_cons, equalsCount_cons,
          inductionHypothesis (by decide) separates.of_cons]
      · rw [List.cons_append, equalsCount_cons_of_ne equals, equalsCount_cons_of_ne equals]

theorem lexeme_equals (position : Nat) (rest : List Char) :
    lexeme position '=' rest =
      if 2 ≤ equalsCount rest then (.strictEq, 2)
      else if 1 ≤ equalsCount rest then (.eq, 1)
      else (.invalid (.unexpectedChar '=' position), rest.length) := by
  have noName : isNameStart '=' = false := by decide
  rcases rest with _ | ⟨first, _ | ⟨second, rest⟩⟩
  · rfl
  all_goals by_cases firstEquals : first = '='
  · simp [lexeme, firstEquals, equalsCount]
  · simp [lexeme, firstEquals, equalsCount, noName]
  · by_cases secondEquals : second = '=' <;> simp [lexeme, firstEquals, secondEquals, equalsCount]
  · simp [lexeme, firstEquals, equalsCount, noName]

theorem lexeme_bang (position : Nat) (rest : List Char) :
    lexeme position '!' rest =
      if 2 ≤ equalsCount rest then (.strictNe, 2)
      else if 1 ≤ equalsCount rest then (.ne, 1)
      else (.not, 0) := by
  rcases rest with _ | ⟨first, _ | ⟨second, rest⟩⟩
  · rfl
  all_goals by_cases firstEquals : first = '='
  · simp [lexeme, firstEquals, equalsCount]
  · simp [lexeme, firstEquals, equalsCount]
  · by_cases secondEquals : second = '=' <;> simp [lexeme, firstEquals, secondEquals, equalsCount]
  · simp [lexeme, firstEquals, equalsCount]

theorem lexeme_less (position : Nat) (rest : List Char) :
    lexeme position '<' rest = if 1 ≤ equalsCount rest then (.le, 1) else (.lt, 0) := by
  rcases rest with _ | ⟨first, rest⟩
  · rfl
  · by_cases equals : first = '=' <;> simp [lexeme, equals, equalsCount]

theorem lexeme_greater (position : Nat) (rest : List Char) :
    lexeme position '>' rest = if 1 ≤ equalsCount rest then (.ge, 1) else (.gt, 0) := by
  rcases rest with _ | ⟨first, rest⟩
  · rfl
  · by_cases equals : first = '=' <;> simp [lexeme, equals, equalsCount]

/-- `&` and `|` are no tokens on their own. -/
theorem exists_of_lexeme_double {position : Nat} (double : char = '&' ∨ char = '|')
    (valid : ∀ error, (lexeme position char rest).1 ≠ .invalid error) :
    ∃ tail, rest = char :: tail := by
  cases rest with
  | nil =>
      rcases double with rfl | rfl <;> exact absurd rfl (valid (.unexpectedChar _ position))
  | cons first tail =>
      by_cases doubled : first = char
      · exact ⟨tail, by rw [doubled]⟩
      · have noName : isNameStart '&' = false ∧ isNameStart '|' = false := by decide
        refine absurd ?_ (valid (.unexpectedChar char position))
        rcases double with rfl | rfl <;> simp [lexeme, doubled, noName]

theorem signLexeme_append {position : Nat} (sign : char ∈ signs)
    (separates : Separates (char :: rest) back)
    (valid : ∀ error, (lexeme position char rest).1 ≠ .invalid error) (start : Nat) :
    lexeme start char (rest ++ back) = lexeme position char rest ∧
      (lexeme position char rest).2 ≤ rest.length := by
  have equals := fun operator => equalsCount_append operator separates
  have fits := equalsCount_le rest
  simp only [signs, List.mem_cons, List.not_mem_nil, or_false] at sign
  rcases sign with rfl | rfl | rfl | rfl | rfl | rfl | rfl | rfl | rfl | rfl | rfl | rfl | rfl |
    rfl | rfl
  iterate 9 exact ⟨rfl, Nat.zero_le _⟩
  · rw [lexeme_equals] at valid
    rw [lexeme_equals, lexeme_equals, equals (by decide)]
    by_cases one : 1 ≤ equalsCount rest
    · rw [if_pos one]
      split
      · exact ⟨rfl, by omega⟩
      · exact ⟨rfl, by omega⟩
    · rw [if_neg (by omega), if_neg one] at valid
      exact absurd rfl (valid (.unexpectedChar '=' position))
  · rw [lexeme_bang, lexeme_bang, equals (by decide)]
    refine ⟨rfl, ?_⟩
    split
    · omega
    · split <;> omega
  · rw [lexeme_less, lexeme_less, equals (by decide)]
    exact ⟨rfl, by split <;> omega⟩
  · rw [lexeme_greater, lexeme_greater, equals (by decide)]
    exact ⟨rfl, by split <;> omega⟩
  · obtain ⟨tail, rfl⟩ := exists_of_lexeme_double (.inl rfl) valid
    exact ⟨rfl, Nat.le_add_left 1 _⟩
  · obtain ⟨tail, rfl⟩ := exists_of_lexeme_double (.inr rfl) valid
    exact ⟨rfl, Nat.le_add_left 1 _⟩

/-- A token that is valid is the same one in front of a text that does not go on with it. -/
theorem lexeme_append {position : Nat} (separates : Separates (char :: rest) back)
    (valid : ∀ error, (lexeme position char rest).1 ≠ .invalid error) (start : Nat) :
    lexeme start char (rest ++ back) = lexeme position char rest ∧
      (lexeme position char rest).2 ≤ rest.length := by
  by_cases sign : char ∈ signs
  · exact signLexeme_append sign separates valid start
  · rw [lexeme_eq_plainLexeme position sign] at valid ⊢
    rw [lexeme_eq_plainLexeme start sign]
    exact plainLexeme_append separates valid start

end Tokens

/-! ## All tokens -/

theorem Grammar.Valid.of_cons {token : Token} {rest : List Token} (valid : Valid (token :: rest)) :
    (∀ error, token ≠ .invalid error) ∧ Valid rest := by
  refine ⟨fun error same => ?_, fun error member => ?_⟩
  · exact valid error (same ▸ List.mem_cons_self)
  · exact valid error (List.mem_cons_of_mem _ member)

theorem tokensFrom_cons_of_isBlank {char : Char} (blank : Text.isBlank char = true)
    (position : Nat) (rest : List Char) :
    tokensFrom position 0 (char :: rest) = tokensFrom (position + 1) 0 rest := by
  rw [tokensFrom, if_pos blank]

theorem tokensFrom_blanks {blanks : List Char}
    (blank : ∀ char ∈ blanks, Text.isBlank char = true) (position : Nat) (rest : List Char) :
    tokensFrom position 0 (blanks ++ rest) = tokensFrom (position + blanks.length) 0 rest := by
  induction blanks generalizing position with
  | nil => rfl
  | cons char blanks inductionHypothesis =>
      rw [List.cons_append, tokensFrom_cons_of_isBlank (blank char List.mem_cons_self),
        inductionHypothesis fun next member => blank next (List.mem_cons_of_mem _ member),
        List.length_cons, Nat.add_assoc, Nat.add_comm 1]

/-- The characters of the token before are passed. -/
theorem tokensFrom_skip (position skip : Nat) (chars : List Char) :
    tokensFrom position skip chars = tokensFrom (position + skip) 0 (chars.drop skip) := by
  induction chars generalizing position skip with
  | nil => cases skip <;> rfl
  | cons char rest inductionHypothesis =>
      cases skip with
      | zero => rfl
      | succ skip =>
          rw [tokensFrom, inductionHypothesis, List.drop_succ_cons, Nat.add_assoc, Nat.add_comm 1]

theorem tokensFrom_cons {char : Char} (noBlank : Text.isBlank char = false)
    (position : Nat) (rest : List Char) :
    tokensFrom position 0 (char :: rest) =
      (lexeme position char rest).1 ::
        tokensFrom (position + 1) (lexeme position char rest).2 rest := by
  rw [tokensFrom, if_neg (by rw [noBlank]; exact Bool.false_ne_true)]

/-- The tokens of a text in front of another one that does not go on with the last of them. The
positions at which the text starts need not be the same. -/
theorem tokensFrom_append {front back : List Char} {position skip : Nat}
    (fits : skip ≤ front.length) (separates : Separates front back)
    (valid : Valid (tokensFrom position skip front)) (start : Nat) :
    tokensFrom start skip (front ++ back) =
      tokensFrom position skip front ++ tokensFrom (start + front.length) 0 back := by
  induction front generalizing position skip start with
  | nil =>
      obtain rfl : skip = 0 := Nat.le_zero.mp fits
      rfl
  | cons char rest inductionHypothesis =>
      have behind : start + 1 + rest.length = start + (char :: rest).length := by
        rw [List.length_cons, Nat.add_assoc, Nat.add_comm 1]
      cases skip with
      | succ skip =>
          have inner := inductionHypothesis (Nat.le_of_succ_le_succ fits) separates.of_cons valid
            (start + 1)
          rwa [behind] at inner
      | zero =>
          cases blank : Text.isBlank char with
          | true =>
              rw [tokensFrom_cons_of_isBlank blank] at valid ⊢
              have inner := inductionHypothesis (Nat.zero_le _) separates.of_cons valid (start + 1)
              rwa [List.cons_append, tokensFrom_cons_of_isBlank blank, ← behind]
          | false =>
              rw [tokensFrom_cons blank] at valid ⊢
              obtain ⟨tokenValid, restValid⟩ := valid.of_cons
              obtain ⟨same, taken⟩ := lexeme_append separates tokenValid start
              have inner := inductionHypothesis taken separates.of_cons restValid (start + 1)
              rw [List.cons_append, tokensFrom_cons blank, same, inner, behind]
              rfl

/-- Valid tokens do not tell where their text starts. -/
theorem tokensFrom_start {chars : List Char} {position : Nat}
    (valid : Valid (tokensFrom position 0 chars)) (start : Nat) :
    tokensFrom start 0 chars = tokensFrom position 0 chars := by
  have moved := tokensFrom_append (Nat.zero_le _) (separates_nil chars) valid start
  rwa [List.append_nil, tokensFrom, List.append_nil] at moved

end NoteBase.Expr
