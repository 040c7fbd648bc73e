import NoteBase.Proofs.Expr.Lexing

/-!
# Tokens of a text that is cut off

A token looks ahead behind its own characters. Where a text is cut off behind a token, the
look-ahead meets the end instead of what stood there, and the token stays the same one: what the end
cannot be a part of, the character there was no part of either.
-/

namespace NoteBase.Expr

/-! ## Runs of characters -/

/-- A run at the front that ends before the text is cut off. -/
theorem takeWhile_take {good : Char → Bool} {chars : List Char} {count : Nat}
    (fits : (chars.takeWhile good).length ≤ count) :
    (chars.take count).takeWhile good = chars.takeWhile good := by
  rw [← List.take_takeWhile, List.take_of_length_le fits]

/-! ## Numbers -/

section Numbers

variable {chars : List Char} {count : Nat}

theorem fractionLength_take (fits : fractionLength chars ≤ count) :
    fractionLength (chars.take count) = fractionLength chars := by
  cases chars with
  | nil => rw [List.take_nil]
  | cons mark rest =>
      by_cases point : mark = '.'
      · subst point
        cases count with
        | zero => exact (Nat.le_zero.mp fits).symm
        | succ count =>
            have cut : (rest.take count).takeWhile Char.isDigit =
                (rest.takeWhile Char.isDigit).take count := List.take_takeWhile.symm
            simp only [List.take_succ_cons, fractionLength, cut] at fits ⊢
            by_cases none : (rest.takeWhile Char.isDigit).isEmpty = true
            · rw [List.isEmpty_iff.mp none, List.take_nil]
            · rw [if_neg none] at fits
              rw [List.take_of_length_le (by omega)]
      · cases count with
        | zero => simp [fractionLength, point]
        | succ count => simp [fractionLength, point]

/-- The number of characters of the sign at the front. -/
def signLength : List Char → Nat
  | '+' :: _ => 1
  | '-' :: _ => 1
  | _ => 0

theorem exponentLength_cons {mark : Char} (marked : mark = 'e' ∨ mark = 'E') (rest : List Char) :
    exponentLength (mark :: rest) =
      if ((rest.drop (signLength rest)).takeWhile Char.isDigit).isEmpty then 0
      else 1 + signLength rest +
        ((rest.drop (signLength rest)).takeWhile Char.isDigit).length := by
  unfold exponentLength
  dsimp only
  rw [if_pos marked]
  rfl

theorem signLength_take_succ (rest : List Char) (count : Nat) :
    signLength (rest.take (count + 1)) = signLength rest := by
  cases rest with
  | nil => rfl
  | cons sign rest =>
      by_cases plus : sign = '+'
      · subst plus
        rfl
      · by_cases minus : sign = '-'
        · subst minus
          rfl
        · simp [signLength, plus, minus]

theorem exponentLength_take (fits : exponentLength chars ≤ count) :
    exponentLength (chars.take count) = exponentLength chars := by
  cases chars with
  | nil => rw [List.take_nil]
  | cons mark rest =>
      cases count with
      | zero => exact (Nat.le_zero.mp fits).symm
      | succ count =>
          by_cases marked : mark = 'e' ∨ mark = 'E'
          · rw [List.take_succ_cons, exponentLength_cons marked, exponentLength_cons marked]
            rw [exponentLength_cons marked] at fits
            cases count with
            | zero =>
                -- An exponent has a digit at least, so that none is cut off here.
                split at fits
                · next none => rw [if_pos none]; rfl
                · next some =>
                  have digits := List.length_pos_iff.mpr (mt List.isEmpty_iff.mpr some)
                  omega
            | succ count =>
                rw [signLength_take_succ, List.drop_take]
                by_cases none :
                    ((rest.drop (signLength rest)).takeWhile Char.isDigit).isEmpty = true
                · rw [← List.take_takeWhile, List.isEmpty_iff.mp none, List.take_nil]
                · rw [if_neg none] at fits
                  rw [takeWhile_take (by omega)]
          · simp [exponentLength, marked]

theorem numberLength_take (fits : numberLength chars ≤ count) :
    numberLength (chars.take count) = numberLength chars := by
  unfold numberLength at fits ⊢
  dsimp only at fits ⊢
  have whole : ((chars.take count).takeWhile Char.isDigit).length =
      (chars.takeWhile Char.isDigit).length := by
    rw [takeWhile_take (by omega)]
  have fraction := @fractionLength_take (chars.drop (chars.takeWhile Char.isDigit).length)
    (count - (chars.takeWhile Char.isDigit).length) (by omega)
  have exponent := @exponentLength_take (chars.drop ((chars.takeWhile Char.isDigit).length +
      fractionLength (chars.drop (chars.takeWhile Char.isDigit).length)))
    (count - ((chars.takeWhile Char.isDigit).length +
      fractionLength (chars.drop (chars.takeWhile Char.isDigit).length))) (by omega)
  rw [whole, List.drop_take, fraction, List.drop_take, exponent]

theorem hasLeadingZero_take (noZero : hasLeadingZero chars = false) (count : Nat) :
    hasLeadingZero (chars.take count) = false := by
  unfold hasLeadingZero at noZero ⊢
  rw [← List.take_takeWhile]
  generalize chars.takeWhile Char.isDigit = digits at noZero ⊢
  rcases digits with _ | ⟨first, _ | ⟨second, digits⟩⟩
  · rw [List.take_nil]
  · cases count with
    | zero => rfl
    | succ count => rwa [List.take_succ_cons, List.take_nil]
  · by_cases zero : first = '0'
    · subst zero
      cases noZero
    · cases count with
      | zero => rfl
      | succ count => simp [zero]

end Numbers

/-! ## Texts in quotes -/

theorem stringBody?_take {quote : Char} {chars body : List Char} {taken count : Nat}
    (found : stringBody? quote chars = some (body, taken)) (fits : taken ≤ count) :
    stringBody? quote (chars.take count) = some (body, taken) := by
  fun_induction stringBody? quote chars generalizing body taken count with
  | case1 => cases found
  | case2 => cases found
  | case3 escaped rest inductionHypothesis =>
      obtain ⟨⟨inner, innerTaken⟩, innerFound, same⟩ := Option.map_eq_some_iff.mp found
      obtain ⟨rfl, rfl⟩ := Prod.mk.inj same
      obtain ⟨more, rfl⟩ := Nat.exists_eq_add_of_le' (Nat.le_of_add_left_le fits)
      have inside := @inductionHypothesis _ _ more innerFound (by omega)
      simp [stringBody?, inside]
  | case4 rest noBackslash =>
      obtain ⟨rfl, rfl⟩ := Prod.mk.inj (Option.some.inj found)
      obtain ⟨more, rfl⟩ := Nat.exists_eq_add_of_le' fits
      rw [List.take_succ_cons, stringBody?_cons noBackslash, if_pos rfl]
  | case5 char rest noBackslash different inductionHypothesis =>
      obtain ⟨⟨inner, innerTaken⟩, innerFound, same⟩ := Option.map_eq_some_iff.mp found
      obtain ⟨rfl, rfl⟩ := Prod.mk.inj same
      obtain ⟨more, rfl⟩ := Nat.exists_eq_add_of_le' (Nat.le_of_add_left_le fits)
      have inside := @inductionHypothesis _ _ more innerFound (by omega)
      rw [List.take_succ_cons, stringBody?_cons noBackslash, if_neg different, inside]
      rfl

/-! ## One token -/

section Tokens

variable {position count : Nat} {char : Char} {rest : List Char}

theorem plainLexeme_take (valid : ∀ error, (plainLexeme position char rest).1 ≠ .invalid error)
    (fits : (plainLexeme position char rest).2 ≤ count) :
    plainLexeme position char (rest.take count) = plainLexeme position char rest := by
  unfold plainLexeme at valid fits ⊢
  by_cases quote : char = '\'' ∨ char = '"'
  · simp only [if_pos quote] at valid fits ⊢
    cases found : stringBody? char rest with
    | none =>
        rw [found] at valid
        exact absurd rfl (valid (.unterminatedString position))
    | some read =>
        rw [found] at fits
        rw [stringBody?_take found fits]
  · simp only [if_neg quote] at valid fits ⊢
    by_cases digit : char.isDigit = true
    · simp only [if_pos digit] at valid fits ⊢
      by_cases leading : hasLeadingZero (char :: rest) = true
      · simp only [if_pos leading] at valid
        exact absurd rfl (valid (.leadingZero position))
      · rw [if_neg leading] at fits
        simp only at fits
        have noZero := hasLeadingZero_take (Bool.not_eq_true _ ▸ leading) (count + 1)
        have length := @numberLength_take (char :: rest) (count + 1) (by omega)
        rw [List.take_succ_cons] at noZero length
        rw [noZero, if_neg leading, if_neg Bool.false_ne_true, length, ← List.take_succ_cons,
          List.take_take, Nat.min_eq_left (by omega)]
    · simp only [if_neg digit] at valid fits ⊢
      by_cases start : isNameStart char = true
      · rw [if_pos start] at fits ⊢
        rw [if_pos start, takeWhile_take fits]
      · simp only [if_neg start] at valid
        exact absurd rfl (valid (.unexpectedChar char position))

theorem equalsCount_take (rest : List Char) (count : Nat) :
    equalsCount (rest.take count) = min count (equalsCount rest) := by
  rw [equalsCount, ← List.take_takeWhile, List.length_take]
  rfl

theorem signLexeme_take (sign : char ∈ signs)
    (valid : ∀ error, (lexeme position char rest).1 ≠ .invalid error)
    (fits : (lexeme position char rest).2 ≤ count) :
    lexeme position char (rest.take count) = lexeme position char rest := by
  simp only [signs, List.mem_cons, List.not_mem_nil, or_false] at sign
  rcases sign with rfl | rfl | rfl | rfl | rfl | rfl | rfl | rfl | rfl | rfl | rfl | rfl | rfl |
    rfl | rfl
  iterate 9 rfl
  · rw [lexeme_equals] at valid fits
    rw [lexeme_equals, lexeme_equals, equalsCount_take]
    grind
  · rw [lexeme_bang] at fits
    rw [lexeme_bang, lexeme_bang, equalsCount_take]
    grind
  · rw [lexeme_less] at fits
    rw [lexeme_less, lexeme_less, equalsCount_take]
    grind
  · rw [lexeme_greater] at fits
    rw [lexeme_greater, lexeme_greater, equalsCount_take]
    grind
  · obtain ⟨tail, rfl⟩ := exists_of_lexeme_double (.inl rfl) valid
    obtain ⟨more, rfl⟩ := Nat.exists_eq_add_of_le' (show 1 ≤ count from fits)
    rfl
  · obtain ⟨tail, rfl⟩ := exists_of_lexeme_double (.inr rfl) valid
    obtain ⟨more, rfl⟩ := Nat.exists_eq_add_of_le' (show 1 ≤ count from fits)
    rfl

/-- A valid token stays the same if the text is cut off anywhere behind it. -/
theorem lexeme_take (valid : ∀ error, (lexeme position char rest).1 ≠ .invalid error)
    (fits : (lexeme position char rest).2 ≤ count) :
    lexeme position char (rest.take count) = lexeme position char rest := by
  by_cases sign : char ∈ signs
  · exact signLexeme_take sign valid fits
  · rw [lexeme_eq_plainLexeme position sign] at valid fits ⊢
    rw [lexeme_eq_plainLexeme position sign]
    exact plainLexeme_take valid fits

end Tokens

end NoteBase.Expr
